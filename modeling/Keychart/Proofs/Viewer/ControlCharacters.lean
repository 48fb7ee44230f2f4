import Keychart.Proofs.Viewer.Arrivals

/-!
# Control characters in the query

A key that holds a control character is not written into the text, and editing adds
nothing to it.  A paste only loses its line ends.  So the text stays free of control
characters exactly as long as no paste brings one that ends no line.
-/

namespace Keychart.Viewer

/-- Whether a text is free of control characters. -/
def NoControl (text : Text) : Prop := ∀ c ∈ text, Unicode.isControl c = false

instance (text : Text) : Decidable (NoControl text) := List.decidableBAll _ text

theorem ne_of_not_isControl
    {c control : Char} (plain : Unicode.isControl c = false)
    (isControl : Unicode.isControl control = true) :
    c ≠ control := by
  rintro rfl
  rw [plain] at isControl
  cases isControl

theorem noControl_append_iff {front back : Text} :
    NoControl (front ++ back) ↔ NoControl front ∧ NoControl back :=
  List.forall_mem_append

theorem NoControl.sublist {text part : Text}
    (noControl : NoControl text) (sublist : part.Sublist text) : NoControl part :=
  fun c member => noControl c (sublist.subset member)

theorem noControl_flatten_lines_iff {text : Text} :
    NoControl (Text.lines text).flatten ↔
      ∀ c ∈ text, Unicode.isControl c = true → Text.isLineBoundary c = true := by
  rw [Text.flatten_lines]
  constructor
  · intro noControl c member control
    by_contra inside
    have kept : c ∈ text.filter fun c => !Text.isLineBoundary c :=
      List.mem_filter.mpr ⟨member, by simp [inside]⟩
    have visible := noControl c kept
    rw [control] at visible
    cases visible
  · intro boundaries c kept
    rw [List.mem_filter] at kept
    obtain ⟨member, inside⟩ := kept
    by_contra control
    have boundary := boundaries c member (by simpa using control)
    rw [boundary] at inside
    cases inside

/-- Whether an arrival brings no control character that would be written: a key is
looked at, a paste is not. -/
def Arrival.Harmless : Arrival → Prop
  | .key _ => True
  | .paste text => ∀ c ∈ text, Unicode.isControl c = true → Text.isLineBoundary c = true

namespace Query

variable {bindings : Bindings} {q : Query} {text : Text}

theorem noControl_value_insert_iff :
    NoControl (q.insert text).value ↔ NoControl q.value ∧ NoControl text := by
  simp only [value, insert, noControl_append_iff]
  tauto

private theorem noControl_value_pressKey (noControl : NoControl q.value) (data : Text) :
    NoControl (q.pressKey bindings data).value := by
  rw [pressKey]
  split
  next action triggered => exact noControl.sublist (q.value_perform_sublist action)
  next =>
    by_cases control : data.any Unicode.isControl
    · rw [if_pos control]
      exact noControl
    · rw [if_neg control]
      have visible : NoControl data := by
        simpa [NoControl] using control
      exact noControl_value_insert_iff.mpr ⟨noControl, visible⟩

/-- A step: the text stays free of control characters exactly if the arrival is
harmless. -/
theorem noControl_value_take_iff (noControl : NoControl q.value) (arrival : Arrival) :
    NoControl (q.take bindings arrival).value ↔ arrival.Harmless := by
  cases arrival with
  | key data => exact iff_of_true (noControl_value_pressKey noControl data) trivial
  | paste text =>
      rw [take, noControl_value_insert_iff, and_iff_right noControl]
      exact noControl_flatten_lines_iff

/-- A run: the text is free of control characters behind each arrival exactly if all
are harmless. -/
theorem noControl_value_foldl_take_iff
    (noControl : NoControl q.value) (arrived : List Arrival) :
    (∀ front, front <+: arrived → NoControl (front.foldl (take bindings) q).value) ↔
      ∀ arrival ∈ arrived, arrival.Harmless := by
  induction arrived generalizing q with
  | nil =>
      constructor
      · intro _ arrival member
        cases member
      · intro _ front isFront
        rw [List.prefix_nil.mp isFront]
        exact noControl
  | cons arrival arrived inductionHypothesis =>
      rw [List.forall_mem_cons]
      constructor
      · intro always
        have single : [arrival] <+: arrival :: arrived := ⟨arrived, rfl⟩
        have next : NoControl (q.take bindings arrival).value := always [arrival] single
        refine ⟨(noControl_value_take_iff noControl arrival).mp next,
          (inductionHypothesis next).mp ?_⟩
        intro front isFront
        exact always (arrival :: front) (List.prefix_cons_inj arrival |>.mpr isFront)
      · rintro ⟨harmless, allHarmless⟩ front isFront
        rcases List.prefix_cons_iff.mp isFront with empty | ⟨rest, parts, isRest⟩
        · rw [empty]
          exact noControl
        · have next : NoControl (q.take bindings arrival).value :=
            (noControl_value_take_iff noControl arrival).mpr harmless
          rw [parts]
          exact (inductionHypothesis next).mpr allHarmless rest isRest

/-- Behind each of the inputs, the text is what the arrivals so far have made of it.
It is free of control characters behind each arrival exactly if no paste brings one
that ends no line. -/
theorem noControl_value_iff_pastes (bindings : Bindings) (inputs : List Text) :
    (∀ calls, calls <+: inputs →
        (arrivalsOf none calls).1 <+: (arrivalsOf none inputs).1 ∧
          (calls.foldl (read bindings) {}).value =
            ((arrivalsOf none calls).1.foldl (take bindings) {}).value) ∧
      ((∀ arrived, arrived <+: (arrivalsOf none inputs).1 →
          NoControl (arrived.foldl (take bindings) {}).value) ↔
        ∀ text, .paste text ∈ (arrivalsOf none inputs).1 →
          ∀ c ∈ text, Unicode.isControl c = true → Text.isLineBoundary c = true) := by
  constructor
  · intro calls isFront
    exact ⟨arrivalsOf_begins none isFront, value_foldl_read bindings {} calls⟩
  · have fresh : NoControl ({} : Query).value := by decide
    rw [noControl_value_foldl_take_iff fresh]
    constructor
    · intro allHarmless text member
      exact allHarmless (.paste text) member
    · intro pastes arrival member
      cases arrival with
      | key data => trivial
      | paste text => exact pastes text member

/-- A paste of two lines. -/
theorem noControl_value_iff_pastes_lines :
    NoControl
      (([Text.ofString "\x1b[200~a\nb\x1b[201~"].foldl (read Bindings.usual) {}).value) := by
  have isPaste :
      Text.ofString "\x1b[200~a\nb\x1b[201~" = Key.bracketed (Text.ofString "a\nb") := by
    decide
  have arrived :
      (arrivalsOf none [Key.bracketed (Text.ofString "a\nb")]).1 =
        [.paste (Text.ofString "a\nb")] := by
    rw [arrivalsOf, arrivals_bracketed (by decide)]
    rfl
  obtain ⟨behindCalls, behindArrivals⟩ :=
    noControl_value_iff_pastes Bindings.usual [Key.bracketed (Text.ofString "a\nb")]
  rw [isPaste, (behindCalls _ (List.prefix_refl _)).2]
  refine behindArrivals.mpr ?_ _ (List.prefix_refl _)
  rw [arrived]
  intro text member
  cases List.mem_singleton.mp member
  exact noControl_flatten_lines_iff.mp (by decide)

/-- A paste writes a bell into the text. -/
theorem not_noControl_read_bell :
    ¬ NoControl
      (([Text.ofString "\x1b[200~a\x07b\x1b[201~"].foldl (read Bindings.usual) {}).value) := by
  have isPaste :
      Text.ofString "\x1b[200~a\x07b\x1b[201~" = Key.bracketed (Text.ofString "a\x07b") := by
    decide
  have pastable : Key.Pastable (Text.ofString "a\x07b") := by decide
  rw [List.foldl_cons, List.foldl_nil, isPaste, read_bracketed Bindings.usual {} pastable]
  decide

end Query

end Keychart.Viewer
