import Keychart.Proofs.Text.KeptRuns

/-!
# The front that a cut shows

A cut shows a front of the text.  It keeps escape sequences whole, and of the runs
between them it keeps whole clusters, up to the first one that does not fit.  A reset
follows exactly if an escape sequence is among what is shown.
-/

namespace Keychart.Text

open Number

/-- An escape character inside a sequence is that of the terminator of a command. -/
theorem ne_escape_of_sequence
    {first c : Char} {front back : Text} (known : IsSequence (first :: front ++ c :: back)) :
    c ≠ '\x1b' ∨ c :: back = ['\x1b', '\\'] := by
  have inside {tail : Text} (same : front ++ c :: back = tail) : c ∈ tail := by
    rw [← same]
    exact List.mem_append_right front List.mem_cons_self
  generalize whole : first :: front ++ c :: back = code at known
  cases known with
  | control parameters final known ends =>
      left
      have member := inside (List.cons.inj whole).2
      rintro rfl
      rcases List.mem_append.mp ((List.mem_cons.mp member).resolve_left (by decide)) with
        parameter | last
      · exact absurd (known _ parameter) (by decide)
      · rw [← List.mem_singleton.mp last] at ends
        exact absurd ends (by decide)
  | bell body plain =>
      left
      have member := inside (List.cons.inj whole).2
      rintro rfl
      rcases List.mem_append.mp ((List.mem_cons.mp member).resolve_left (by decide)) with
        within | last
      · exact (plain _ within).2 rfl
      · exact absurd last (by decide)
  | terminator body plain =>
      have same : front ++ c :: back = '_' :: body ++ ['\x1b', '\\'] := (List.cons.inj whole).2
      rcases List.append_eq_append_iff.mp same with ⟨more, parted, behind⟩ | ⟨more, -, behind⟩
      · rcases List.cons_eq_append_iff.mp behind with ⟨-, last⟩ | ⟨rest, rfl, -⟩
        · exact .inr last.symm
        · left
          have member : c ∈ '_' :: body := by
            rw [parted]
            exact List.mem_append_right front List.mem_cons_self
          rintro rfl
          exact (plain _ ((List.mem_cons.mp member).resolve_left (by decide))).2 rfl
      · rcases List.cons_eq_append_iff.mp behind with ⟨-, last⟩ | ⟨rest, -, last⟩
        · exact .inr last
        · rcases List.cons_eq_append_iff.mp last with ⟨-, last⟩ | ⟨others, -, last⟩
          · left
            rw [(List.cons.inj last).1]
            decide
          · exact absurd last (by simp)

/-- No sequence begins inside another one. -/
theorem escapeLength_inside
    {front back : Text} (known : IsSequence (front ++ back)) (begun : front ≠ [])
    (unfinished : back ≠ []) (text : Text) :
    escapeLength (back ++ text) = 0 := by
  obtain ⟨first, front, rfl⟩ := List.exists_cons_of_ne_nil begun
  obtain ⟨c, back, rfl⟩ := List.exists_cons_of_ne_nil unfinished
  rcases ne_escape_of_sequence known with other | terminator
  · exact escapeLength_cons_of_ne other _
  · rw [terminator]
    rfl

private theorem consPlain_append_escape
    (c : Char) (front : List Piece) (code : Text) (back : List Piece) :
    consPlain c (front ++ .escape code :: back) = consPlain c front ++ .escape code :: back := by
  rcases front with _ | ⟨piece, front⟩
  · rfl
  · cases piece <;> rfl

private theorem eq_of_sequences
    {code other back rest : Text} (known : IsSequence code) (found : IsSequence other)
    (same : code ++ back = other ++ rest) :
    code = other := by
  have length := escapeLength_append known back
  rw [same, escapeLength_append found] at length
  exact (List.append_inj same length.symm).1

/-- Wherever an escape sequence stands in a text, it is one of its runs. -/
theorem exists_pieces_of_sequence
    {before code after : Text} (known : IsSequence code) {text : Text}
    (there : text = before ++ code ++ after) :
    ∃ front back, pieces text = front ++ .escape code :: back ∧ spelled front = before := by
  induction text using reading_induction generalizing before with
  | nil =>
      obtain ⟨_, _, _, rfl⟩ := exists_cons_of_sequence known
      exact absurd (congrArg List.length there) (by simp)
  | plain c text begun inductionHypothesis =>
      rcases before with _ | ⟨first, before⟩
      · have length := escapeLength_append known after
        obtain ⟨_, _, _, rfl⟩ := exists_cons_of_sequence known
        rw [there] at begun
        exact absurd (begun.symm.trans length) (by simp)
      · obtain ⟨rfl, rest⟩ := List.cons.inj there
        obtain ⟨front, back, parted, spells⟩ := inductionHypothesis rest
        refine ⟨consPlain c front, back, ?_, ?_⟩
        · rw [pieces_plain begun, parted, consPlain_append_escape]
        · rw [spelled_consPlain, spells]
  | sequence other text found inductionHypothesis =>
      rw [pieces_sequence found]
      rw [List.append_assoc] at there
      by_cases part : other <+: before
      · obtain ⟨more, rfl⟩ := part
        rw [List.append_assoc, List.append_cancel_left_eq, ← List.append_assoc] at there
        obtain ⟨front, back, parted, spells⟩ := inductionHypothesis there
        refine ⟨.escape other :: front, back, ?_, ?_⟩
        · rw [parted]
          rfl
        · rw [spelled_cons, spells]
          rfl
      · rcases List.append_eq_append_iff.mp there with ⟨more, rfl, -⟩ | ⟨more, rfl, behind⟩
        · exact absurd (List.prefix_append other more) part
        · by_cases first : before = []
          · subst first
            obtain rfl : code = more := eq_of_sequences known found behind
            exact ⟨[], pieces text, rfl, rfl⟩
          · have unfinished : more ≠ [] := by
              rintro rfl
              rw [List.append_nil] at part
              exact part List.prefix_rfl
            have inside := escapeLength_inside found first unfinished text
            have length := escapeLength_append known after
            obtain ⟨_, _, _, rfl⟩ := exists_cons_of_sequence known
            rw [behind, inside] at length
            cases length

private theorem mem_of_mem_consPlain
    {c : Char} {code : Text} {pieces : List Piece} (member : .escape code ∈ consPlain c pieces) :
    .escape code ∈ pieces := by
  rcases pieces with _ | ⟨⟨run⟩ | ⟨other⟩, pieces⟩
  · cases List.mem_singleton.mp member
  · rcases List.mem_cons.mp member with same | later
    · cases same
    · exact List.mem_cons_of_mem _ later
  · exact (List.mem_cons.mp member).resolve_left (by simp)

/-- A run that is no plain one is an escape sequence. -/
theorem isSequence_of_mem_pieces
    {text code : Text} (member : .escape code ∈ pieces text) : IsSequence code := by
  induction text using reading_induction with
  | nil => cases member
  | plain c text begun inductionHypothesis =>
      rw [pieces_plain begun] at member
      exact inductionHypothesis (mem_of_mem_consPlain member)
  | sequence other text known inductionHypothesis =>
      rw [pieces_sequence known] at member
      rcases List.mem_cons.mp member with same | later
      · cases same
        exact known
      · exact inductionHypothesis later

/-- Whether an escape sequence stands anywhere in a text. -/
def HasSequence (text : Text) : Prop := ∃ code, IsSequence code ∧ code <:+: text

/-- Every escape sequence is found by reading from the front. -/
theorem hasSequence_iff_any_isEscape (text : Text) :
    HasSequence text ↔ (pieces text).any Piece.isEscape = true := by
  constructor
  · rintro ⟨code, known, before, after, there⟩
    obtain ⟨front, back, parted, -⟩ := exists_pieces_of_sequence known there.symm
    rw [parted, List.any_append, List.any_cons, Piece.isEscape, Bool.true_or, Bool.or_true]
  · intro some
    obtain ⟨piece, member, escapes⟩ := List.any_eq_true.mp some
    cases piece with
    | plain run => cases escapes
    | escape code =>
        obtain ⟨front, back, parted⟩ := List.append_of_mem member
        have whole := spelled_pieces text
        rw [parted, spelled_append, spelled_cons, ← List.append_assoc] at whole
        exact ⟨code, isSequence_of_mem_pieces member, _, _, whole⟩

instance (text : Text) : Decidable (HasSequence text) :=
  decidable_of_iff _ (hasSequence_iff_any_isEscape text).symm

/-! ## Places for a cut -/

/-- Whether a front of a text ends between two of its runs, or between two clusters of
a plain one. -/
inductive EndsBetween (text : Text) : Text → Prop
  | runs {front back : List Piece} (whole : pieces text = front ++ back) :
      EndsBetween text (spelled front)
  | clusters {front back : List Piece} {run : Text} {first rest : List Text}
      (whole : pieces text = front ++ .plain run :: back)
      (parted : Text.clusters run = first ++ rest) :
      EndsBetween text (spelled front ++ first.flatten)

theorem EndsBetween.begins {text front : Text} (h : EndsBetween text front) :
    front <+: text := by
  have whole := spelled_pieces text
  cases h with
  | runs parted =>
      rw [parted, spelled_append] at whole
      exact ⟨_, whole⟩
  | @clusters _ back run _ _ parted cut =>
      have inside := (flatten_prefix_of_clusters cut).trans
        (List.prefix_append run (spelled back))
      rw [parted, spelled_append, spelled_cons] at whole
      rw [← whole]
      exact (List.prefix_append_right_inj _).mpr inside

/-- No escape sequence is cut: a front ends in front of it or behind it. -/
theorem EndsBetween.keeps_sequence
    {text front : Text} (h : EndsBetween text front) {before code after : Text}
    (known : IsSequence code) (there : text = before ++ code ++ after) :
    front <+: before ∨ before ++ code <+: front := by
  obtain ⟨first, last, found, rfl⟩ := exists_pieces_of_sequence known there
  cases h with
  | @runs kept left parted =>
      rw [parted] at found
      rcases List.append_eq_append_iff.mp found with ⟨more, rfl, -⟩ | ⟨more, rfl, same⟩
      · rw [spelled_append]
        exact .inl (List.prefix_append _ _)
      · rcases List.cons_eq_append_iff.mp same with ⟨rfl, -⟩ | ⟨others, rfl, -⟩
        · rw [List.append_nil]
          exact .inl List.prefix_rfl
        · rw [spelled_append, spelled_cons, ← List.append_assoc]
          exact .inr (List.prefix_append _ _)
  | @clusters kept left run some rest parted cut =>
      rw [parted] at found
      rcases List.append_eq_append_iff.mp found with ⟨more, rfl, same⟩ | ⟨more, rfl, same⟩
      · rcases List.cons_eq_append_iff.mp same with ⟨-, same⟩ | ⟨others, rfl, -⟩
        · cases same
        · rw [spelled_append, spelled_cons]
          have inside := (flatten_prefix_of_clusters cut).trans
            (List.prefix_append run (spelled others))
          exact .inl ((List.prefix_append_right_inj _).mpr inside)
      · rcases List.cons_eq_append_iff.mp same with ⟨-, same⟩ | ⟨others, rfl, -⟩
        · cases same
        · rw [spelled_append, spelled_cons, ← List.append_assoc, List.append_assoc]
          exact .inr (List.prefix_append _ _)

/-- What a cut to some room shows of a text: the longest front that ends between two
runs or two clusters and whose clusters fit. -/
structure ShownFront (room : Nat) (text shown : Text) : Prop where
  begins : shown <+: text
  between : EndsBetween text shown
  keeps_sequence : ∀ before code after, IsSequence code → text = before ++ code ++ after →
    shown <+: before ∨ before ++ code <+: shown
  fits : runsWidth (pieces shown) ≤ room
  /-- All is shown, or the cluster behind the front is the first that does not fit. -/
  longest : shown = text ∨
    ∃ cluster rest others, text = shown ++ cluster ++ rest ∧
      runClusters (pieces text) = runClusters (pieces shown) ++ cluster :: others ∧
      room < runsWidth (pieces shown) + clusterWidth cluster

/-- What is kept of a text is read as the same runs, and is the front that is shown. -/
theorem Keeps.shownFront
    {room : Nat} {text : Text} {kept : List Piece} (h : Keeps room (pieces text) kept) :
    pieces (spelled kept) = kept ∧ ShownFront room text (spelled kept) := by
  have own := pieces_spelled_of_front h.front
  have whole := spelled_pieces text
  refine ⟨own, ?_⟩
  have between : EndsBetween text (spelled kept) := by
    generalize same : pieces text = all at h
    cases h with
    | all fits => exact .runs (same.trans (List.append_nil _).symm)
    | upTo parted fits full =>
        rw [spelled_append, spelled_plainRun]
        exact .clusters same parted
  refine ⟨between.begins, between, fun _ _ _ known there => between.keeps_sequence known there,
    ?_, ?_⟩
  · rw [own]
    exact h.runsWidth_le
  · rw [own]
    generalize same : pieces text = all at h whole
    cases h with
    | all fits => exact .inl whole
    | @upTo front back run cluster first rest parted fits full =>
        have shown := flatten_clusters run
        rw [parted, List.flatten_append, List.flatten_cons] at shown
        refine .inr ⟨cluster, rest.flatten ++ spelled back, rest ++ runClusters back, ?_, ?_, full⟩
        · rw [← whole, spelled_append, spelled_append, spelled_plainRun, spelled_cons, Piece.text,
            ← shown]
          simp only [List.append_assoc]
        · rw [runClusters_append, runClusters_append, runClusters_plainRun parted,
            runClusters_plain, parted]
          simp only [List.append_assoc, List.cons_append]

theorem takeColumns_shownFront (room : Nat) (text : Text) :
    ShownFront room text (takeColumns room text).1 ∧
      ((takeColumns room text).2 = true ↔ HasSequence (takeColumns room text).1) := by
  obtain ⟨kept, keeps, taken⟩ := exists_keeps_takePieces room (pieces text)
  obtain ⟨own, shown⟩ := keeps.shownFront
  rw [takeColumns, taken, hasSequence_iff_any_isEscape, own]
  exact ⟨shown, Iff.rfl⟩

/-- A text that fits is shown as it is.  Of a wider one the longest front is shown
that leaves room for the ellipsis, then a reset if an escape sequence stands in that
front, and then the ellipsis. -/
theorem truncate_eq_longest_front (width : Nat) (ellipsis text : Text) :
    (0 < width → visibleWidth text ≤ width → truncate width ellipsis false text = text) ∧
      (width < visibleWidth text → visibleWidth ellipsis < width →
        ∃ shown, ShownFront (width - visibleWidth ellipsis) text shown ∧
          truncate width ellipsis false text =
            shown ++ (if HasSequence shown then resetCode else []) ++ ellipsis) := by
  constructor
  · intro positive fits
    rw [truncate, if_neg (Nat.ne_of_gt positive), if_pos fits]
    rfl
  · intro wide room
    obtain ⟨shown, styled⟩ := takeColumns_shownFront (width - visibleWidth ellipsis) text
    refine ⟨_, shown, ?_⟩
    rw [truncate, if_neg (by omega), if_neg (Nat.not_le.mpr wide), cut,
      if_neg (Nat.not_le.mpr room)]
    simp only [← styled, Bool.false_eq_true, if_false]

/-- Of five columns the dots leave two.  Behind the bold letter the syllable of two
letters and two columns does not fit, so one column stays empty. -/
theorem truncate_eq_longest_front_syllable :
    (visibleWidth (ofString "ab") ≤ 5 ∧ truncate 5 dots false (ofString "ab") = ofString "ab") ∧
      5 < visibleWidth (ofString "\x1b[1ma\u1100\u1161b\x1b[22mcde") ∧ visibleWidth dots < 5 ∧
      ∃ shown, ShownFront 2 (ofString "\x1b[1ma\u1100\u1161b\x1b[22mcde") shown ∧
        truncate 5 dots false (ofString "\x1b[1ma\u1100\u1161b\x1b[22mcde") =
          shown ++ (if HasSequence shown then resetCode else []) ++ dots := by
  have fits : visibleWidth (ofString "ab") ≤ 5 := by decide
  have wide : 5 < visibleWidth (ofString "\x1b[1ma\u1100\u1161b\x1b[22mcde") := by decide +kernel
  have room : visibleWidth dots < 5 := by decide
  exact ⟨⟨fits, (truncate_eq_longest_front 5 dots _).1 (by decide) fits⟩, wide, room,
    (truncate_eq_longest_front 5 dots _).2 wide room⟩

end Keychart.Text
