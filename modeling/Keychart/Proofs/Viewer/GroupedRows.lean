import Keychart.Proofs.Viewer.Scrolling
import Mathlib.Data.List.Basic

/-!
# Rows of a keymap

The rows of a keymap, split at the gaps, are the rows of the sections that show
something.  So every keybind has its row in the order of the keymap, every name stands
above the keybinds of its section, and gaps part the sections and nothing else.
Results show in their place, and when they go, the rows of the latest keymap come back.
-/

namespace Keychart.Viewer

def Row.result? : Row → Option SearchResult
  | .keybind result => some result
  | _ => none

/-- The name that a row shows above a section, if it shows one. -/
def Row.heading? : Row → Option Text
  | .heading name => some name
  | _ => none

def IsShown (s : Section) : Prop := s.name ≠ none ∨ s.keybinds ≠ []

instance (s : Section) : Decidable (IsShown s) := inferInstanceAs (Decidable (_ ∨ _))

def shownSections (sections : List Section) : List Section :=
  sections.filter fun s => decide (IsShown s)

private theorem shownSections_of_shown {s : Section} (shown : IsShown s) (sections : List Section) :
    shownSections (s :: sections) = s :: shownSections sections :=
  List.filter_cons_of_pos (decide_eq_true shown)

private theorem shownSections_of_hidden
    {s : Section} (hidden : ¬ IsShown s) (sections : List Section) :
    shownSections (s :: sections) = shownSections sections :=
  List.filter_cons_of_neg (by rwa [decide_eq_true_eq])

private theorem not_isEmpty_sectionRows (s : Section) :
    (!(sectionRows s).isEmpty) = decide (IsShown s) := by
  obtain ⟨name, keybinds⟩ := s
  cases name <;> cases keybinds <;> rfl

theorem sectionRows_ne_nil {s : Section} (shown : IsShown s) : sectionRows s ≠ [] := by
  intro empty
  have some := not_isEmpty_sectionRows s
  rw [empty, decide_eq_true shown] at some
  cases some

private theorem gap_not_mem_sectionRows (s : Section) : Row.gap ∉ sectionRows s := by
  simp [sectionRows]

private theorem keymapRows_eq_intercalate (sections : List Section) :
    keymapRows sections = [Row.gap].intercalate ((shownSections sections).map sectionRows) := by
  have same : (fun rows : List Row => !rows.isEmpty) ∘ sectionRows =
      fun s => decide (IsShown s) :=
    funext not_isEmpty_sectionRows
  rw [keymapRows, List.filter_map, same]
  rfl

/-- What does not come from a separator comes from the pieces that it parts. -/
theorem filterMap_intercalate {α β : Type} {f : α → Option β} {sep : α} (none : f sep = none)
    (pieces : List (List α)) :
    ([sep].intercalate pieces).filterMap f = pieces.flatMap fun piece => piece.filterMap f := by
  induction pieces with
  | nil => rfl
  | cons piece pieces inductionHypothesis =>
      cases pieces with
      | nil => simp
      | cons second pieces =>
          rw [List.intercalate_cons_cons, List.filterMap_append, List.filterMap_append,
            inductionHypothesis, List.flatMap_cons (x := piece), List.filterMap_cons_none none,
            List.filterMap_nil, List.append_nil]

private theorem filterMap_keymapRows {β : Type} {f : Row → Option β} (none : f .gap = none)
    (sections : List Section) :
    (keymapRows sections).filterMap f =
      sections.flatMap fun s => (sectionRows s).filterMap f := by
  rw [keymapRows_eq_intercalate, filterMap_intercalate none, List.flatMap_map]
  induction sections with
  | nil => rfl
  | cons s sections inductionHypothesis =>
      by_cases shown : IsShown s
      · rw [shownSections_of_shown shown, List.flatMap_cons, List.flatMap_cons,
          inductionHypothesis]
      · have empty : sectionRows s = [] := by
          have hidden := not_isEmpty_sectionRows s
          rw [decide_eq_false shown, Bool.not_eq_false', List.isEmpty_iff] at hidden
          exact hidden
        rw [shownSections_of_hidden shown, List.flatMap_cons, empty, inductionHypothesis]
        rfl

/-- Whether rows show a keymap section by section. -/
structure Groups (keymap : Keymap) (rows : List Row) : Prop where
  /-- Every keybind has one row, in the order of the keymap. -/
  keybinds : rows.filterMap Row.result? = keymap.keybinds.map fun k => { keybind := k }
  /-- Every name has one row. -/
  headings : rows.filterMap Row.heading? = keymap.sections.filterMap Section.name
  /-- Without a section that shows something there are no rows. -/
  nothing : rows = [] ↔ shownSections keymap.sections = []
  /-- Between the gaps stand the sections that show something, each with its name, if it
  has one, directly above its keybinds. -/
  blocks : rows ≠ [] →
    rows.splitOn .gap =
      (shownSections keymap.sections).map fun s =>
        (s.name.toList.map Row.heading) ++ s.keybinds.map fun k => .keybind { keybind := k }
  /-- A gap stands behind a row and in front of one, and neither is a gap. -/
  parted : ∀ front back, rows = front ++ .gap :: back →
    front ≠ [] ∧ back ≠ [] ∧ front.getLast? ≠ some .gap ∧ back.head? ≠ some .gap

private theorem splitOn_keymapRows {sections : List Section} (some : shownSections sections ≠ []) :
    (keymapRows sections).splitOn .gap = (shownSections sections).map sectionRows := by
  rw [keymapRows_eq_intercalate]
  apply List.splitOn_intercalate
  · intro rows member
    obtain ⟨s, -, rfl⟩ := List.mem_map.mp member
    exact gap_not_mem_sectionRows s
  · exact fun empty => some (List.map_eq_nil_iff.mp empty)

theorem keymapRows_eq_nil_iff (sections : List Section) :
    keymapRows sections = [] ↔ shownSections sections = [] := by
  constructor
  · intro empty
    by_contra some
    have pieces := splitOn_keymapRows some
    rw [empty, List.splitOn_nil] at pieces
    have hidden : [] ∈ (shownSections sections).map sectionRows := by
      rw [← pieces]
      exact List.mem_cons_self
    obtain ⟨s, member, nothing⟩ := List.mem_map.mp hidden
    exact sectionRows_ne_nil (of_decide_eq_true (List.mem_filter.mp member).2) nothing
  · intro empty
    rw [keymapRows_eq_intercalate, empty]
    rfl

/-- Where the gaps part rows into pieces of which none is empty, a gap stands between two
other rows. -/
theorem parted_of_splitOn {rows front back : List Row}
    (full : ∀ piece ∈ rows.splitOn .gap, piece ≠ []) (parts : rows = front ++ .gap :: back) :
    front ≠ [] ∧ back ≠ [] ∧ front.getLast? ≠ some .gap ∧ back.head? ≠ some .gap := by
  rw [parts, List.splitOn_append_cons_self] at full
  have fullFront : [] ∉ front.splitOn .gap := fun member =>
    full [] (List.mem_append_left _ member) rfl
  have fullBack : [] ∉ back.splitOn .gap := fun member =>
    full [] (List.mem_append_right _ member) rfl
  refine ⟨?_, ?_, ?_, ?_⟩
  · rintro rfl
    exact fullFront (by simp)
  · rintro rfl
    exact fullBack (by simp)
  · intro last
    obtain ⟨before, rfl⟩ := List.getLast?_eq_some_iff.mp last
    rw [List.splitOn_append_cons_self] at fullFront
    exact fullFront (by simp)
  · intro first
    obtain ⟨behind, rfl⟩ := List.head?_eq_some_iff.mp first
    have next := List.splitOn_append_cons_self (a := Row.gap) [] behind
    rw [List.nil_append] at next
    rw [next] at fullBack
    exact fullBack (by simp)

private theorem filterMap_result?_sectionRows (s : Section) :
    (sectionRows s).filterMap Row.result? = s.keybinds.map fun k => { keybind := k } := by
  have headings : (s.name.toList.map Row.heading).filterMap Row.result? = [] := by
    cases s.name <;> rfl
  rw [sectionRows, List.filterMap_append, headings, List.nil_append, List.filterMap_map]
  exact congrFun (List.filterMap_eq_map (f := fun k => ({ keybind := k } : SearchResult)))
    s.keybinds

private theorem filterMap_heading?_sectionRows (s : Section) :
    (sectionRows s).filterMap Row.heading? = s.name.toList := by
  have keybinds :
      (s.keybinds.map fun k => Row.keybind { keybind := k }).filterMap Row.heading? = [] := by
    rw [List.filterMap_map]
    exact List.filterMap_none s.keybinds
  rw [sectionRows, List.filterMap_append, keybinds, List.append_nil]
  cases s.name <;> rfl

/-- The rows of a keymap show it section by section. -/
theorem groups_keymapRows (keymap : Keymap) : Groups keymap (keymapRows keymap.sections) where
  keybinds := by
    rw [filterMap_keymapRows rfl, Keymap.keybinds, List.map_flatMap]
    exact List.flatMap_congr fun s _ => filterMap_result?_sectionRows s
  headings := by
    rw [filterMap_keymapRows rfl, List.filterMap_eq_flatMap_toList]
    exact List.flatMap_congr fun s _ => filterMap_heading?_sectionRows s
  nothing := keymapRows_eq_nil_iff keymap.sections
  blocks := fun some => splitOn_keymapRows fun hidden =>
    some ((keymapRows_eq_nil_iff keymap.sections).mpr hidden)
  parted := by
    intro front back parts
    have some : shownSections keymap.sections ≠ [] := by
      intro hidden
      rw [(keymapRows_eq_nil_iff keymap.sections).mpr hidden] at parts
      exact List.append_ne_nil_of_right_ne_nil front (List.cons_ne_nil _ back) parts.symm
    refine parted_of_splitOn ?_ parts
    rw [splitOn_keymapRows some]
    intro piece member
    obtain ⟨s, kept, rfl⟩ := List.mem_map.mp member
    exact sectionRows_ne_nil (of_decide_eq_true (List.mem_filter.mp kept).2)

/-- A keymap of sections with and without a name, some of them empty. -/
def mixedKeymap : Keymap where
  sections :=
    [{}, { name := some (Text.ofString "Empty") }, { keybinds := [{ keys := ['a'] }] }, {},
     { name := some (Text.ofString "Layout"), keybinds := [{ keys := ['b'] }, { keys := ['c'] }] }]

example :
    keymapRows mixedKeymap.sections =
      [.heading (Text.ofString "Empty"), .gap, .keybind { keybind := { keys := ['a'] } }, .gap,
       .heading (Text.ofString "Layout"), .keybind { keybind := { keys := ['b'] } },
       .keybind { keybind := { keys := ['c'] } }] := by
  decide

/-! ## Calls -/

namespace Pane

def Call.keymap? : Call → Option Keymap
  | .setKeymap keymap => some keymap
  | _ => none

def Call.results? : Call → Option (Option (List SearchResult))
  | .setResults results => some results
  | _ => none

def latestKeymap (calls : List Call) : Keymap :=
  (calls.filterMap Call.keymap?).getLast?.getD {}

/-- The results that were set last, unless they were taken away. -/
def latestResults (calls : List Call) : Option (List SearchResult) :=
  (calls.filterMap Call.results?).getLast?.getD none

section

variable (bindings : Bindings) (theme : Theme)

/-- Scrolling keeps what is shown. -/
theorem shown_perform (p : Pane) (action : Action) :
    (p.perform action).keymap = p.keymap ∧ (p.perform action).results = p.results := by
  cases action <;> exact ⟨rfl, rfl⟩

/-- One call: only those that set a keymap or results change what is shown. -/
theorem shown_call (p : Pane) (c : Call) :
    (call bindings theme p c).keymap = c.keymap?.getD p.keymap ∧
      (call bindings theme p c).results = c.results?.getD p.results := by
  cases c with
  | setKeymap keymap => exact ⟨rfl, rfl⟩
  | setResults results => exact ⟨rfl, rfl⟩
  | scrollBy rows => exact ⟨rfl, rfl⟩
  | setMaxVisible rows positive => exact ⟨rfl, rfl⟩
  | key data =>
      rw [call, pressKey?]
      cases scrollActions.find? fun a => bindings.triggers data a with
      | none => exact ⟨rfl, rfl⟩
      | some action => exact shown_perform p action
  | draw width =>
      rw [call, render]
      split <;> exact ⟨rfl, rfl⟩

theorem getLast?_filterMap_cons {α β : Type} (f : α → Option β) (a : α) (l : List α) (d : β) :
    ((a :: l).filterMap f).getLast?.getD d = (l.filterMap f).getLast?.getD ((f a).getD d) := by
  rw [List.filterMap_cons]
  cases f a with
  | none => rfl
  | some b =>
      rw [List.getLast?_cons]
      rfl

/-- A run: what was set last is shown. -/
theorem shown_run (p : Pane) (calls : List Call) :
    (run bindings theme p calls).keymap =
        (calls.filterMap Call.keymap?).getLast?.getD p.keymap ∧
      (run bindings theme p calls).results =
        (calls.filterMap Call.results?).getLast?.getD p.results := by
  induction calls generalizing p with
  | nil => exact ⟨rfl, rfl⟩
  | cons c calls inductionHypothesis =>
      obtain ⟨keymap, results⟩ := shown_call bindings theme p c
      rw [getLast?_filterMap_cons, getLast?_filterMap_cons, ← keymap, ← results]
      exact inductionHypothesis (call bindings theme p c)

/-- Whatever calls a pane gets, its rows show the keymap that was set last, section by
section, unless results were set behind it: these it shows in their order and nothing
else.  When the results are taken away, it shows that keymap again. -/
theorem rows_group_latest_keymap (rows : Int) (calls : List Call) :
    (latestResults calls = none →
        Groups (latestKeymap calls) (run bindings theme { maxVisible := rows } calls).rows) ∧
      (∀ results, latestResults calls = some results →
        (run bindings theme { maxVisible := rows } calls).rows = results.map Row.keybind) ∧
      Groups (latestKeymap calls)
        (run bindings theme { maxVisible := rows } (calls ++ [.setResults none])).rows := by
  obtain ⟨keymap, results⟩ := shown_run bindings theme { maxVisible := rows } calls
  have keymap : (run bindings theme { maxVisible := rows } calls).keymap = latestKeymap calls :=
    keymap
  have results :
      (run bindings theme { maxVisible := rows } calls).results = latestResults calls :=
    results
  refine ⟨?_, ?_, ?_⟩
  · intro none
    rw [Pane.rows, results, none, keymap]
    exact groups_keymapRows _
  · intro found some
    rw [Pane.rows, results, some]
  · rw [run_append, ← keymap]
    exact groups_keymapRows _

end

def awayCalls : List Call :=
  [.setResults (some []), .setKeymap layoutKeymap, .setKeymap mixedKeymap, .setResults none,
    .scrollBy 3]

def stayCalls : List Call :=
  [.setKeymap mixedKeymap, .setResults (some [{ keybind := { keys := ['b'] } }])]

theorem rows_group_latest_keymap_mixed :
    latestResults awayCalls = none ∧
      Groups mixedKeymap (run .usual .plain { maxVisible := 2 } awayCalls).rows ∧
      latestResults stayCalls = some [{ keybind := { keys := ['b'] } }] ∧
      (run .usual .plain { maxVisible := 2 } stayCalls).rows =
        [.keybind { keybind := { keys := ['b'] } }] := by
  have away : latestResults awayCalls = none := rfl
  have stay : latestResults stayCalls = some [{ keybind := { keys := ['b'] } }] := rfl
  obtain ⟨grouped, -, -⟩ := rows_group_latest_keymap .usual .plain 2 awayCalls
  obtain ⟨-, listed, -⟩ := rows_group_latest_keymap .usual .plain 2 stayCalls
  exact ⟨away, grouped away, stay, listed _ stay⟩

end Pane

end Keychart.Viewer
