import Keychart.Markup.Reader
import Mathlib.Data.List.Basic

/-!
# What a reader has stored

The keybinds that a reader has listed so far, in order, whatever sections hold
them.  Each transition either adds one keybind at the end or leaves them as they
are, and the keymap shows those that are not left out.
-/

namespace Keychart.Markup.Reader

/-- All keybinds listed so far, with those that are left out. -/
def stored (r : Reader) : List Keybind := r.sections.flatMap Section.keybinds

/-- The keybinds listed so far that the keymap shows. -/
def shown (r : Reader) : List Keybind := r.stored.filter fun k => !k.isIgnored

def currentName (r : Reader) : Option Text := r.openSection.name

theorem read_of_inside {r : Reader} (inside : r.phase = .inside) (line : Line) :
    r.read line = r.readInside line := by
  simp only [read, inside]

theorem readAll_singleton (r : Reader) (line : Line) :
    r.readAll [line] = r.read line := rfl

theorem readAll_append (r : Reader) (front back : List Line) :
    r.readAll (front ++ back) = (r.readAll front).readAll back :=
  List.foldl_append

theorem readAll_opening (title : Text) (lines : List Line) :
    ({} : Reader).readAll (.opening title :: lines) =
      (({} : Reader).openRegion title).readAll lines := rfl

section Listing

variable (r : Reader) (keybind : Keybind)

/-- A keybind is stored behind all others, under the name of its section. -/
@[simp]
theorem stored_list :
    (r.list keybind).stored =
      r.stored ++ [{ keybind with sectionName := r.currentName }] := by
  cases found : r.current with
  | none =>
      simp [stored, sections, list, remark, openSection, currentName, found]
  | some s =>
      simp [stored, sections, list, remark, openSection, currentName, found]

theorem shown_list_of_isIgnored (ignored : keybind.isIgnored = true) :
    (r.list keybind).shown = r.shown := by
  simp [shown, ignored]

theorem shown_list_of_not_isIgnored (visible : keybind.isIgnored = false) :
    (r.list keybind).shown =
      r.shown ++ [{ keybind with sectionName := r.currentName }] := by
  simp [shown, visible]

end Listing

/-- A waiting entry as it is listed by itself. -/
def entryKeybind (keys text : Text) : Keybind :=
  { keys := keys, description := text, isFake := true }

section FlushEntry

variable {r : Reader}

theorem flushEntry_of_none (waiting : r.entry = none) : r.flushEntry = r := by
  rw [flushEntry, waiting]

theorem flushEntry_of_some {keys text : Text}
    (waiting : r.entry = some (keys, text)) :
    r.flushEntry = list { r with entry := none } (entryKeybind keys text) := by
  rw [flushEntry, waiting]
  rfl

@[simp]
theorem phase_flushEntry : r.flushEntry.phase = r.phase := by
  unfold flushEntry
  split <;> rfl

@[simp]
theorem title_flushEntry : r.flushEntry.title = r.title := by
  unfold flushEntry
  split <;> rfl

@[simp]
theorem description_flushEntry :
    r.flushEntry.description = r.description := by
  unfold flushEntry
  split <;> rfl

@[simp]
theorem entry_flushEntry : r.flushEntry.entry = none := by
  unfold flushEntry
  split
  next waiting => exact waiting
  next => rfl

@[simp]
theorem hidden_flushEntry : r.flushEntry.hidden = r.hidden := by
  unfold flushEntry
  split <;> rfl

@[simp]
theorem finished_flushEntry : r.flushEntry.finished = r.finished := by
  unfold flushEntry
  split <;> rfl

@[simp]
theorem currentName_flushEntry :
    r.flushEntry.currentName = r.currentName := by
  unfold flushEntry
  split <;> rfl

end FlushEntry

section ReadCode

variable {r : Reader} {line keys action text : Text}

theorem readCode_of_some
    (waiting : r.entry = some (keys, text)) :
    r.readCode line =
      r.dropWaiting.list
        { entryKeybind keys text with isIgnored := r.hidden } := by
  simp only [readCode, waiting]
  rfl

theorem readCode_of_binding
    (settled : r.entry = none) (found : binding? line = some (keys, action)) :
    r.readCode line =
      r.dropWaiting.list
        { keys := keys, description := r.description.getD [],
          action := action, isIgnored := r.hidden } := by
  simp only [readCode, settled, found]

theorem stored_readCode_of_none
    (settled : r.entry = none) (absent : binding? line = none) :
    (r.readCode line).stored = r.stored := by
  simp only [readCode, settled, absent]
  split <;> rfl

/-- Code ends the wait of all annotations, and lists one keybind at most. -/
theorem readCode_cases (r : Reader) (line : Text) :
    (∃ keybind, r.readCode line = r.dropWaiting.list keybind) ∨
      (∃ note, r.readCode line = r.dropWaiting.remark note) ∨
      r.readCode line = r.dropWaiting := by
  unfold readCode
  split
  · exact Or.inl ⟨_, rfl⟩
  · split
    · exact Or.inl ⟨_, rfl⟩
    · split
      · exact Or.inr (Or.inl ⟨_, rfl⟩)
      · exact Or.inr (Or.inr rfl)

end ReadCode

@[simp]
theorem stored_endSection (r : Reader) : r.endSection.stored = r.stored := by
  simp [stored, sections, endSection]

@[simp]
theorem stored_head (r : Reader) (name : Option Text) :
    (r.head name).stored = r.stored := by
  cases name with
  | none => exact stored_endSection r
  | some name => simp [head, stored, sections, endSection, remark]

@[simp]
theorem stored_dropWaiting (r : Reader) : r.dropWaiting.stored = r.stored := rfl

@[simp]
theorem stored_remark (r : Reader) (note : Remark) :
    (r.remark note).stored = r.stored := rfl

@[simp]
theorem currentName_head (r : Reader) (name : Option Text) :
    (r.head name).currentName = name := by
  cases name <;> rfl

/-- At the end of an open region the waiting entry is listed. -/
theorem stored_settle_of_inside {r : Reader} (inside : r.phase = .inside) :
    r.settle.stored = r.flushEntry.stored := by
  rw [settle, if_pos (by simp [isInside, inside])]
  rfl

theorem settle_of_after {r : Reader} (after : r.phase = .after) :
    r.settle = r := by
  rw [settle, if_neg (by simp [isInside, after])]

theorem sections_closeRegion (r : Reader) :
    r.closeRegion.sections = r.flushEntry.sections := by
  have flushed :
      (r.remark .closed).flushEntry.sections = r.flushEntry.sections := by
    have same : (r.remark .closed).entry = r.entry := rfl
    cases waiting : r.entry with
    | none =>
        rw [flushEntry_of_none waiting, flushEntry_of_none (same.trans waiting)]
        rfl
    | some entry =>
        rw [flushEntry_of_some waiting, flushEntry_of_some (same.trans waiting)]
        rfl
  rw [← flushed]
  exact List.append_nil _

theorem stored_closeRegion (r : Reader) :
    r.closeRegion.stored = r.flushEntry.stored := by
  rw [stored, stored, sections_closeRegion]

/-- Leaving out sections that show nothing loses no keybind. -/
theorem flatMap_filter_sections (sections : List Section) :
    (sections.filter fun s => s.name.isSome || !s.keybinds.isEmpty).flatMap
        Section.keybinds =
      sections.flatMap Section.keybinds := by
  induction sections with
  | nil => rfl
  | cons s sections inductionHypothesis =>
      rw [List.filter_cons, List.flatMap_cons]
      split
      next => rw [List.flatMap_cons, inductionHypothesis]
      next dropped =>
        have empty : s.keybinds = [] := by
          simp only [Bool.or_eq_true, not_or] at dropped
          simpa using dropped.2
        rw [inductionHypothesis, empty, List.nil_append]

private theorem flatMap_visibleSection (sections : List Section) :
    (sections.map visibleSection).flatMap Section.keybinds =
      (sections.flatMap Section.keybinds).filter fun k => !k.isIgnored := by
  rw [List.flatMap_map, List.filter_flatMap]
  rfl

/-- A keymap lists exactly the keybinds that are not left out. -/
theorem keybinds_keymap (r : Reader) : r.keymap.keybinds = r.shown := by
  rw [Keymap.keybinds, keymap, flatMap_filter_sections, flatMap_visibleSection]
  rfl

end Keychart.Markup.Reader
