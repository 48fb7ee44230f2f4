import Keychart.Proofs.Markup.LookAround
import Keychart.Proofs.Markup.Surroundings
import Mathlib.Data.List.Infix

/-!
# Finishing in the middle

A reader can be asked for its keymap at any time and be fed further lines behind
that.  What it has listed only grows, so an earlier keymap lists the first
keybinds of every later one.  An entry of the region is either listed or waits,
whatever was asked in between, and asking twice gives the same keymap twice.

Every call either stores keybinds behind the others or stores none, and an entry
leaves its wait only by being listed.  Both follow call by call.
-/

namespace Keychart.Markup

inductive Call where
  | feed (line : Line)
  | finish
deriving DecidableEq, Repr

def Call.line? : Call → Option Line
  | feed line => some line
  | finish => none

def fed (calls : List Call) : List Line := calls.filterMap Call.line?

/-- The lines behind the first region mark, up to the next bare one. -/
def regionOf (lines : List Line) : List Line :=
  (lines.dropWhile fun line => !line.isRegionMark).tail.takeWhile (· ≠ .closing)

namespace Reader

def answer (r : Reader) : Call → Reader
  | .feed line => r.read line
  | .finish => r.finish.1

def answerAll (r : Reader) (calls : List Call) : Reader := calls.foldl answer r

/-- The keymaps that are given on the way, in order. -/
def keymaps (r : Reader) : List Call → List Keymap
  | [] => []
  | .feed line :: calls => (r.read line).keymaps calls
  | .finish :: calls => r.finish.2 :: r.finish.1.keymaps calls

/-- The listed entries, keys and text, with those that are left out. -/
def listedEntries (r : Reader) : List (Text × Text) :=
  (r.stored.filter Keybind.isFake).map fun k => (k.keys, k.description)

/-- The entries met so far: those that are listed and the one that waits. -/
def metEntries (r : Reader) : List (Text × Text) := r.listedEntries ++ r.entry.toList

variable {r : Reader}

theorem answerAll_cons (call : Call) (calls : List Call) :
    r.answerAll (call :: calls) = (r.answer call).answerAll calls := rfl

theorem keymaps_append (front back : List Call) :
    r.keymaps (front ++ back) = r.keymaps front ++ (r.answerAll front).keymaps back := by
  induction front generalizing r with
  | nil => rfl
  | cons call front inductionHypothesis =>
      cases call with
      | feed line => exact inductionHypothesis
      | finish => exact congrArg (r.finish.2 :: ·) inductionHypothesis

private theorem stored_prefix_list (keybind : Keybind) : r.stored <+: (r.list keybind).stored := by
  rw [stored_list]
  exact List.prefix_append _ _

private theorem stored_prefix_flushEntry : r.stored <+: r.flushEntry.stored := by
  cases waiting : r.entry with
  | none =>
      rw [flushEntry_of_none waiting]
  | some entry =>
      rw [flushEntry_of_some waiting]
      exact stored_prefix_list (r := { r with entry := none }) _

private theorem stored_prefix_readCode (line : Text) : r.stored <+: (r.readCode line).stored := by
  rcases readCode_cases r line with ⟨keybind, listed⟩ | ⟨note, reported⟩ | dropped
  · rw [listed]
    exact stored_prefix_list (r := r.dropWaiting) keybind
  · rw [reported]
    exact List.prefix_rfl
  · rw [dropped]
    exact List.prefix_rfl

private theorem stored_prefix_readInside
    (line : Line) : r.stored <+: (r.readInside line).stored := by
  have flushed : r.stored <+: r.flushEntry.stored := stored_prefix_flushEntry
  cases line with
  | opening title => exact List.prefix_rfl
  | closing =>
      change r.stored <+: r.closeRegion.stored
      rw [stored_closeRegion]
      exact flushed
  | heading name =>
      change r.stored <+: (r.flushEntry.dropWaiting.head name).stored
      rw [stored_head]
      exact flushed
  | description text => exact flushed
  | entry keys text => exact flushed
  | hide note => exact flushed
  | code line => exact stored_prefix_readCode line
  | blank => exact List.prefix_rfl
  | other line => exact List.prefix_rfl

private theorem stored_prefix_read (line : Line) : r.stored <+: (r.read line).stored := by
  cases phase : r.phase with
  | inside =>
      rw [read_of_inside phase]
      exact stored_prefix_readInside line
  | after =>
      have still : r.read line = r := readAll_of_after phase [line]
      rw [still]
  | before =>
      cases line with
      | opening title =>
          simp only [read, phase]
          exact List.prefix_rfl
      | closing =>
          simp only [read, phase]
          exact List.prefix_rfl
      | _ => rw [read_of_before phase rfl]

private theorem settle_of_not_inside (outside : r.phase ≠ .inside) : r.settle = r := by
  rw [settle, if_neg (by simp [isInside, outside])]

private theorem stored_prefix_settle : r.stored <+: r.settle.stored := by
  by_cases inside : r.phase = .inside
  · rw [stored_settle_of_inside inside]
    exact stored_prefix_flushEntry
  · rw [settle_of_not_inside inside]

private theorem stored_prefix_answer (call : Call) : r.stored <+: (r.answer call).stored := by
  cases call with
  | feed line => exact stored_prefix_read line
  | finish => exact stored_prefix_settle

private theorem shown_prefix_of_stored {s : Reader} (grown : r.stored <+: s.stored) :
    r.shown <+: s.shown :=
  grown.filter _

/-- What is shown at some time is in front of what every later keymap lists. -/
theorem shown_prefix_of_mem_keymaps
    {calls : List Call} {keymap : Keymap} (given : keymap ∈ r.keymaps calls) :
    r.shown <+: keymap.keybinds := by
  induction calls generalizing r with
  | nil => cases given
  | cons call calls inductionHypothesis =>
      have first : r.shown <+: (r.answer call).shown :=
        shown_prefix_of_stored (stored_prefix_answer call)
      cases call with
      | feed line => exact first.trans (inductionHypothesis given)
      | finish =>
          rcases List.mem_cons.mp given with same | later
          · rw [same]
            change r.shown <+: r.settle.keymap.keybinds
            rw [keybinds_keymap]
            exact first
          · exact first.trans (inductionHypothesis later)

private theorem pairwise_keymaps (calls : List Call) :
    (r.keymaps calls).Pairwise fun earlier later => earlier.keybinds <+: later.keybinds := by
  induction calls generalizing r with
  | nil => exact List.Pairwise.nil
  | cons call calls inductionHypothesis =>
      cases call with
      | feed line => exact inductionHypothesis
      | finish =>
          apply List.Pairwise.cons _ inductionHypothesis
          intro later given
          change r.settle.keymap.keybinds <+: later.keybinds
          rw [keybinds_keymap]
          exact shown_prefix_of_mem_keymaps given

/-! ## Entries are listed or wait -/

private theorem listedEntries_congr {s : Reader} (stored : r.stored = s.stored) :
    r.listedEntries = s.listedEntries := by
  rw [listedEntries, listedEntries, stored]

private theorem metEntries_congr
    {s : Reader} (stored : r.stored = s.stored) (entry : r.entry = s.entry) :
    r.metEntries = s.metEntries := by
  rw [metEntries, metEntries, listedEntries_congr stored, entry]

private theorem metEntries_of_none (settled : r.entry = none) : r.metEntries = r.listedEntries := by
  rw [metEntries, settled]
  exact List.append_nil _

private theorem listedEntries_list_of_fake {keybind : Keybind} (fake : keybind.isFake = true) :
    (r.list keybind).listedEntries =
      r.listedEntries ++ [(keybind.keys, keybind.description)] := by
  simp [listedEntries, fake]

private theorem listedEntries_list_of_not_fake {keybind : Keybind} (real : keybind.isFake = false) :
    (r.list keybind).listedEntries = r.listedEntries := by
  simp [listedEntries, real]

/-- Listed, the waiting entry stands behind the others. -/
theorem listedEntries_flushEntry : r.flushEntry.listedEntries = r.metEntries := by
  cases waiting : r.entry with
  | none => rw [flushEntry_of_none waiting, metEntries_of_none waiting]
  | some entry =>
      rw [flushEntry_of_some waiting, listedEntries_list_of_fake rfl, metEntries, waiting]
      rfl

/-- Code lists the waiting entry in its own place, or lists no entry. -/
theorem metEntries_readCode (line : Text) : (r.readCode line).metEntries = r.metEntries := by
  have settled : (r.readCode line).entry = none := by
    rcases readCode_cases r line with ⟨keybind, listed⟩ | ⟨note, reported⟩ | dropped
    · rw [listed]
      rfl
    · rw [reported]
      rfl
    · rw [dropped]
      rfl
  rw [metEntries_of_none settled]
  cases waiting : r.entry with
  | some entry =>
      rw [readCode_of_some waiting, listedEntries_list_of_fake rfl, metEntries, waiting]
      rfl
  | none =>
      rw [metEntries_of_none waiting]
      cases found : binding? line with
      | some bound =>
          rw [readCode_of_binding waiting found, listedEntries_list_of_not_fake rfl]
          rfl
      | none => exact listedEntries_congr (stored_readCode_of_none waiting found)

/-- Inside the region a line adds the entry that it is, and nothing else does. -/
theorem metEntries_readInside (line : Line) :
    (r.readInside line).metEntries = r.metEntries ++ line.asEntry.toList := by
  have flushed {s : Reader} (stored : s.stored = r.flushEntry.stored)
      (settled : s.entry = none) : s.metEntries = r.metEntries := by
    rw [metEntries_of_none settled, listedEntries_congr stored, listedEntries_flushEntry]
  cases line with
  | entry keys text =>
      rw [metEntries, ← listedEntries_flushEntry]
      rfl
  | opening title => exact (List.append_nil _).symm
  | closing => exact (flushed (stored_closeRegion r) rfl).trans (List.append_nil _).symm
  | heading name =>
      have settled : (r.flushEntry.dropWaiting.head name).entry = none := by
        cases name with
        | none => rfl
        | some name => rfl
      exact (flushed (stored_head r.flushEntry.dropWaiting name) settled).trans (List.append_nil _).symm
  | description text => exact (flushed rfl entry_flushEntry).trans (List.append_nil _).symm
  | hide note => exact (flushed rfl entry_flushEntry).trans (List.append_nil _).symm
  | code line => exact (metEntries_readCode line).trans (List.append_nil _).symm
  | blank => exact (List.append_nil _).symm
  | other line => exact (List.append_nil _).symm

private theorem metEntries_settle : r.settle.metEntries = r.metEntries := by
  by_cases inside : r.phase = .inside
  · have settled : r.settle.entry = none := by
      rw [settle, if_pos (by simp [isInside, inside])]
      rfl
    rw [metEntries_of_none settled, listedEntries_congr (stored_settle_of_inside inside),
      listedEntries_flushEntry]
  · rw [settle_of_not_inside inside]

private theorem phase_settle : r.settle.phase = r.phase := by
  by_cases inside : r.phase = .inside
  · rw [settle, if_pos (by simp [isInside, inside])]
    exact phase_flushEntry
  · rw [settle_of_not_inside inside]

private theorem metEntries_answerAll_of_after (after : r.phase = .after) (calls : List Call) :
    (r.answerAll calls).metEntries = r.metEntries := by
  induction calls generalizing r with
  | nil => rfl
  | cons call calls inductionHypothesis =>
      cases call with
      | feed line =>
          have still : r.read line = r := readAll_of_after after [line]
          rw [answerAll_cons, answer, still]
          exact inductionHypothesis after
      | finish =>
          rw [answerAll_cons, answer, finish, settle_of_after after]
          exact inductionHypothesis after

/-- From inside the region, the entries are met that stand in front of the mark that
closes it. -/
theorem metEntries_answerAll_of_inside (inside : r.phase = .inside) (calls : List Call) :
    (r.answerAll calls).metEntries =
      r.metEntries ++ ((fed calls).takeWhile (· ≠ .closing)).filterMap Line.asEntry := by
  induction calls generalizing r with
  | nil => exact (List.append_nil _).symm
  | cons call calls inductionHypothesis =>
      cases call with
      | finish =>
          rw [answerAll_cons, answer, finish,
            inductionHypothesis (phase_settle.trans inside), metEntries_settle]
          rfl
      | feed line =>
          have step := metEntries_readInside (r := r) line
          rw [← read_of_inside inside] at step
          have lines : fed (.feed line :: calls) = line :: fed calls := rfl
          rw [answerAll_cons, answer, lines]
          by_cases ends : line = .closing
          · subst ends
            have after : (r.read .closing).phase = .after := by
              rw [read_of_inside inside]
              rfl
            rw [metEntries_answerAll_of_after after, step]
            rfl
          · rw [inductionHypothesis (phase_read_of_inside inside ends), step,
              List.takeWhile_cons_of_pos (by simpa using ends), List.append_assoc,
              List.filterMap_cons]
            cases line.asEntry with
            | none => rfl
            | some entry => rfl

private theorem metEntries_read_of_before
    (before : r.phase = .before) (line : Line) : (r.read line).metEntries = r.metEntries := by
  cases line with
  | opening title =>
      simp only [read, before]
      exact metEntries_congr rfl rfl
  | closing =>
      simp only [read, before]
      exact metEntries_congr rfl rfl
  | _ => rw [read_of_before before rfl]

private theorem metEntries_answerAll_of_before (before : r.phase = .before) (calls : List Call) :
    (r.answerAll calls).metEntries =
      r.metEntries ++ (regionOf (fed calls)).filterMap Line.asEntry := by
  induction calls generalizing r with
  | nil => exact (List.append_nil _).symm
  | cons call calls inductionHypothesis =>
      cases call with
      | finish =>
          rw [answerAll_cons, answer, finish,
            inductionHypothesis (phase_settle.trans before), metEntries_settle]
          rfl
      | feed line =>
          have lines : fed (.feed line :: calls) = line :: fed calls := rfl
          rw [answerAll_cons, answer, lines, regionOf]
          cases mark : line.isRegionMark with
          | true =>
              rw [metEntries_answerAll_of_inside (phase_read_of_before before mark),
                metEntries_read_of_before before,
                List.dropWhile_cons_of_neg (by simp [mark])]
              rfl
          | false =>
              rw [read_of_before before mark, inductionHypothesis before,
                List.dropWhile_cons_of_pos (by simp [mark])]
              rfl

private theorem settle_settle_of_inside (inside : r.phase = .inside) :
    r.settle.settle = r.settle.remark .unclosed := by
  have settled : r.settle = r.flushEntry.dropWaiting.remark .unclosed := by
    rw [settle, if_pos (by simp [isInside, inside])]
  rw [settle, if_pos (by simp [isInside, phase_settle, inside]), settled]
  rfl

private theorem keymap_settle_settle : r.settle.settle.keymap = r.settle.keymap := by
  by_cases inside : r.phase = .inside
  · rw [settle_settle_of_inside inside]
    rfl
  · rw [settle_of_not_inside inside, settle_of_not_inside inside]

private theorem length_metEntries :
    r.metEntries.length = r.stored.countP Keybind.isFake + r.entry.toList.length := by
  rw [metEntries, List.length_append, listedEntries, List.length_map,
    List.countP_eq_length_filter]

end Reader

/-- Whatever is asked of a reader: each keymap lists the first keybinds of every
later one; the entries of the region are those that are listed and the one that
waits, in order and each once; and a keymap that is asked for twice is the same. -/
theorem keymaps_grow_entries_stay (calls : List Call) :
    let r := ({} : Reader).answerAll calls
    (({} : Reader).keymaps calls).Pairwise
        (fun earlier later => earlier.keybinds <+: later.keybinds) ∧
      r.listedEntries ++ r.entry.toList = (regionOf (fed calls)).filterMap Line.asEntry ∧
      r.stored.countP Keybind.isFake + r.entry.toList.length =
        (regionOf (fed calls)).countP (fun line => line.asEntry.isSome) ∧
      ∃ keymap, ({} : Reader).keymaps (calls ++ [.finish, .finish]) =
        ({} : Reader).keymaps calls ++ [keymap, keymap] := by
  intro r
  have entries : r.metEntries = (regionOf (fed calls)).filterMap Line.asEntry :=
    Reader.metEntries_answerAll_of_before rfl calls
  refine ⟨Reader.pairwise_keymaps calls, entries, ?_, r.settle.keymap, ?_⟩
  · rw [← Reader.length_metEntries, entries, List.length_filterMap_eq_countP]
  · rw [Reader.keymaps_append]
    change _ ++ [r.settle.keymap, r.settle.settle.keymap] = _
    rw [Reader.keymap_settle_settle]

end Keychart.Markup
