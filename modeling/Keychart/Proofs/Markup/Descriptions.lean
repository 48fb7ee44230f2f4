import Keychart.Proofs.Markup.Comments
import Keychart.Proofs.Markup.Stored
import Keychart.Proofs.Text.Lines
import Keychart.Proofs.Text.Trim

/-!
# Descriptions of a source

A source is read line by line, and what an annotation says is a part of its line.
So no description of a keymap holds a line boundary: each text that the reader has
listed or keeps waiting comes from one line.
-/

namespace Keychart.Markup

open Text

/-- Whether the text that a line gives to a keybind stands on one line. -/
def Line.GivesOneLine : Line → Prop
  | .description text => OneLine text
  | .entry _ text => OneLine text
  | _ => True

theorem oneLine_of_commentText?
    {line comment : Text} (oneLine : OneLine line)
    (found : commentText? line = some comment) :
    OneLine comment := by
  have has := (commentText?_eq_some_iff oneLine.not_mem_lineFeed).mp found
  cases has with
  | @intro margin gap rest =>
      have marked := (oneLine_append_iff.mp oneLine).2
      have behind := (oneLine_cons_iff.mp (oneLine_cons_iff.mp marked).2).2
      exact (oneLine_append_iff.mp behind).2.of_subset (trimEnd_subset rest)

private theorem Means.givesOneLine
    {line comment : Text} {meaning : Line} (means : Means line comment meaning)
    (oneLine : OneLine comment) : meaning.GivesOneLine := by
  cases means with
  | bareHeading => trivial
  | heading => trivial
  | closing => trivial
  | opening => trivial
  | hide => trivial
  | nothing => trivial
  | entry unquoted visible text =>
      have behind := (oneLine_append_iff.mp (oneLine_cons_iff.mp oneLine).2).2
      exact (oneLine_cons_iff.mp behind).2.of_subset (trim_subset text)
  | description => exact oneLine

private theorem givesOneLine_readLine {line : Text} (oneLine : OneLine line) :
    (readLine line).GivesOneLine := by
  unfold readLine
  split
  next comment found =>
    exact (means_readComment line comment).givesOneLine (oneLine_of_commentText? oneLine found)
  next =>
    unfold readCode
    split
    · trivial
    · trivial
    · trivial

namespace Reader

/-- Whether every text that a reader took for a description, listed or waiting,
stands on one line. -/
structure OneLineEach (r : Reader) : Prop where
  stored : ∀ keybind ∈ r.stored, OneLine keybind.description
  description : ∀ text, r.description = some text → OneLine text
  entry : ∀ keys text, r.entry = some (keys, text) → OneLine text

namespace OneLineEach

variable {r : Reader}

theorem list {keybind : Keybind} (each : OneLineEach r)
    (oneLine : OneLine keybind.description) : OneLineEach (r.list keybind) where
  stored := by
    rw [stored_list, List.forall_mem_append]
    refine ⟨each.stored, ?_⟩
    intro other member
    rw [List.mem_singleton.mp member]
    exact oneLine
  description := each.description
  entry := each.entry

theorem dropWaiting (each : OneLineEach r) : OneLineEach r.dropWaiting where
  stored := each.stored
  description := by
    intro text found
    cases found
  entry := by
    intro keys text found
    cases found

theorem flushEntry (each : OneLineEach r) : OneLineEach r.flushEntry := by
  cases waiting : r.entry with
  | none =>
      rw [flushEntry_of_none waiting]
      exact each
  | some entry =>
      have settled : OneLineEach { r with entry := none } :=
        ⟨each.stored, each.description, fun _ _ found => nomatch found⟩
      rw [flushEntry_of_some waiting]
      exact settled.list (each.entry entry.1 entry.2 waiting)

theorem endSection (each : OneLineEach r) : OneLineEach r.endSection where
  stored := by
    rw [stored_endSection]
    exact each.stored
  description := each.description
  entry := each.entry

theorem head (each : OneLineEach r) (name : Option Text) : OneLineEach (r.head name) where
  stored := by
    rw [stored_head]
    exact each.stored
  description := by
    cases name with
    | none => exact each.description
    | some name => exact each.description
  entry := by
    cases name with
    | none => exact each.entry
    | some name => exact each.entry

theorem remark (each : OneLineEach r) (note : Remark) : OneLineEach (r.remark note) :=
  ⟨each.stored, each.description, each.entry⟩

theorem readCode (each : OneLineEach r) (line : Text) : OneLineEach (r.readCode line) := by
  cases waiting : r.entry with
  | some entry =>
      rw [readCode_of_some waiting]
      exact each.dropWaiting.list (each.entry entry.1 entry.2 waiting)
  | none =>
      cases held : binding? line with
      | some binding =>
          rw [readCode_of_binding waiting held]
          apply each.dropWaiting.list
          cases found : r.description with
          | none => exact List.forall_mem_nil _
          | some text => exact each.description text found
      | none =>
          simp only [Reader.readCode, waiting, held]
          split
          · exact each.dropWaiting.remark _
          · exact each.dropWaiting

theorem readInside (each : OneLineEach r) {line : Line} (gives : line.GivesOneLine) :
    OneLineEach (r.readInside line) := by
  have flushed := each.flushEntry
  cases line with
  | opening title => exact each.remark _
  | closing =>
      have closed : OneLineEach (r.remark .closed).flushEntry.dropWaiting.endSection :=
        (each.remark _).flushEntry.dropWaiting.endSection
      exact ⟨closed.stored, closed.description, closed.entry⟩
  | heading name => exact flushed.dropWaiting.head name
  | description text =>
      refine ⟨flushed.stored, ?_, flushed.entry⟩
      intro other found
      rw [← Option.some.inj found]
      exact gives
  | entry keys text =>
      refine ⟨flushed.stored, ?_, ?_⟩
      · intro other found
        cases found
      · intro otherKeys other found
        cases found
        exact gives
  | hide note => exact ⟨flushed.stored, flushed.description, flushed.entry⟩
  | code line => exact each.readCode line
  | blank => exact each
  | other line => exact each

theorem read (each : OneLineEach r) {line : Line} (gives : line.GivesOneLine) :
    OneLineEach (r.read line) := by
  unfold Reader.read
  split
  · split
    · exact ⟨each.stored, each.description, each.entry⟩
    · exact ⟨each.stored, each.description, each.entry⟩
    · exact each
  · exact each.readInside gives
  · exact each

theorem readAll (each : OneLineEach r) {lines : List Line}
    (gives : ∀ line ∈ lines, line.GivesOneLine) :
    OneLineEach (r.readAll lines) := by
  induction lines generalizing r with
  | nil => exact each
  | cons line lines inductionHypothesis =>
      obtain ⟨here, later⟩ := List.forall_mem_cons.mp gives
      exact inductionHypothesis (each.read here) later

theorem settle (each : OneLineEach r) : OneLineEach r.settle := by
  unfold Reader.settle
  split
  · exact each.flushEntry.dropWaiting.remark _
  · exact each

end OneLineEach

end Reader

end Keychart.Markup

namespace Keychart

open Markup Text

/-- No description of a keymap that was read from a source holds a line boundary. -/
theorem Keymap.oneLine_description_ofSource
    {source : Text} {keybind : Keybind}
    (listed : keybind ∈ (Keymap.ofSource source).keybinds) :
    OneLine keybind.description := by
  have empty : Reader.OneLineEach {} := by
    refine ⟨List.forall_mem_nil _, ?_, ?_⟩
    · intro text found
      cases found
    · intro keys text found
      cases found
  have gives : ∀ line ∈ readLines source, line.GivesOneLine := by
    intro line member
    obtain ⟨written, inSource, rfl⟩ := List.mem_map.mp member
    exact givesOneLine_readLine (oneLine_of_mem_lines inSource)
  have each := (empty.readAll gives).settle
  rw [Keymap.ofSource, Keymap.ofLines, Reader.keybinds_keymap] at listed
  exact each.stored keybind (List.mem_filter.mp listed).1

end Keychart
