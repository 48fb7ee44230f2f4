import Keychart.Proofs.Markup.Comments
import Keychart.Proofs.Markup.Descriptions

/-!
# Rewritten lines

Each line has a plain form: an annotation is written anew from what it means, and any
other line stays as it is.  What was read from a line can be written, and what can be
written is read back, so the plain form means the same.
-/

namespace Keychart.Markup

open Text Unicode

/-- The plain way to write what a line means. -/
def Line.written : Line → Text
  | .opening title => titleLine title
  | .closing => endLine
  | .heading none => comment ['#', '#']
  | .heading (some name) => headingLine name
  | .description text => descriptionLine text
  | .entry keys text => entryLine keys text
  | .hide note => hideLine note
  | .code line => line
  | .blank => []
  | .other line => line

/-- A text that is read as a description behind the mark and a space. -/
structure Describing (text : Text) : Prop where
  oneLine : OneLine text
  flush : Flush text
  back : trimEnd text = text
  read : ∀ line, readComment line text = .description text

/-- Whether a line can be written that means this and is plain. -/
def Line.Writable : Line → Prop
  | .opening title => Plain title ∧ title ≠ []
  | .heading (some name) => Plain name ∧ name ≠ []
  | .description text => Describing text
  | .entry keys text => Quotable keys ∧ Plain text
  | .hide note => Plain note
  | .code line => OneLine line ∧ readLine line = .code line
  | .other line => OneLine line ∧ readLine line = .other line
  | _ => True

private theorem readLine_written {meaning : Line} (writable : meaning.Writable) :
    readLine meaning.written = meaning := by
  cases meaning with
  | opening title => exact readLine_titleLine writable.1 writable.2
  | closing => exact readLine_endLine
  | heading name =>
      cases name with
      | none => decide
      | some name => exact readLine_headingLine writable.1 writable.2
  | description text =>
      have describing : Describing text := writable
      rw [Line.written, descriptionLine, readLine_comment describing.oneLine describing.flush,
        describing.back, describing.read]
  | entry keys text => exact readLine_entryLine writable.1 writable.2
  | hide note => exact readLine_hideLine writable
  | code line => exact writable.2
  | blank => rfl
  | other line => exact writable.2

private theorem oneLine_written {meaning : Line} (writable : meaning.Writable) :
    OneLine meaning.written := by
  cases meaning with
  | opening title => exact oneLine_marked (by decide) writable.1.oneLine
  | closing => decide
  | heading name =>
      cases name with
      | none => decide
      | some name =>
          have marked : OneLine ('#' :: ' ' :: name) :=
            oneLine_cons_iff.mpr ⟨by decide, writable.1.oneLine.space_cons⟩
          exact oneLine_comment (oneLine_cons_iff.mpr ⟨by decide, marked⟩)
  | description text => exact oneLine_comment (Describing.oneLine writable)
  | entry keys text => exact oneLine_entryLine writable.1.plain.oneLine writable.2.oneLine
  | hide note => exact oneLine_marked (by decide) writable.oneLine
  | code line => exact writable.1
  | blank => exact List.forall_mem_nil _
  | other line => exact writable.1

private theorem plain_trim {text : Text} (oneLine : OneLine text) : Plain (trim text) :=
  ⟨oneLine.of_subset (trim_subset text), trimmed_trim text⟩

theorem readComment_of_ne_nil {text : Text} (nonempty : text ≠ []) (line other : Text) :
    readComment line text = readComment other text := by
  -- The line that holds a comment counts only where the comment says nothing.
  unfold readComment
  split
  · rfl
  · rfl
  · rfl
  · exact absurd rfl nonempty
  · rfl

private theorem writable_readComment
    {line text : Text} (oneLine : OneLine line) (found : commentText? line = some text) :
    (readComment line text).Writable := by
  have has : HasComment line text :=
    (commentText?_eq_some_iff oneLine.not_mem_lineFeed).mp found
  have inside : OneLine text := oneLine_of_commentText? oneLine found
  have whole : readLine line = readComment line text := by
    rw [readLine, found]
  have means := means_readComment line text
  generalize meant : readComment line text = meaning at means whole
  cases means with
  | bareHeading => trivial
  | heading visible =>
      have name := (oneLine_cons_iff.mp (oneLine_cons_iff.mp inside).2).2
      exact ⟨plain_trim name, visible⟩
  | closing => trivial
  | opening visible => exact ⟨plain_trim (oneLine_cons_iff.mp inside).2, visible⟩
  | hide note => exact plain_trim (oneLine_cons_iff.mp inside).2
  | nothing => exact ⟨oneLine, whole⟩
  | @entry keys unquoted visible behind =>
      obtain ⟨quoted, rest⟩ := oneLine_append_iff.mp (oneLine_cons_iff.mp inside).2
      refine ⟨⟨plain_trim quoted, visible, ?_⟩, plain_trim (oneLine_cons_iff.mp rest).2⟩
      exact fun member => unquoted (trim_subset _ member)
  | description nonempty =>
      refine ⟨inside, has.flush, has.trimEnd, ?_⟩
      intro other
      rw [readComment_of_ne_nil nonempty other line, meant]

private theorem writable_readLine {line : Text} (oneLine : OneLine line) :
    (readLine line).Writable := by
  cases found : commentText? line with
  | some text =>
      rw [readLine, found]
      exact writable_readComment oneLine found
  | none =>
      have whole : readLine line = readCode line := by
        rw [readLine, found]
      rw [whole]
      generalize meant : readCode line = meaning at whole
      unfold readCode at meant
      split at meant
      · rw [← meant]
        trivial
      · rw [← meant] at whole ⊢
        exact ⟨oneLine, whole⟩
      · rw [← meant] at whole ⊢
        exact ⟨oneLine, whole⟩

/-- Written in its plain form, a line is one line and means what it meant. -/
theorem readLine_written_readLine {line : Text} (oneLine : OneLine line) :
    OneLine (readLine line).written ∧
      readLine (readLine line).written = readLine line := by
  have writable := writable_readLine oneLine
  exact ⟨oneLine_written writable, readLine_written writable⟩

/-- An entry among white space of several kinds, with quotes behind its keys. -/
def crowdedLine : Text := Text.ofString "\u3000--\t\"  M-<n> \"\u00a0To \"n\" "

theorem readLine_written_readLine_crowded :
    OneLine crowdedLine ∧
      (readLine crowdedLine).written = Text.ofString "-- \"M-<n>\" To \"n\"" ∧
      readLine (Text.ofString "-- \"M-<n>\" To \"n\"") = readLine crowdedLine := by
  have oneLine : OneLine crowdedLine := by
    decide +kernel
  have written :
      (readLine crowdedLine).written = Text.ofString "-- \"M-<n>\" To \"n\"" := by
    decide
  have means := (readLine_written_readLine oneLine).2
  rw [written] at means
  exact ⟨oneLine, written, means⟩

def rewritten (source : Text) : Text :=
  (lines source).flatMap fun line => (readLine line).written ++ ['\n']

/-- A source that is rewritten means the same, line by line. -/
theorem readLines_rewritten (source : Text) : readLines (rewritten source) = readLines source := by
  have each : ∀ line ∈ lines source, OneLine line := fun _ member => oneLine_of_mem_lines member
  rw [readLines, readLines, rewritten]
  generalize lines source = texts at each
  induction texts with
  | nil => rfl
  | cons line texts inductionHypothesis =>
      obtain ⟨oneLine, others⟩ := List.forall_mem_cons.mp each
      have writable := writable_readLine oneLine
      rw [List.flatMap_cons, List.append_assoc, List.singleton_append,
        lines_append_lineFeed (oneLine_written writable), List.map_cons, List.map_cons,
        readLine_written writable, inductionHypothesis others]

/-- So it has the same keymap. -/
theorem ofSource_rewritten (source : Text) :
    Keymap.ofSource (rewritten source) = Keymap.ofSource source := by
  rw [Keymap.ofSource, Keymap.ofSource, readLines_rewritten]

end Keychart.Markup
