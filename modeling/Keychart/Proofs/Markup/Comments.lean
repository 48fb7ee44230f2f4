import Keychart.Proofs.Markup.WrittenLine
import Keychart.Proofs.Text.Marks

/-!
# What comments carry

A comment is a mark behind white space, and its text is what follows behind spaces
and tabs, without the white space at its back.  From that text come a title, a
name, keys, a note or a description.  Each is trimmed once more, but for a
description: the text of a comment is taken for it as it is.  So the texts that a
source carries are trimmed exactly if no comment of it begins with white space
of another kind.
-/

namespace Keychart.Markup

open Text Unicode

/-- The lines that are comments, and their texts. -/
inductive HasComment : Text → Text → Prop
  | intro {margin gap rest : Text} (blank : ∀ c ∈ margin, isBlank c = true)
      (narrow : ∀ c ∈ gap, c = ' ' ∨ c = '\t') (flush : Flush rest)
      (noOperator : (gap ++ rest).head? ≠ some '>') :
      HasComment (margin ++ '-' :: '-' :: (gap ++ rest)) (trimEnd rest)

private theorem exists_gap (text : Text) :
    ∃ gap rest, text = gap ++ rest ∧ (∀ c ∈ gap, c = ' ' ∨ c = '\t') ∧ Flush rest := by
  induction text with
  | nil => exact ⟨[], [], rfl, List.forall_mem_nil _, fun _ found => nomatch found⟩
  | cons c text inductionHypothesis =>
      by_cases narrow : c = ' ' ∨ c = '\t'
      · obtain ⟨gap, rest, same, narrowGap, flush⟩ := inductionHypothesis
        refine ⟨c :: gap, rest, congrArg (c :: ·) same, ?_, flush⟩
        exact List.forall_mem_cons.mpr ⟨narrow, narrowGap⟩
      · refine ⟨[], c :: text, rfl, List.forall_mem_nil _, ?_⟩
        intro first found
        cases found
        exact not_or.mp narrow

private theorem trimFront_append_of_flush
    {gap rest : Text} (narrow : ∀ c ∈ gap, c = ' ' ∨ c = '\t') (flush : Flush rest) :
    trimFront (fun c => c = ' ' || c = '\t') (gap ++ rest) = rest := by
  rw [trimFront, List.dropWhile_append_of_pos (by simpa using narrow)]
  exact trimFront_of_flush flush

theorem commentText?_eq_some_iff {line text : Text} (noFeed : '\n' ∉ line) :
    commentText? line = some text ↔ HasComment line text := by
  constructor
  · intro found
    obtain ⟨margin, whole, blank⟩ := exists_trimStart line
    rw [commentText?] at found
    split at found
    next => cases found
    next behind marked =>
      split at found
      next => cases found
      next noOperator =>
        obtain ⟨gap, rest, rfl, narrow, flush⟩ := exists_gap behind
        rw [eq_append_of_dropMark? marked] at whole
        have restLine : '\n' ∉ rest := by
          intro member
          apply noFeed
          rw [whole]
          simp [member]
        rw [trimFront_append_of_flush narrow flush, onlyLine?_of_not_mem restLine,
          Option.map_some] at found
        rw [whole, ← Option.some.inj found]
        exact .intro blank narrow flush noOperator
  · rintro @⟨margin, gap, rest, blank, narrow, flush, noOperator⟩
    have start :
        trimStart (margin ++ '-' :: '-' :: (gap ++ rest)) = '-' :: '-' :: (gap ++ rest) :=
      trimStart_append_cons blank (by decide) ('-' :: (gap ++ rest))
    have mark :
        dropMark? commentMark ('-' :: '-' :: (gap ++ rest)) = some (gap ++ rest) := rfl
    have restLine : '\n' ∉ rest := by
      simp only [List.mem_append, List.mem_cons, not_or] at noFeed
      exact noFeed.2.2.2.2
    rw [commentText?, start, mark]
    simp only [if_neg noOperator, trimFront_append_of_flush narrow flush,
      onlyLine?_of_not_mem restLine, Option.map_some]

theorem HasComment.trimEnd {line text : Text} (has : HasComment line text) :
    text.trimEnd = text := by
  cases has with
  | intro => exact trimEnd_trimEnd _

theorem HasComment.flush {line text : Text} (has : HasComment line text) : Flush text := by
  cases has with
  | @intro margin gap rest blank narrow flush noOperator =>
      intro c found
      exact flush c (head?_of_begins (trimEnd_begins rest) found)

/-- The meanings that the text of a comment can have, in the line that holds it. -/
inductive Means (line : Text) : Text → Line → Prop
  | bareHeading {name : Text} (blank : trim name = []) :
      Means line ('#' :: '#' :: name) (.heading none)
  | heading {name : Text} (visible : trim name ≠ []) :
      Means line ('#' :: '#' :: name) (.heading (some (trim name)))
  | closing {title : Text} (blank : trim title = []) : Means line ('#' :: title) .closing
  | opening {title : Text} (visible : trim title ≠ []) :
      Means line ('#' :: title) (.opening (trim title))
  | hide (note : Text) : Means line ('!' :: note) (.hide (trim note))
  | nothing : Means line [] (.other line)
  | entry {keys : Text} (unquoted : '"' ∉ keys) (visible : trim keys ≠ []) (text : Text) :
      Means line ('"' :: (keys ++ '"' :: text)) (.entry (trim keys) (trim text))
  | description {text : Text} (nonempty : text ≠ []) : Means line text (.description text)

private theorem exists_of_quotedEntry?
    {comment keys text : Text} (found : quotedEntry? comment = some (keys, text)) :
    ∃ quoted behind, comment = '"' :: (quoted ++ '"' :: behind) ∧ '"' ∉ quoted ∧
      trim quoted ≠ [] ∧ keys = trim quoted ∧ text = trim behind := by
  unfold quotedEntry? at found
  split at found
  next rest =>
    dsimp only at found
    split at found
    next => cases found
    next quote behind closed =>
      split at found
      next => cases found
      next visible =>
        obtain ⟨whole, unquoted⟩ := eq_append_of_dropWhile_quoted closed
        cases found
        exact ⟨_, behind, congrArg ('"' :: ·) whole, unquoted, visible, rfl, rfl⟩
  next => cases found

theorem means_readComment (line comment : Text) :
    Means line comment (readComment line comment) := by
  unfold readComment
  split
  next name =>
    split
    next blank => exact .bareHeading blank
    next visible => exact .heading visible
  next title =>
    split
    next blank => exact .closing blank
    next visible => exact .opening visible
  next note => exact .hide note
  next => exact .nothing
  next nonempty =>
    split
    next keys text found =>
      obtain ⟨quoted, behind, rfl, unquoted, visible, rfl, rfl⟩ := exists_of_quotedEntry? found
      exact .entry unquoted visible behind
    next => exact .description nonempty

/-! ## Texts that are trimmed -/

/-- Whether a text is trimmed and says something. -/
structure Visible (text : Text) : Prop where
  trimmed : Trimmed text
  nonempty : text ≠ []

/-- Whether the texts that a line carries are trimmed, names and keys say something,
and keys can be quoted.  What a description has to be is given. -/
def Line.Carries (describes : Text → Prop) : Line → Prop
  | .opening title => Visible title
  | .heading (some name) => Visible name
  | .description text => describes text
  | .entry keys text => Visible keys ∧ '"' ∉ keys ∧ Trimmed text
  | .hide note => Trimmed note
  | _ => True

/-- Whether no white space stands at the back of a text that says something. -/
structure Ended (text : Text) : Prop where
  back : text.trimEnd = text
  nonempty : text ≠ []

private theorem Means.carries
    {describes : Text → Prop} {line text : Text} {meaning : Line} (means : Means line text meaning)
    (described : text ≠ [] → describes text) : meaning.Carries describes := by
  cases means with
  | bareHeading => trivial
  | heading visible => exact ⟨trimmed_trim _, visible⟩
  | closing => trivial
  | opening visible => exact ⟨trimmed_trim _, visible⟩
  | hide note => exact trimmed_trim note
  | nothing => trivial
  | entry unquoted visible text =>
      refine ⟨⟨trimmed_trim _, visible⟩, ?_, trimmed_trim text⟩
      exact fun member => unquoted (trim_subset _ member)
  | description nonempty => exact described nonempty

private theorem carries_readCode (describes : Text → Prop) (line : Text) :
    (readCode line).Carries describes := by
  unfold readCode
  split
  · trivial
  · trivial
  · trivial

private theorem carries_readLine {line : Text} (noFeed : '\n' ∉ line) :
    (readLine line).Carries Ended := by
  unfold readLine
  split
  next text found =>
    have has := (commentText?_eq_some_iff noFeed).mp found
    exact (means_readComment line text).carries fun nonempty => ⟨has.trimEnd, nonempty⟩
  next => exact carries_readCode _ line

/-- Whether a line is a comment whose text begins with white space, which is then
neither a space nor a tab. -/
def BlankFront (line : Text) : Prop :=
  ∃ text c, HasComment line text ∧ text.head? = some c ∧ isBlank c = true

private theorem readComment_of_isBlank
    (line : Text) {c : Char} (blank : isBlank c = true) (text : Text) :
    readComment line (c :: text) = .description (c :: text) := by
  apply readComment_of_unmarked line _ (List.cons_ne_nil c text)
  -- No mark is white space.
  intro first found
  cases found
  exact ⟨ne_of_isBlank blank (by decide), ne_of_isBlank blank (by decide),
    ne_of_isBlank blank (by decide)⟩

theorem carries_visible_iff {line : Text} (noFeed : '\n' ∉ line) :
    (readLine line).Carries Visible ↔ ¬ BlankFront line := by
  constructor
  · rintro carries ⟨text, c, has, first, blank⟩
    obtain ⟨rest, rfl⟩ := List.head?_eq_some_iff.mp first
    have found := (commentText?_eq_some_iff noFeed).mpr has
    have described : readLine line = .description (c :: rest) := by
      rw [readLine, found]
      exact readComment_of_isBlank line blank rest
    rw [described] at carries
    have visible : Visible (c :: rest) := carries
    exact ne_of_isBlank blank (visible.trimmed.head_not_isBlank first) rfl
  · intro noFront
    unfold readLine
    split
    next text found =>
      have has := (commentText?_eq_some_iff noFeed).mp found
      apply (means_readComment line text).carries
      intro nonempty
      refine ⟨⟨?_, has.trimEnd⟩, nonempty⟩
      apply trimStart_eq_self_iff.mpr
      intro c first
      by_contra blank
      exact noFront ⟨text, c, has, first, by simpa using blank⟩
    next => exact carries_readCode _ line

/-- What the lines of a source carry is trimmed, but at the front of a description.  That
is trimmed, too, exactly if the text of the comment begins with no white space. -/
theorem carries_readLine_iff_of_mem_lines (source : Text) :
    (∀ meaning ∈ readLines source, meaning.Carries Ended) ∧
      ∀ line ∈ lines source, (readLine line).Carries Visible ↔ ¬ BlankFront line := by
  constructor
  · intro meaning member
    obtain ⟨line, inSource, rfl⟩ := List.mem_map.mp member
    exact carries_readLine (oneLine_of_mem_lines inSource).not_mem_lineFeed
  · intro line inSource
    exact carries_visible_iff (oneLine_of_mem_lines inSource).not_mem_lineFeed

/-- A heading, a description behind a no-break space, and the same behind a space. -/
def spacedSource : Text := Text.ofString "\t--##\u00a0Keys\u3000\r\n--\u00a0Kill\n-- Kill"

def spacedKill : Text := Text.ofString "\u00a0Kill"

private theorem not_visible_spacedKill : ¬ Visible spacedKill := by
  intro visible
  have same := trim_eq_self_iff.mpr visible.trimmed
  exact absurd same (by decide)

theorem carries_readLine_iff_of_mem_lines_spaced :
    readLines spacedSource =
        [.heading (some (Text.ofString "Keys")), .description spacedKill,
          .description (Text.ofString "Kill")] ∧
      ¬ BlankFront (Text.ofString "-- Kill") ∧ BlankFront (Text.ofString "--\u00a0Kill") := by
  have read : readLines spacedSource =
      [.heading (some (Text.ofString "Keys")), .description spacedKill,
        .description (Text.ofString "Kill")] := by
    decide
  have plain : readLine (Text.ofString "-- Kill") = .description (Text.ofString "Kill") := by
    decide
  have spaced : readLine (Text.ofString "--\u00a0Kill") = .description spacedKill := by
    decide
  have kill : Visible (Text.ofString "Kill") :=
    ⟨trim_eq_self_iff.mp (by decide), by decide⟩
  obtain ⟨-, carries⟩ := carries_readLine_iff_of_mem_lines spacedSource
  have noFront := carries (Text.ofString "-- Kill") (by decide)
  have front := carries (Text.ofString "--\u00a0Kill") (by decide)
  rw [plain] at noFront
  rw [spaced] at front
  refine ⟨read, noFront.mp kill, ?_⟩
  by_contra without
  exact not_visible_spacedKill (front.mpr without)

/-- A no-break space behind the mark is kept in front of the description. -/
theorem not_carries_visible_spaced :
    readLines (Text.ofString "--\u00a0Kill") = [.description spacedKill] ∧
      ¬ (Line.description spacedKill).Carries Visible := by
  refine ⟨?_, not_visible_spacedKill⟩
  decide

end Keychart.Markup
