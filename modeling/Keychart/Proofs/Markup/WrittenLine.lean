import Keychart.Markup.Binding
import Keychart.Markup.Line
import Keychart.Proofs.Text.Lines
import Keychart.Proofs.Text.Trim

/-!
# Written lines

Each kind of annotation has a plain way to write it: the comment mark, a space,
the mark of the kind and the text.  Written so, an annotation is read back as
what it was, and so is a binding.
-/

namespace Keychart.Markup

open Text Unicode

def comment (body : Text) : Text := '-' :: '-' :: ' ' :: body

def titleLine (title : Text) : Text := comment ('#' :: ' ' :: title)

def endLine : Text := comment ['#']

def headingLine (name : Text) : Text := comment ('#' :: '#' :: ' ' :: name)

def descriptionLine (text : Text) : Text := comment text

def entryLine (keys text : Text) : Text :=
  comment ('"' :: keys ++ '"' :: ' ' :: text)

def hideLine (note : Text) : Text := comment ('!' :: ' ' :: note)

def bindingLine (keys action : Text) : Text :=
  Text.ofString "  , (" ++ '"' :: keys ++ '"' :: Text.ofString ", " ++ action ++
    [')']

/-- A text that a line holds as it is: no boundary in it, no white space around
it. -/
structure Plain (text : Text) : Prop where
  oneLine : OneLine text
  trimmed : Trimmed text

/-- Keys that can be quoted. -/
structure Quotable (keys : Text) : Prop where
  plain : Plain keys
  nonempty : keys ≠ []
  unquoted : '"' ∉ keys

theorem plain_iff {text : Text} :
    Plain text ↔ OneLine text ∧ Text.trim text = text := by
  constructor
  · intro plain
    exact ⟨plain.oneLine, trim_eq_self_iff.mpr plain.trimmed⟩
  · rintro ⟨oneLine, trimmed⟩
    exact ⟨oneLine, trim_eq_self_iff.mp trimmed⟩

instance (text : Text) : Decidable (Plain text) :=
  decidable_of_iff _ plain_iff.symm

theorem quotable_iff {keys : Text} :
    Quotable keys ↔ Plain keys ∧ keys ≠ [] ∧ '"' ∉ keys := by
  constructor
  · intro quotable
    exact ⟨quotable.plain, quotable.nonempty, quotable.unquoted⟩
  · rintro ⟨plain, nonempty, unquoted⟩
    exact ⟨plain, nonempty, unquoted⟩

instance (keys : Text) : Decidable (Quotable keys) :=
  decidable_of_iff _ quotable_iff.symm

theorem trimEnd_space_cons
    {text : Text} (trimmed : Trimmed text) (nonempty : text ≠ []) :
    trimEnd (' ' :: text) = ' ' :: text :=
  trimEnd_append_of_trimmed [' '] trimmed.back nonempty

theorem oneLine_comment {body : Text} (oneLine : OneLine body) :
    OneLine (comment body) := by
  have front : OneLine ['-', '-', ' '] := by
    decide
  exact oneLine_append_iff.mpr ⟨front, oneLine⟩

/-- A comment whose text stands behind a mark and a space. -/
theorem oneLine_marked
    {mark : Char} {text : Text} (inside : isLineBoundary mark = false)
    (oneLine : OneLine text) :
    OneLine (comment (mark :: ' ' :: text)) :=
  oneLine_comment (oneLine_cons_iff.mpr ⟨inside, oneLine.space_cons⟩)

/-- Whether no space and no tab stands in front of a text. -/
def Flush (text : Text) : Prop := ∀ c, text.head? = some c → c ≠ ' ' ∧ c ≠ '\t'

private theorem flush_of_not_isBlank
    {text : Text} (visible : ∀ c, text.head? = some c → isBlank c = false) :
    Flush text := by
  intro c found
  have notBlank := visible c found
  exact ⟨(ne_of_isBlank (by decide) notBlank).symm, (ne_of_isBlank (by decide) notBlank).symm⟩

theorem trimFront_of_flush {text : Text} (flush : Flush text) :
    trimFront (fun c => c = ' ' || c = '\t') text = text := by
  cases text with
  | nil => rfl
  | cons c text =>
      obtain ⟨noSpace, noTab⟩ := flush c rfl
      exact List.dropWhile_cons_of_neg (by simp [noSpace, noTab])

private theorem commentText?_comment
    {body : Text} (oneLine : OneLine body) (flush : Flush body) :
    commentText? (comment body) = some (trimEnd body) := by
  have start : trimStart (comment body) = comment body :=
    trimStart_cons_of_not_isBlank (by decide) _
  have mark : dropMark? commentMark (comment body) = some (' ' :: body) := rfl
  have spaces :
      trimFront (fun c => c = ' ' || c = '\t') (' ' :: body) = body := by
    rw [trimFront, List.dropWhile_cons_of_pos (by decide)]
    exact trimFront_of_flush flush
  rw [commentText?, start, mark]
  simp only [List.head?_cons, Option.some.injEq, Char.reduceEq, if_false, spaces,
    onlyLine?_of_not_mem oneLine.not_mem_lineFeed, Option.map_some]

theorem readLine_comment
    {body : Text} (oneLine : OneLine body) (flush : Flush body) :
    readLine (comment body) = readComment (comment body) (trimEnd body) := by
  rw [readLine, commentText?_comment oneLine flush]

/-- Behind a mark that is no white space. -/
theorem readLine_comment_cons
    {mark : Char} {body : Text} (oneLine : OneLine body)
    (inside : isLineBoundary mark = false) (visible : isBlank mark = false) :
    readLine (comment (mark :: body)) =
      readComment (comment (mark :: body)) (mark :: trimEnd body) := by
  rw [readLine_comment (oneLine_cons_iff.mpr ⟨inside, oneLine⟩),
    trimEnd_cons_of_not_isBlank visible]
  apply flush_of_not_isBlank
  intro c found
  cases found
  exact visible

theorem readLine_titleLine
    {title : Text} (plain : Plain title) (nonempty : title ≠ []) :
    readLine (titleLine title) = .opening title := by
  rw [titleLine, readLine_comment_cons plain.oneLine.space_cons
    (by decide) (by decide), trimEnd_space_cons plain.trimmed nonempty,
    readComment, trim_space_cons plain.trimmed]
  · cases title with
    | nil => exact absurd rfl nonempty
    | cons c title => rfl
  · intro name same
    cases same

theorem readLine_endLine : readLine endLine = .closing := by
  decide

theorem readLine_headingLine
    {name : Text} (plain : Plain name) (nonempty : name ≠ []) :
    readLine (headingLine name) = .heading (some name) := by
  have oneLine : OneLine ('#' :: ' ' :: name) :=
    oneLine_cons_iff.mpr ⟨by decide, plain.oneLine.space_cons⟩
  rw [headingLine, readLine_comment_cons oneLine (by decide) (by decide),
    trimEnd_cons_of_not_isBlank (by decide),
    trimEnd_space_cons plain.trimmed nonempty, readComment,
    trim_space_cons plain.trimmed]
  cases name with
  | nil => exact absurd rfl nonempty
  | cons c name => rfl

theorem readLine_hideLine {note : Text} (plain : Plain note) :
    readLine (hideLine note) = .hide note := by
  rw [hideLine, readLine_comment_cons plain.oneLine.space_cons
    (by decide) (by decide), readComment, trim_trimEnd,
    trim_space_cons plain.trimmed]

/-- A description starts with none of the other marks. -/
def Unmarked (text : Text) : Prop :=
  ∀ c ∈ text.head?, c ≠ '#' ∧ c ≠ '!' ∧ c ≠ '"'

instance (text : Text) : Decidable (Unmarked text) :=
  Option.decidableForallMem text.head?

theorem readComment_of_unmarked
    (line : Text) {text : Text} (unmarked : Unmarked text) (nonempty : text ≠ []) :
    readComment line text = .description text := by
  cases text with
  | nil => exact absurd rfl nonempty
  | cons c text =>
      obtain ⟨noHash, noBang, noQuote⟩ := unmarked c rfl
      have noEntry : quotedEntry? (c :: text) = none := by
        rw [ quotedEntry?]
        intro rest same
        injection same with headSame _
        exact noQuote headSame
      rw [readComment, noEntry]
      · intro name same
        injection same with headSame _
        exact noHash headSame
      · intro title same
        injection same with headSame _
        exact noHash headSame
      · intro note same
        injection same with headSame _
        exact noBang headSame
      · intro same
        cases same

theorem readLine_descriptionLine
    {text : Text} (plain : Plain text) (nonempty : text ≠ [])
    (unmarked : Unmarked text) :
    readLine (descriptionLine text) = .description text := by
  have flush : Flush text :=
    flush_of_not_isBlank fun _ found => plain.trimmed.head_not_isBlank found
  rw [descriptionLine, readLine_comment plain.oneLine flush, plain.trimmed.back,
    readComment_of_unmarked _ unmarked nonempty]

private theorem takeWhile_quoted {keys : Text} (unquoted : '"' ∉ keys) (rest : Text) :
    (keys ++ '"' :: rest).takeWhile (· ≠ '"') = keys := by
  rw [List.takeWhile_append_of_pos]
  · simp
  · intro c member
    simp only [decide_eq_true_eq]
    rintro rfl
    exact unquoted member

private theorem dropWhile_quoted {keys : Text} (unquoted : '"' ∉ keys) (rest : Text) :
    (keys ++ '"' :: rest).dropWhile (· ≠ '"') = '"' :: rest := by
  rw [List.dropWhile_append_of_pos]
  · simp
  · intro c member
    simp only [decide_eq_true_eq]
    rintro rfl
    exact unquoted member

/-- Where a quote is found, the text in front of it has none. -/
theorem eq_append_of_dropWhile_quoted
    {text rest : Text} {quote : Char} (closed : text.dropWhile (· ≠ '"') = quote :: rest) :
    text = text.takeWhile (· ≠ '"') ++ '"' :: rest ∧ '"' ∉ text.takeWhile (· ≠ '"') := by
  have isQuote : quote = '"' := by
    have stays := List.head?_dropWhile_not (· ≠ '"') text
    rw [closed] at stays
    simpa using stays
  have parts := List.takeWhile_append_dropWhile (p := (· ≠ '"')) (l := text)
  rw [closed, isQuote] at parts
  refine ⟨parts.symm, ?_⟩
  intro member
  simpa using List.mem_takeWhile_imp member

private theorem oneLine_quoted
    {keys text : Text} (keysLine : OneLine keys) (textLine : OneLine text) :
    OneLine (keys ++ '"' :: text) :=
  oneLine_append_iff.mpr
    ⟨keysLine, oneLine_cons_iff.mpr ⟨by decide, textLine⟩⟩

theorem oneLine_entryLine
    {keys text : Text} (keysLine : OneLine keys) (textLine : OneLine text) :
    OneLine (entryLine keys text) := by
  have quoted := oneLine_quoted keysLine textLine.space_cons
  exact oneLine_comment (oneLine_cons_iff.mpr ⟨by decide, quoted⟩)

theorem readLine_entryLine
    {keys text : Text} (quotable : Quotable keys) (plain : Plain text) :
    readLine (entryLine keys text) = .entry keys text := by
  have oneLine : OneLine (keys ++ '"' :: ' ' :: text) :=
    oneLine_quoted quotable.plain.oneLine plain.oneLine.space_cons
  have closed :
      trimEnd ('"' :: ' ' :: text) = '"' :: trimEnd (' ' :: text) :=
    trimEnd_cons_of_not_isBlank (by decide) _
  have trimmed :
      trimEnd (keys ++ '"' :: ' ' :: text) =
        keys ++ '"' :: trimEnd (' ' :: text) := by
    rw [trimEnd_append_of_ne_nil _ (by rw [closed]; exact List.cons_ne_nil _ _),
      closed]
  have found :
      quotedEntry? ('"' :: (keys ++ '"' :: trimEnd (' ' :: text))) =
        some (keys, text) := by
    rw [ quotedEntry?, takeWhile_quoted quotable.unquoted,
      dropWhile_quoted quotable.unquoted]
    simp only [trim_eq_self_iff.mpr quotable.plain.trimmed,
      if_neg quotable.nonempty, trim_trimEnd, trim_space_cons plain.trimmed]
  rw [entryLine, List.cons_append,
    readLine_comment_cons oneLine (by decide) (by decide), trimmed, readComment,
    found]
  · intro name same
    cases same
  · intro title same
    cases same
  · intro note same
    cases same
  · intro same
    cases same

/-! ## Bindings -/

/-- What stands behind the quoted keys of a binding. -/
def bindingTail (action : Text) : Text := ',' :: ' ' :: (action ++ [')'])

/-- What stands behind the white space in front of a binding. -/
def bindingBody (keys action : Text) : Text :=
  ',' :: ' ' :: '(' :: '"' :: (keys ++ '"' :: bindingTail action)

private theorem bindingLine_eq (keys action : Text) :
    bindingLine keys action = ' ' :: ' ' :: bindingBody keys action := by
  simp [bindingLine, bindingBody, bindingTail, Text.ofString]

private theorem trimStart_bindingLine (keys action : Text) :
    trimStart (bindingLine keys action) = bindingBody keys action := by
  rw [bindingLine_eq, trimStart_cons_of_isBlank (by decide),
    trimStart_cons_of_isBlank (by decide)]
  exact trimStart_cons_of_not_isBlank (by decide) _

theorem oneLine_bindingLine
    {keys action : Text} (keysLine : OneLine keys) (actionLine : OneLine action) :
    OneLine (bindingLine keys action) := by
  have tail : OneLine (bindingTail action) := by
    have closed : OneLine (action ++ [')']) :=
      oneLine_append_iff.mpr ⟨actionLine, by decide⟩
    exact oneLine_cons_iff.mpr ⟨by decide, closed.space_cons⟩
  have quoted : OneLine (keys ++ '"' :: bindingTail action) :=
    oneLine_quoted keysLine tail
  have front : OneLine [' ', ' ', ',', ' ', '(', '"'] := by
    decide
  rw [bindingLine_eq]
  exact oneLine_append_iff.mpr ⟨front, quoted⟩

theorem readLine_bindingLine (keys action : Text) :
    readLine (bindingLine keys action) = .code (bindingLine keys action) := by
  have noComment : commentText? (bindingLine keys action) = none := by
    rw [commentText?, trimStart_bindingLine]
    rfl
  have trimmed :
      Text.trim (bindingLine keys action) =
        ',' :: trimEnd (bindingBody keys action).tail := by
    rw [trim, trimStart_bindingLine]
    exact trimEnd_cons_of_not_isBlank (by decide) _
  rw [readLine, noComment]
  simp only [readCode, trimmed]
  split
  next none => cases none
  next block => cases block
  next => rfl

/-- The action is what stands between the comma and the last parenthesis, which is left
where more parentheses open than close in the action. -/
theorem actionOfTail_bindingTail {action : Text} (trimmed : Trimmed action) :
    actionOfTail (bindingTail action) =
      if action.count '(' ≤ action.count ')' then action else action ++ [')'] := by
  have back : ∀ front : Text, trimEnd (front ++ [')']) = front ++ [')'] :=
    trimEnd_concat_of_not_isBlank (by decide)
  have tail : Text.trim (bindingTail action) = bindingTail action :=
    trim_eq_of_trimStart (trimStart_cons_of_not_isBlank (by decide) _)
      (back (',' :: ' ' :: action))
  have comma :
      trimFront (· = ',') (bindingTail action) = ' ' :: (action ++ [')']) := rfl
  have front : trimStart (action ++ [')']) = action ++ [')'] := by
    rw [trimStart_eq_self_iff]
    intro c found
    cases action with
    | nil =>
        cases found
        decide
    | cons a action =>
        cases found
        exact trimmed.head_not_isBlank rfl
  have body : Text.trim (' ' :: (action ++ [')'])) = action ++ [')'] :=
    trim_space_cons ⟨front, back action⟩
  have opens : (action ++ [')']).count '(' = action.count '(' := by
    simp
  have ends : (action ++ [')']).count ')' = action.count ')' + 1 := by
    simp
  rw [actionOfTail, tail, comma, body]
  simp only [List.getLast?_concat, opens, ends, Nat.lt_succ_iff, decide_true,
    Bool.true_and, decide_eq_true_eq, List.dropLast_concat, trimmed.back]

theorem quotedPrefix?_quoted
    {keys tail : Text} (unquoted : '"' ∉ keys) (noFeed : '\n' ∉ tail) :
    quotedPrefix? ('"' :: (keys ++ '"' :: tail)) = some (keys, tail) := by
  rw [quotedPrefix?, dropWhile_quoted unquoted, takeWhile_quoted unquoted]
  simp only
  rw [onlyLine?_of_not_mem noFeed, Option.map_some]

theorem not_mem_bindingTail {action : Text} (noFeed : '\n' ∉ action) :
    '\n' ∉ bindingTail action := by
  simp [bindingTail, noFeed]

private theorem tupleStart?_bindingLine
    {keys action : Text} (unquoted : '"' ∉ keys) (oneLine : OneLine action) :
    tupleStart? (bindingLine keys action) = some (keys, bindingTail action) := by
  have quoted :=
    quotedPrefix?_quoted unquoted (not_mem_bindingTail oneLine.not_mem_lineFeed)
  rw [bindingLine_eq, bindingBody]
  simp only [tupleStart?, Char.reduceEq, if_false, if_true]
  rw [trimStart_cons_of_not_isBlank (by decide), quoted]

theorem binding?_bindingLine
    {keys action : Text} (quotable : Quotable keys) (plain : Plain action)
    (closes : action.count '(' ≤ action.count ')') :
    binding? (bindingLine keys action) = some (keys, action) := by
  rw [binding?, tupleStart?_bindingLine quotable.unquoted plain.oneLine]
  simp only
  rw [trim_eq_self_iff.mpr quotable.plain.trimmed,
    actionOfTail_bindingTail plain.trimmed, if_pos closes]
  cases keys with
  | nil => exact absurd rfl quotable.nonempty
  | cons c keys => rfl

end Keychart.Markup
