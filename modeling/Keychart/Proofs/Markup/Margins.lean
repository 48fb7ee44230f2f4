import Keychart.Proofs.Markup.Stored
import Keychart.Proofs.Markup.WrittenLine
import Keychart.Proofs.Text.Marks

/-!
# White space around lines

White space in front of a line and behind it does not count.  An annotation means
the same with it, and a line of code holds the same binding, so a source is read
to the same end and has the same keymap.

What a line of code is kept as does change.  Two lines are therefore compared by
what a reader can tell of them: code by its binding, a comment that says nothing
not at all.
-/

namespace Keychart.Text

open Unicode

/-- Whether a text is white space and ends no line. -/
def IsMargin (text : Text) : Prop :=
  ∀ c ∈ text, isBlank c = true ∧ isLineBoundary c = false

instance (text : Text) : Decidable (IsMargin text) :=
  List.decidableBAll _ text

section Margins

variable {front back : Text}

theorem IsMargin.blank (margin : IsMargin back) : ∀ c ∈ back, isBlank c = true :=
  fun c member => (margin c member).1

theorem IsMargin.oneLine (margin : IsMargin back) : OneLine back :=
  fun c member => (margin c member).2

/-- A margin holds no character that is not white space. -/
theorem IsMargin.not_mem (margin : IsMargin back) {c : Char} (visible : isBlank c = false) :
    c ∉ back := by
  intro member
  exact ne_of_isBlank (margin.blank c member) visible rfl

private theorem trimStart_append_of_margin (margin : IsMargin front) (text : Text) :
    trimStart (front ++ text) = trimStart text :=
  List.dropWhile_append_of_pos margin.blank

private theorem trimStart_of_margin (margin : IsMargin back) : trimStart back = [] := by
  have whole := trimStart_append_of_margin margin []
  rw [List.append_nil] at whole
  exact whole

private theorem trimEnd_of_margin (margin : IsMargin back) : trimEnd back = [] :=
  List.rdropWhile_eq_nil_iff.mpr margin.blank

private theorem trimEnd_append_of_margin (margin : IsMargin back) (text : Text) :
    trimEnd (text ++ back) = trimEnd text :=
  trimEnd_append_of_eq_nil text (trimEnd_of_margin margin)

private theorem trim_append_of_margin (margin : IsMargin back) (text : Text) :
    trim (text ++ back) = trim text := by
  rw [← trim_trimEnd, trimEnd_append_of_margin margin, trim_trimEnd]

/-- Characters of a class are dropped up to the same place, or the margin goes too. -/
theorem trimFront_append_of_ne_nil
    {p : Char → Bool} {text : Text} (left : trimFront p text ≠ []) (back : Text) :
    trimFront p (text ++ back) = trimFront p text ++ back := by
  rw [trimFront, List.dropWhile_append, if_neg (by simpa [trimFront] using left)]
  rfl

theorem trimFront_append_of_eq_nil
    {p : Char → Bool} {text : Text} (gone : trimFront p text = []) (back : Text) :
    trimFront p (text ++ back) = trimFront p back := by
  rw [trimFront, List.dropWhile_append, if_pos (by simpa [trimFront] using gone)]
  rfl

private theorem trimEnd_trimFront_append_of_margin
    (p : Char → Bool) (margin : IsMargin back) (text : Text) :
    trimEnd (trimFront p (text ++ back)) = trimEnd (trimFront p text) := by
  by_cases gone : trimFront p text = []
  · have nothing : trimEnd (trimFront p back) = [] := by
      apply trimEnd_of_margin
      exact fun c member => margin c ((List.dropWhile_sublist p).mem member)
    rw [trimFront_append_of_eq_nil gone, nothing, gone]
    rfl
  · rw [trimFront_append_of_ne_nil gone, trimEnd_append_of_margin margin]

private theorem head?_append_of_not_mem {c : Char} (absent : c ∉ back) (text : Text) :
    (text ++ back).head? = some c ↔ text.head? = some c := by
  cases text with
  | cons first text => exact Iff.rfl
  | nil =>
      constructor
      · intro first
        exact absurd (List.mem_of_mem_head? first) absent
      · intro first
        cases first

private theorem dropMark?_append_of_not_mem
    (mark text : Text) (unmarked : ∀ c ∈ mark, c ∉ back) :
    dropMark? mark (text ++ back) = (dropMark? mark text).map (· ++ back) := by
  induction mark generalizing text with
  | nil => rfl
  | cons m mark inductionHypothesis =>
      have first : m ∉ back := unmarked m List.mem_cons_self
      cases text with
      | nil =>
          cases back with
          | nil => rfl
          | cons c back =>
              have different : m ≠ c := by
                rintro rfl
                exact first List.mem_cons_self
              exact if_neg different
      | cons c text =>
          rw [List.cons_append, dropMark?, dropMark?]
          by_cases same : m = c
          · rw [if_pos same, if_pos same]
            apply inductionHypothesis
            exact fun other member => unmarked other (List.mem_cons_of_mem m member)
          · rw [if_neg same, if_neg same]
            rfl

theorem OneLine.trimFront (p : Char → Bool) {text : Text} (oneLine : OneLine text) :
    OneLine (trimFront p text) :=
  oneLine.of_subset (trimFront_subset p text)

private theorem onlyLine?_of_oneLine {text : Text} (oneLine : OneLine text) :
    onlyLine? text = some text :=
  onlyLine?_of_not_mem oneLine.not_mem_lineFeed

end Margins

end Keychart.Text

namespace Keychart.Markup

open Text Unicode

/-- A mark with nothing but white space behind it has no text, and any other keeps
its text. -/
theorem commentText?_append_of_margin
    {line back : Text} (oneLine : OneLine line) (margin : IsMargin back) :
    commentText? (line ++ back) = commentText? line := by
  have unmarked : ∀ c ∈ commentMark, c ∉ back := by
    intro c member
    apply margin.not_mem
    rw [List.eq_of_mem_replicate (n := 2) (a := '-') member]
    decide
  by_cases blank : trimStart line = []
  · have whole : trimStart (line ++ back) = [] :=
      (trimFront_append_of_eq_nil blank back).trans (trimStart_of_margin margin)
    rw [commentText?, commentText?, whole, blank]
  · have whole : trimStart (line ++ back) = trimStart line ++ back :=
      trimFront_append_of_ne_nil blank back
    rw [commentText?, commentText?, whole, dropMark?_append_of_not_mem _ _ unmarked]
    cases found : dropMark? commentMark (trimStart line) with
    | none => rfl
    | some rest =>
        have restLine : OneLine rest := by
          have start : OneLine (trimStart line) := oneLine.trimFront isBlank
          rw [eq_append_of_dropMark? found] at start
          exact (oneLine_append_iff.mp start).2
        have wholeLine : OneLine (rest ++ back) :=
          oneLine_append_iff.mpr ⟨restLine, margin.oneLine⟩
        have operator := head?_append_of_not_mem (margin.not_mem (c := '>') (by decide)) rest
        simp only [Option.map_some, operator]
        rw [onlyLine?_of_oneLine (wholeLine.trimFront _),
          onlyLine?_of_oneLine (restLine.trimFront _), Option.map_some, Option.map_some,
          trimEnd_trimFront_append_of_margin _ margin]

private theorem commentText?_append_margin_front
    {front : Text} (margin : IsMargin front) (line : Text) :
    commentText? (front ++ line) = commentText? line := by
  rw [commentText?, commentText?, trimStart_append_of_margin margin]

section Bindings

variable {front back : Text}

private theorem quotedPrefix?_of_head?_ne {text : Text} (unquoted : text.head? ≠ some '"') :
    quotedPrefix? text = none := by
  rw [quotedPrefix?]
  rintro rest rfl
  exact unquoted rfl

/-- The quotes are closed in front of a margin, or not at all. -/
theorem quotedPrefix?_append_of_margin
    {text : Text} (oneLine : OneLine text) (margin : IsMargin back) :
    quotedPrefix? (text ++ back) =
      (quotedPrefix? text).map fun (quoted, tail) => (quoted, tail ++ back) := by
  have unquoted : '"' ∉ back := margin.not_mem (by decide)
  by_cases first : text.head? = some '"'
  · obtain ⟨text, rfl⟩ := List.head?_eq_some_iff.mp first
    rw [List.cons_append, quotedPrefix?, quotedPrefix?, List.dropWhile_append,
      List.takeWhile_append]
    cases closed : text.dropWhile (· ≠ '"') with
    | nil =>
        have never : back.dropWhile (· ≠ '"') = [] := by
          apply List.dropWhile_eq_nil_iff.mpr
          intro c member
          exact decide_eq_true (ne_of_mem_of_not_mem member unquoted)
        simp only [List.isEmpty_nil, if_true, never]
        rfl
    | cons quote tail =>
        have tailLine : OneLine tail := by
          have dropped : OneLine (text.dropWhile (· ≠ '"')) :=
            (oneLine_cons_iff.mp oneLine).2.trimFront _
          rw [closed] at dropped
          exact (oneLine_cons_iff.mp dropped).2
        have wholeLine : OneLine (tail ++ back) :=
          oneLine_append_iff.mpr ⟨tailLine, margin.oneLine⟩
        have shorter : (text.takeWhile (· ≠ '"')).length ≠ text.length := by
          have lengths := congrArg List.length
            (List.takeWhile_append_dropWhile (p := (· ≠ '"')) (l := text))
          rw [closed, List.length_append, List.length_cons] at lengths
          omega
        simp only [List.isEmpty_cons, Bool.false_eq_true, if_false, List.cons_append,
          onlyLine?_of_oneLine tailLine, onlyLine?_of_oneLine wholeLine, if_neg shorter,
          Option.map_some]
  · have still := mt (head?_append_of_not_mem unquoted text).mp first
    rw [quotedPrefix?_of_head?_ne first, quotedPrefix?_of_head?_ne still, Option.map_none]

private theorem tupleStart?_append_margin_front (margin : IsMargin front) (text : Text) :
    tupleStart? (front ++ text) = tupleStart? text := by
  induction front with
  | nil => rfl
  | cons c front inductionHypothesis =>
      have different : c ≠ '(' := by
        rintro rfl
        exact margin.not_mem (by decide) List.mem_cons_self
      rw [List.cons_append, tupleStart?, if_neg different]
      exact inductionHypothesis fun other member =>
        margin other (List.mem_cons_of_mem c member)

private theorem tupleStart?_of_margin (margin : IsMargin back) : tupleStart? back = none := by
  have whole := tupleStart?_append_margin_front margin []
  rw [List.append_nil] at whole
  exact whole

private theorem tupleStart?_append_of_margin
    {text : Text} (oneLine : OneLine text) (margin : IsMargin back) :
    tupleStart? (text ++ back) =
      (tupleStart? text).map fun (quoted, tail) => (quoted, tail ++ back) := by
  induction text with
  | nil => rw [List.nil_append, tupleStart?_of_margin margin]; rfl
  | cons c text inductionHypothesis =>
      have rest : OneLine text := (oneLine_cons_iff.mp oneLine).2
      rw [List.cons_append, tupleStart?, tupleStart?]
      by_cases parenthesis : c = '('
      · have quoted : quotedPrefix? (trimStart (text ++ back)) =
            (quotedPrefix? (trimStart text)).map fun (quoted, tail) => (quoted, tail ++ back) := by
          by_cases blank : trimStart text = []
          · have whole : trimStart (text ++ back) = [] :=
              (trimFront_append_of_eq_nil blank back).trans (trimStart_of_margin margin)
            rw [whole, blank]
            rfl
          · have whole : trimStart (text ++ back) = trimStart text ++ back :=
              trimFront_append_of_ne_nil blank back
            rw [whole]
            exact quotedPrefix?_append_of_margin (rest.trimFront isBlank) margin
        rw [if_pos parenthesis, if_pos parenthesis, quoted]
        cases quotedPrefix? (trimStart text) with
        | some found => rfl
        | none => exact inductionHypothesis rest
      · rw [if_neg parenthesis, if_neg parenthesis]
        exact inductionHypothesis rest

private theorem actionOfTail_append_of_margin (margin : IsMargin back) (tail : Text) :
    actionOfTail (tail ++ back) = actionOfTail tail := by
  rw [actionOfTail, actionOfTail, trim_append_of_margin margin]

private theorem binding?_of_margins
    (frontMargin : IsMargin front) (backMargin : IsMargin back) {line : Text}
    (oneLine : OneLine line) :
    binding? (front ++ line ++ back) = binding? line := by
  rw [binding?, binding?, List.append_assoc, tupleStart?_append_margin_front frontMargin,
    tupleStart?_append_of_margin oneLine backMargin]
  cases tupleStart? line with
  | none => rfl
  | some found => simp only [Option.map_some, actionOfTail_append_of_margin backMargin]

end Bindings

/-! ## Lines that a reader does not tell apart -/

/-- Lines that mean the same to every reader. -/
inductive Alike : Line → Line → Prop
  | same (line : Line) : Alike line line
  | code {line other : Text} (binding : binding? line = binding? other) :
      Alike (.code line) (.code other)
  | other (line other : Text) : Alike (.other line) (.other other)

theorem Alike.read_eq {line other : Line} (alike : Alike line other) (r : Reader) :
    r.read line = r.read other := by
  cases alike with
  | same => rfl
  | other line other => rfl
  | @code line other binding =>
      have code : r.readCode line = r.readCode other := by
        rw [Reader.readCode, binding, ← Reader.readCode]
      cases phase : r.phase with
      | before => simp only [Reader.read, phase]
      | after => simp only [Reader.read, phase]
      | inside =>
          rw [Reader.read_of_inside phase, Reader.read_of_inside phase]
          exact code

private theorem alike_readComment (line other comment : Text) :
    Alike (readComment line comment) (readComment other comment) := by
  unfold readComment
  split
  · exact .same _
  · exact .same _
  · exact .same _
  · exact .other line other
  · exact .same _

/-- White space around a line does not change what a reader makes of it. -/
theorem alike_readLine_of_margins
    {front back : Text} (frontMargin : IsMargin front) (backMargin : IsMargin back) {line : Text}
    (oneLine : OneLine line) :
    Alike (readLine (front ++ line ++ back)) (readLine line) := by
  have comment : commentText? (front ++ line ++ back) = commentText? line := by
    rw [List.append_assoc, commentText?_append_margin_front frontMargin,
      commentText?_append_of_margin oneLine backMargin]
  have trimmed : Text.trim (front ++ line ++ back) = Text.trim line := by
    rw [trim_append_of_margin backMargin, Text.trim, trimStart_append_of_margin frontMargin,
      Text.trim]
  rw [readLine, readLine, comment]
  cases commentText? line with
  | some text => exact alike_readComment _ line text
  | none =>
      simp only [readCode, trimmed]
      split
      · exact .same _
      · exact .other _ line
      · exact .code (binding?_of_margins frontMargin backMargin oneLine)

/-- A line of a source, with white space to be written around it. -/
structure Spaced where
  line : Text
  front : Text
  back : Text
  oneLine : OneLine line
  frontMargin : IsMargin front
  backMargin : IsMargin back

def Spaced.text (s : Spaced) : Text := s.front ++ s.line ++ s.back

inductive IsBoundary : Text → Prop
  | single (c : Char) (boundary : isLineBoundary c = true) : IsBoundary [c]
  | pair : IsBoundary ['\r', '\n']

/-- A line and the boundary that ends it. -/
structure Row extends Spaced where
  ending : Text
  ends : IsBoundary ending

/-- The source that some rows make, with a last line that no boundary ends.  The
lines are written in one way or another. -/
def sourceBy (written : Spaced → Text) (rows : List Row) (last : Spaced) : Text :=
  rows.flatMap (fun row => written row.toSpaced ++ row.ending) ++ written last

/-- Behind a boundary a new line starts.  Where a carriage return stands in front of a
line feed the two are one boundary, and an empty line less is read. -/
theorem exists_lines_boundary {ending : Text} (ends : IsBoundary ending) (text : Text) :
    ∃ rest, lines (ending ++ text) = [] :: rest ∧
      (rest = lines text ∨ lines text = [] :: rest) := by
  cases ends with
  | pair => exact ⟨lines text, rfl, Or.inl rfl⟩
  | single c boundary =>
      by_cases joined : c = '\r' ∧ text.head? = some '\n'
      · obtain ⟨rfl, feed⟩ := joined
        cases text with
        | nil => cases feed
        | cons d text =>
            cases feed
            exact ⟨lines text, rfl, Or.inr rfl⟩
      · exact ⟨lines text, lines_cons_of_isLineBoundary boundary joined, Or.inl rfl⟩

namespace Reader

variable {r : Reader}

/-- An empty line changes nothing. -/
theorem read_readLine_nil : r.read (readLine []) = r := by
  have blank : readLine [] = .blank := rfl
  rw [blank]
  cases phase : r.phase with
  | before => simp only [read, phase]
  | inside => simp only [read, phase, readInside]
  | after => simp only [read, phase]

private theorem readAll_readLines_of_oneLine {line : Text} (oneLine : OneLine line) :
    r.readAll (readLines line) = r.read (readLine line) := by
  by_cases empty : line = []
  · rw [empty, read_readLine_nil]
    rfl
  · rw [readLines, lines_of_oneLine oneLine empty]
    rfl

theorem readAll_readLines_append
    {line ending : Text} (oneLine : OneLine line) (ends : IsBoundary ending) (text : Text) :
    r.readAll (readLines (line ++ ending ++ text)) =
      (r.read (readLine line)).readAll (readLines text) := by
  obtain ⟨rest, starts, same | skipped⟩ := exists_lines_boundary ends text
  · rw [readLines, List.append_assoc, lines_append_of_lines_eq oneLine starts, same]
    rfl
  · have behind : (r.read (readLine line)).readAll (readLines text) =
        (r.read (readLine line)).readAll (rest.map readLine) := by
      rw [readLines, skipped]
      exact congrArg (readAll · _) read_readLine_nil
    rw [readLines, List.append_assoc, lines_append_of_lines_eq oneLine starts, behind]
    rfl

end Reader

private theorem Spaced.oneLine_text (s : Spaced) : OneLine s.text :=
  oneLine_append_iff.mpr
    ⟨oneLine_append_iff.mpr ⟨s.frontMargin.oneLine, s.oneLine⟩, s.backMargin.oneLine⟩

private theorem Spaced.read_readLine_text (s : Spaced) (r : Reader) :
    r.read (readLine s.text) = r.read (readLine s.line) :=
  (alike_readLine_of_margins s.frontMargin s.backMargin s.oneLine).read_eq r

theorem sourceBy_cons (written : Spaced → Text) (row : Row) (rows : List Row) (last : Spaced) :
    sourceBy written (row :: rows) last =
      written row.toSpaced ++ row.ending ++ sourceBy written rows last :=
  List.append_assoc _ _ _

/-- Row by row, a reader cannot tell the two ways to write a source apart. -/
theorem readAll_sourceBy_text (rows : List Row) (last : Spaced) (r : Reader) :
    r.readAll (readLines (sourceBy Spaced.text rows last)) =
      r.readAll (readLines (sourceBy Spaced.line rows last)) := by
  induction rows generalizing r with
  | nil =>
      change r.readAll (readLines last.text) = r.readAll (readLines last.line)
      rw [Reader.readAll_readLines_of_oneLine last.oneLine_text,
        Reader.readAll_readLines_of_oneLine last.oneLine, last.read_readLine_text]
  | cons row rows inductionHypothesis =>
      rw [sourceBy_cons, sourceBy_cons,
        Reader.readAll_readLines_append row.oneLine_text row.ends,
        Reader.readAll_readLines_append row.oneLine row.ends, row.read_readLine_text,
        inductionHypothesis]

/-- White space that ends no line, in front of the lines of a source and behind them,
leaves the reader and the keymap as they are. -/
theorem ofSource_spaced (rows : List Row) (last : Spaced) :
    readSource (sourceBy Spaced.text rows last) =
        readSource (sourceBy Spaced.line rows last) ∧
      Keymap.ofSource (sourceBy Spaced.text rows last) =
        Keymap.ofSource (sourceBy Spaced.line rows last) := by
  have same := readAll_sourceBy_text rows last {}
  constructor
  · rw [readSource, readSource, same]
  · rw [Keymap.ofSource, Keymap.ofSource, Keymap.ofLines, Keymap.ofLines, same]

def wideTitle : Row where
  line := titleLine ['T']
  front := ['\t', '\u00a0']
  back := ['\u3000']
  oneLine := by decide
  frontMargin := by decide
  backMargin := by decide
  ending := ['\r', '\n']
  ends := .pair

def wideBinding : Spaced where
  line := bindingLine ['k'] ['x']
  front := ['\u2003']
  back := [' ', '\x1f']
  oneLine := by decide
  frontMargin := by decide
  backMargin := by decide

/-- A title and a binding among white space of several kinds. -/
theorem ofSource_spaced_wide :
    Keymap.ofSource
        (Text.ofString "\t\u00a0-- # T\u3000\r\n\u2003  , (\"k\", x) \x1f") =
      { title := ['T'], sections := [{ keybinds := [{ keys := ['k'], action := ['x'] }] }],
        hasRegion := true } := by
  have spaced := (ofSource_spaced [wideTitle] wideBinding).2
  have plain : Keymap.ofSource (sourceBy Spaced.line [wideTitle] wideBinding) =
      { title := ['T'], sections := [{ keybinds := [{ keys := ['k'], action := ['x'] }] }],
        hasRegion := true } := by
    decide
  exact spaced.trans plain

end Keychart.Markup
