import Keychart.Proofs.Text.Highlighted
import Keychart.Proofs.Text.ShownText
import Keychart.Proofs.Text.Trim
import Keychart.Viewer.Pane
import Mathlib.Data.List.Forall2

/-!
# What a line of the pane shows

The lines are described by what stands on them, not by how they are made.  A gap is an
empty line, a heading is the name of its section, and a keybind has its keys in a column
that all rows share and its label behind it.  What is too wide for its place is cut to its
longest front with dots behind it.
-/

namespace Keychart.Viewer

open Text

/-- Whether a text is drawn in a style, with the characters at some positions, and no
others, in another style inside. -/
def DrawsMarked (style mark : Style) (positions : List Nat) (text drawn : Text) : Prop :=
  ∃ segments, TakeTurns text segments ∧
    (∀ i < text.length, (flags segments)[i]? = some true ↔ i ∈ positions) ∧
    drawn = style.apply (drawSegments mark.apply segments)

private theorem drawsMarked_highlight (style mark : Style) (positions : List Nat) (text : Text) :
    DrawsMarked style mark positions text
      (highlight style.apply mark.apply positions text) := by
  refine ⟨runs (fun i => positions.contains i) 0 text, runs_takeTurns _ 0 text, ?_,
    highlight_eq_drawSegments _ _ positions text⟩
  intro i within
  rw [getElem?_flags_runs _ within, Option.some.injEq, List.contains_iff_mem]

/-- Whether a line is joined from a text: each run of line ends is one space. -/
inductive JoinsLines : Text → Text → Prop
  | nil : JoinsLines [] []
  | inside {c : Char} {text line : Text} (inside : c ≠ '\r' ∧ c ≠ '\n')
      (rest : JoinsLines text line) : JoinsLines (c :: text) (c :: line)
  | ends {run text line : Text} (nonempty : run ≠ []) (all : ∀ c ∈ run, c = '\r' ∨ c = '\n')
      (stops : ∀ c ∈ text.head?, c ≠ '\r' ∧ c ≠ '\n') (rest : JoinsLines text line) :
      JoinsLines (run ++ text) (' ' :: line)

/-- Whether a text is shown on one line: its lines are joined, and the white space at the
ends is left out. -/
def OnOneLine (text line : Text) : Prop :=
  ∃ joined front back, JoinsLines text joined ∧ joined = front ++ line ++ back ∧
    (∀ c ∈ front, Unicode.isBlank c = true) ∧ (∀ c ∈ back, Unicode.isBlank c = true) ∧
    Trimmed line

namespace Pane

private theorem isLineEnd_cases (c : Char) :
    (isLineEnd c = true ∧ (c = '\r' ∨ c = '\n')) ∨
      (isLineEnd c = false ∧ c ≠ '\r' ∧ c ≠ '\n') := by
  by_cases carriageReturn : c = '\r'
  · exact .inl ⟨by rw [carriageReturn]; rfl, .inl carriageReturn⟩
  by_cases lineFeed : c = '\n'
  · exact .inl ⟨by rw [lineFeed]; rfl, .inr lineFeed⟩
  · refine .inr ⟨?_, carriageReturn, lineFeed⟩
    rw [isLineEnd, decide_eq_false carriageReturn, decide_eq_false lineFeed]
    rfl

/-- A run of line ends is one space, however long it is. -/
private theorem joinsLines_cons_of_ends
    {c d : Char} {text line : Text} (isEnd : c = '\r' ∨ c = '\n') (more : d = '\r' ∨ d = '\n')
    (joined : JoinsLines (d :: text) line) :
    JoinsLines (c :: d :: text) line := by
  generalize whole : d :: text = rest at joined ⊢
  cases joined with
  | nil => cases whole
  | inside inside =>
      cases whole
      rcases more with same | same
      · exact absurd same inside.1
      · exact absurd same inside.2
  | ends nonempty all stops rest =>
      exact .ends (List.cons_ne_nil c _) (List.forall_mem_cons.mpr ⟨isEnd, all⟩) stops rest

private theorem joinsLines_joinLines (text : Text) : JoinsLines text (joinLines text) := by
  induction text with
  | nil => exact .nil
  | cons c text inductionHypothesis =>
      rw [joinLines]
      rcases isLineEnd_cases c with ⟨ends, isEnd⟩ | ⟨inside, noEnd⟩
      · rw [if_pos ends]
        cases text with
        | nil =>
            exact .ends (List.cons_ne_nil c []) (List.forall_mem_singleton.mpr isEnd)
              (fun _ member => nomatch member) .nil
        | cons d text =>
            rcases isLineEnd_cases d with ⟨more, moreEnd⟩ | ⟨stops, noMore⟩
            · rw [if_pos (show (d :: text).head?.any isLineEnd = true from more)]
              exact joinsLines_cons_of_ends isEnd moreEnd inductionHypothesis
            · have last : ¬ (d :: text).head?.any isLineEnd = true := by
                change ¬ isLineEnd d = true
                rw [stops]
                exact Bool.false_ne_true
              rw [if_neg last]
              refine .ends (List.cons_ne_nil c []) (List.forall_mem_singleton.mpr isEnd) ?_
                inductionHypothesis
              intro e member
              cases member
              exact noMore
      · rw [if_neg (by rw [inside]; exact Bool.false_ne_true)]
        exact .inside noEnd inductionHypothesis

private theorem onOneLine_onOneLine (text : Text) : OnOneLine text (onOneLine text) := by
  obtain ⟨front, back, whole, frontBlank, backBlank⟩ := exists_trim (joinLines text)
  exact ⟨joinLines text, front, back, joinsLines_joinLines text, whole, frontBlank, backBlank,
    trimmed_trim _⟩

/-- Whether keys are drawn in a column: they, or the longest front of them that fits, with
the matched characters highlighted if nothing is cut, and spaces up to the column. -/
def DrawsKeys (theme : Theme) (column : Nat) (result : SearchResult) (drawn : Text) : Prop :=
  ∃ keys marked, ShownIn column [] result.keybind.keys keys ∧
    DrawsMarked theme.keys theme.highlight
      (if keys = result.keybind.keys then result.keyPositions.getD [] else []) keys marked ∧
    drawn = marked ++ List.replicate (column - visibleWidth keys) ' '

/-- Whether a label is drawn: the description with the matched characters highlighted, or
the action where there is none. -/
inductive DrawsLabel (theme : Theme) (result : SearchResult) : Text → Prop
  | description {line drawn : Text} (some : result.keybind.description ≠ [])
      (joined : OnOneLine result.keybind.description line)
      (marked : DrawsMarked theme.description theme.highlight
        (result.descriptionPositions.getD []) line drawn) :
      DrawsLabel theme result drawn
  | action {line : Text} (none : result.keybind.description = [])
      (joined : OnOneLine result.keybind.action line) :
      DrawsLabel theme result (theme.comment.apply line)

/-- Whether the section of a result is drawn: in brackets, if the result has one and the
pane shows results. -/
inductive DrawsSection (theme : Theme) (ranked : Bool) (result : SearchResult) : Text → Prop
  | named {name : Text} (isRanked : ranked = true)
      (some : result.keybind.sectionName = some name) (nonempty : name ≠ []) :
      DrawsSection theme ranked result (' ' :: theme.comment.apply ('[' :: name ++ [']']))
  | unnamed (none : ranked = false ∨ ∀ name ∈ result.keybind.sectionName, name = []) :
      DrawsSection theme ranked result []

/-- Whether a line shows a row, given the column of the keys. -/
inductive DrawsRow (theme : Theme) (ranked : Bool) (column width : Nat) : Row → Text → Prop
  | gap : DrawsRow theme ranked column width .gap []
  | heading {name shown : Text} (fitted : ShownIn width ['.', '.', '.'] name shown) :
      DrawsRow theme ranked column width (.heading name) (theme.heading.apply shown)
  | keys {result : SearchResult} {keys : Text} (noRoom : width ≤ 2 + column + 2)
      (isKeys : DrawsKeys theme column result keys) :
      DrawsRow theme ranked column width (.keybind result) (' ' :: ' ' :: keys)
  | labelled {result : SearchResult} {keys label name shown : Text}
      (room : 2 + column + 2 < width) (isKeys : DrawsKeys theme column result keys)
      (isLabel : DrawsLabel theme result label)
      (isSection : DrawsSection theme ranked result name)
      (fitted : ShownIn (width - (2 + column + 2)) ['.', '.', '.'] (label ++ name) shown) :
      DrawsRow theme ranked column width (.keybind result)
        (' ' :: ' ' :: keys ++ ' ' :: ' ' :: shown)

section Lines

variable (theme : Theme) (ranked : Bool) (column width : Nat) (result : SearchResult)

private theorem drawsKeys_renderKeys :
    DrawsKeys theme column result (renderKeys theme result column) := by
  refine ⟨truncate column [] false result.keybind.keys, _, shownIn_truncate _ _ _, ?_, rfl⟩
  exact drawsMarked_highlight theme.keys theme.highlight _ _

private theorem drawsLabel_renderLabel : DrawsLabel theme result (renderLabel theme result) := by
  rw [renderLabel, Keybind.label]
  by_cases none : result.keybind.description = []
  · have empty : result.keybind.description.isEmpty = true := List.isEmpty_iff.mpr none
    rw [if_pos empty, if_pos empty]
    exact .action none (onOneLine_onOneLine _)
  · have some : ¬ result.keybind.description.isEmpty = true := fun empty =>
      none (List.isEmpty_iff.mp empty)
    rw [if_neg some, if_neg some]
    exact .description none (onOneLine_onOneLine _) (drawsMarked_highlight _ _ _ _)

private theorem drawsSection_renderSection :
    DrawsSection theme ranked result (if ranked then renderSection theme result else []) := by
  cases ranked with
  | false => exact .unnamed (.inl rfl)
  | true =>
      rw [if_pos rfl, renderSection]
      split
      · next none => exact .unnamed (.inr fun _ member => by rw [none] at member; cases member)
      · next empty =>
          refine .unnamed (.inr ?_)
          intro name member
          rw [empty] at member
          cases member
          rfl
      · next name nonempty some => exact .named rfl some fun empty => nonempty empty

theorem drawsRow_renderRow (row : Row) :
    DrawsRow theme ranked column width row (renderRow theme ranked column width row) := by
  cases row with
  | gap => exact .gap
  | heading name => exact .heading (shownIn_truncate _ _ _)
  | keybind result =>
      rw [renderRow, renderKeybind]
      have left : width - indent.length - column - keysGap.length = width - (2 + column + 2) := by
        change width - 2 - column - 2 = _
        omega
      dsimp only
      rw [left]
      by_cases noRoom : width ≤ 2 + column + 2
      · rw [if_pos (Nat.sub_eq_zero_of_le noRoom)]
        exact .keys noRoom (drawsKeys_renderKeys theme column result)
      · rw [if_neg (by omega), List.append_assoc (indent ++ renderKeys theme result column)]
        exact .labelled (Nat.lt_of_not_le noRoom) (drawsKeys_renderKeys theme column result)
          (drawsLabel_renderLabel theme result) (drawsSection_renderSection theme ranked result)
          (shownIn_truncate _ _ _)

end Lines

/-- Whether the keys of some rows have a column: no wider than the widest of them, and no
narrower unless that would be more than eight columns and a third of the width. -/
structure KeysColumn (rows : List Row) (width column : Nat) : Prop where
  positive : 0 < column
  most : column ≤ max 8 (width / 3)
  holds : ∀ result, .keybind result ∈ rows →
    visibleWidth result.keybind.keys ≤ column ∨ column = max 8 (width / 3)
  least : column = 1 ∨
    ∃ result, .keybind result ∈ rows ∧ column ≤ visibleWidth result.keybind.keys

theorem keysColumn_keysWidth (p : Pane) (width : Nat) :
    KeysColumn p.rows width (p.keysWidth width) := by
  have column : p.keysWidth width =
      max 1 (min (((p.rows.map keysWidthOf).max?).getD 0) (max 8 (width / 3))) := by
    rw [keysWidth, List.foldl_max, Nat.zero_max]
    rfl
  rw [column]
  cases widest : (p.rows.map keysWidthOf).max? with
  | none =>
      have nothing : p.rows = [] := List.map_eq_nil_iff.mp (List.max?_eq_none_iff.mp widest)
      rw [nothing, Option.getD_none]
      refine ⟨by omega, by omega, fun _ member => absurd member List.not_mem_nil, .inl ?_⟩
      omega
  | some n =>
      obtain ⟨attained, greatest⟩ := List.max?_eq_some_iff.mp widest
      rw [Option.getD_some]
      refine ⟨by omega, by omega, ?_, ?_⟩
      · intro result member
        have below : visibleWidth result.keybind.keys ≤ n :=
          greatest _ (List.mem_map_of_mem member)
        omega
      · obtain ⟨row, member, same⟩ := List.mem_map.mp attained
        cases row with
        | gap | heading =>
            have zero : n = 0 := same.symm
            left
            omega
        | keybind result =>
            have wide : visibleWidth result.keybind.keys = n := same
            by_cases tight : n ≤ 1
            · left
              omega
            · right
              exact ⟨result, member, by omega⟩

/-- What is said of a window of rows: the first row, the last one, and how many rows there
are in all. -/
def placeText (first last count : Nat) : Text :=
  [' ', ' ', '('] ++ Nat.toDigits 10 first ++ '-' :: Nat.toDigits 10 last ++
    '/' :: Nat.toDigits 10 count ++ [')']

/-- Whether a line says which rows a window shows: with all the numbers if the width has
room for them. -/
inductive DrawsPlace (theme : Theme) (width first last count : Nat) : Text → Prop
  | whole (room : (placeText first last count).length ≤ width) :
      DrawsPlace theme width first last count (theme.scrollInfo.apply (placeText first last count))
  | cut {shown : Text} (narrow : width < (placeText first last count).length)
      (fitted : ShownIn width ['.', '.', '.'] (placeText first last count) shown) :
      DrawsPlace theme width first last count (theme.scrollInfo.apply shown)

private theorem isPlainAscii_toDigits (n : Nat) : isPlainAscii (Nat.toDigits 10 n) = true := by
  have each : ∀ code : Fin 58, 48 ≤ code.val → Unicode.isPrintable (Char.ofNat code) = true := by
    decide
  refine List.all_eq_true.mpr fun c member => ?_
  have digit : c.isDigit = true :=
    Nat.isDigit_of_mem_toDigits (by decide) (by decide) member
  have bounds : 48 ≤ c.toNat ∧ c.toNat ≤ 57 := by
    simpa [Char.isDigit, UInt32.le_iff_toNat_le] using digit
  have printable := each ⟨c.toNat, by omega⟩ bounds.1
  rw [Char.ofNat_toNat] at printable
  rw [printable, Bool.and_true, decide_eq_true_eq]
  omega

theorem isPlainAscii_placeText (first last count : Nat) :
    isPlainAscii (placeText first last count) = true := by
  have behind (mark : Char) (known : isPlainAscii [mark] = true) (n : Nat) :
      isPlainAscii (mark :: Nat.toDigits 10 n) = true :=
    @isPlainAscii_append [mark] _ |>.mpr ⟨known, isPlainAscii_toDigits n⟩
  simp only [placeText, isPlainAscii_append]
  exact ⟨⟨⟨⟨by decide, isPlainAscii_toDigits first⟩, behind '-' (by decide) last⟩,
    behind '/' (by decide) count⟩, by decide⟩

theorem drawsPlace_renderPlace (theme : Theme) (width first last count : Nat) :
    DrawsPlace theme width first last count (renderPlace theme width first (last : Int) count) := by
  have columns := visibleWidth_of_isPlainAscii (isPlainAscii_placeText first last count)
  change DrawsPlace theme width first last count
    (theme.scrollInfo.apply (truncate width dots false (placeText first last count)))
  by_cases room : (placeText first last count).length ≤ width
  · have some : 0 < (placeText first last count).length := Nat.zero_lt_succ _
    rw [truncate, if_neg (by omega), if_pos (by rwa [columns])]
    exact .whole room
  · exact .cut (Nat.lt_of_not_le room) (shownIn_truncate _ _ _)

end Pane

end Keychart.Viewer
