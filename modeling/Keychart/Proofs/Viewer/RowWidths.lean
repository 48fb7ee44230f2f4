import Keychart.Proofs.Theme.Unseen
import Keychart.Proofs.Viewer.Scrolling

/-!
# The width of the lines of the pane

The keys may always take eight columns, and two stand in front of them.  So from ten columns
on every line of the pane fits, if the rows are printable ASCII and what the styles write is
stripped.
-/

namespace Keychart

open Text

namespace Style.Stripped

variable {style : Style} (stripped : style.Stripped) {text : Text} (ascii : ShowsAscii text)
include stripped ascii

private theorem stripEscapes_apply : stripEscapes (style.apply text) = stripEscapes text := by
  have nothing : stripEscapes style.back = [] := by
    have alone := stripped.back []
    rwa [List.append_nil] at alone
  rw [Style.apply, List.append_assoc, stripped.front, ascii.stripEscapes_append, nothing,
    List.append_nil]

private theorem showsAscii_apply : ShowsAscii (style.apply text) := by
  rwa [ShowsAscii, stripped.stripEscapes_apply ascii]

private theorem visibleWidth_apply : visibleWidth (style.apply text) = visibleWidth text := by
  rw [(stripped.showsAscii_apply ascii).visibleWidth_eq_length, stripped.stripEscapes_apply ascii,
    ascii.visibleWidth_eq_length]

end Style.Stripped

namespace Viewer

/-- What a style marks of printable ASCII is seen as it is. -/
private theorem stripEscapes_drawSegments
    {mark : Style} (stripped : mark.Stripped) {segments : List (Bool × Text)}
    (ascii : isPlainAscii (segments.flatMap Prod.snd) = true) :
    stripEscapes (drawSegments mark.apply segments) = segments.flatMap Prod.snd := by
  induction segments with
  | nil => rfl
  | cons segment segments inductionHypothesis =>
      rw [List.flatMap_cons, isPlainAscii_append] at ascii
      have rest := inductionHypothesis ascii.2
      have plain := showsAscii_of_isPlainAscii ascii.1
      have same := stripEscapes_of_isPlainAscii ascii.1
      rw [drawSegments] at rest
      rw [drawSegments, List.flatMap_cons, List.flatMap_cons]
      by_cases marked : segment.1 = true
      · rw [if_pos marked, (stripped.showsAscii_apply plain).stripEscapes_append,
          stripped.stripEscapes_apply plain, same, rest]
      · rw [if_neg marked, plain.stripEscapes_append, same, rest]

private theorem DrawsMarked.stripEscapes_eq
    {style mark : Style} {positions : List Nat} {text drawn : Text}
    (h : DrawsMarked style mark positions text drawn) (outside : style.Stripped)
    (inside : mark.Stripped) (ascii : isPlainAscii text = true) :
    stripEscapes drawn = text := by
  obtain ⟨segments, turns, -, rfl⟩ := h
  rw [← turns.spelled] at ascii
  have seen := stripEscapes_drawSegments inside ascii
  rw [outside.stripEscapes_apply (by rwa [ShowsAscii, seen]), seen, turns.spelled]

/-- What is cut of printable ASCII has no sequence that a reset would end. -/
private theorem isPlainAscii_of_shownIn
    {width : Nat} {ellipsis text shown : Text} (h : ShownIn width ellipsis text shown)
    (ascii : isPlainAscii text = true) (closes : isPlainAscii ellipsis = true) :
    isPlainAscii shown = true := by
  cases h with
  | nothing none => rfl
  | whole some fits => exact ascii
  | @cut front wide room isFront =>
      have kept := isPlainAscii_of_subset isFront.begins.subset ascii
      have unstyled : ¬ HasSequence front := by
        rintro ⟨code, known, part⟩
        have escape : '\x1b' ∈ code := by cases known <;> exact List.mem_cons_self
        exact absurd (List.all_eq_true.mp kept _ (part.subset escape)) (by decide)
      rw [if_neg unstyled, List.append_nil]
      exact isPlainAscii_append.mpr ⟨kept, closes⟩
  | noRoom some wide full isFront => exact isPlainAscii_of_subset isFront.begins.subset closes

private theorem isPlainAscii_of_joinsLines
    {text line : Text} (h : JoinsLines text line) (ascii : isPlainAscii text = true) :
    isPlainAscii line = true := by
  induction h with
  | nil => rfl
  | @inside c text line inside rest inductionHypothesis =>
      obtain ⟨first, behind⟩ := (@isPlainAscii_append [c] text).mp ascii
      exact (@isPlainAscii_append [c] line).mpr ⟨first, inductionHypothesis behind⟩
  | @ends run text line nonempty all stops rest inductionHypothesis =>
      have space : isPlainAscii [' '] = true := by decide
      exact (@isPlainAscii_append [' '] line).mpr
        ⟨space, inductionHypothesis (isPlainAscii_append.mp ascii).2⟩

private theorem isPlainAscii_of_onOneLine
    {text line : Text} (h : OnOneLine text line) (ascii : isPlainAscii text = true) :
    isPlainAscii line = true := by
  obtain ⟨joined, front, back, joins, whole, -⟩ := h
  have known := isPlainAscii_of_joinsLines joins ascii
  rw [whole, isPlainAscii_append, isPlainAscii_append] at known
  exact known.1.2

def Row.texts : Row → List Text
  | .gap => []
  | .heading name => [name]
  | .keybind result =>
    [result.keybind.keys, result.keybind.description, result.keybind.action] ++
      result.keybind.sectionName.toList

def Row.IsAscii (row : Row) : Prop := ∀ text ∈ row.texts, isPlainAscii text = true

instance (row : Row) : Decidable row.IsAscii :=
  inferInstanceAs (Decidable (∀ text ∈ row.texts, _))

namespace Pane

section Lines

variable {theme : Theme} (stripped : ∀ style ∈ theme.styles, style.Stripped)
  {ranked : Bool} {column width : Nat} {result : SearchResult} {drawn : Text}
include stripped

private theorem showsAscii_of_drawsKeys (h : DrawsKeys theme column result drawn)
    (ascii : isPlainAscii result.keybind.keys = true) :
    ShowsAscii drawn ∧ visibleWidth drawn = column := by
  obtain ⟨keys, marked, shown, draws, rfl⟩ := h
  have kept := isPlainAscii_of_shownIn shown ascii rfl
  have seen := draws.stripEscapes_eq (stripped _ (by simp [Theme.styles]))
    (stripped _ (by simp [Theme.styles])) kept
  have shows : ShowsAscii marked := by rwa [ShowsAscii, seen]
  have fits := (shown.showsAscii (showsAscii_of_isPlainAscii ascii) rfl).2
  have same : visibleWidth marked = visibleWidth keys := by
    rw [shows.visibleWidth_eq_length, seen, visibleWidth_of_isPlainAscii kept]
  have blanks := isPlainAscii_spaces (column - visibleWidth keys)
  have spaced := showsAscii_of_isPlainAscii blanks
  refine ⟨shows.append spaced, ?_⟩
  change visibleWidth (marked ++ spaces (column - visibleWidth keys)) = column
  rw [shows.visibleWidth_append spaced, same, visibleWidth_of_isPlainAscii blanks, spaces,
    List.length_replicate]
  omega

private theorem showsAscii_of_drawsLabel (h : DrawsLabel theme result drawn)
    (ascii : (Row.keybind result).IsAscii) :
    ShowsAscii drawn := by
  cases h with
  | @description line _ some joined marked =>
      have plain := isPlainAscii_of_onOneLine joined (ascii _ (by simp [Row.texts]))
      rwa [ShowsAscii, marked.stripEscapes_eq (stripped _ (by simp [Theme.styles]))
        (stripped _ (by simp [Theme.styles])) plain]
  | @action line none joined =>
      have plain := isPlainAscii_of_onOneLine joined (ascii _ (by simp [Row.texts]))
      exact (stripped _ (by simp [Theme.styles])).showsAscii_apply
        (showsAscii_of_isPlainAscii plain)

private theorem showsAscii_of_drawsSection (h : DrawsSection theme ranked result drawn)
    (ascii : (Row.keybind result).IsAscii) :
    ShowsAscii drawn := by
  cases h with
  | @named name isRanked some nonempty =>
      have bracketed : isPlainAscii (['['] ++ name ++ [']']) = true := by
        simp only [isPlainAscii_append]
        exact ⟨⟨by decide, ascii name (by simp [Row.texts, some])⟩, by decide⟩
      have space : ShowsAscii [' '] := by decide
      exact space.append ((stripped _ (by simp [Theme.styles])).showsAscii_apply
        (showsAscii_of_isPlainAscii bracketed))
  | unnamed none => exact rfl

omit stripped in
private theorem visibleWidth_apply_le {style : Style} (hidden : style.Stripped) {text shown : Text}
    (fitted : ShownIn width dots text shown) (ascii : isPlainAscii text = true) :
    visibleWidth (style.apply shown) ≤ width := by
  obtain ⟨shows, fits⟩ := fitted.showsAscii (showsAscii_of_isPlainAscii ascii) (by decide)
  rwa [hidden.visibleWidth_apply shows]

private theorem visibleWidth_le_of_drawsRow {row : Row} {line : Text}
    (h : DrawsRow theme ranked column width row line) (room : 2 + column ≤ width)
    (ascii : row.IsAscii) :
    visibleWidth line ≤ width := by
  have indented : ShowsAscii [' ', ' '] := by decide
  have two : visibleWidth [' ', ' '] = 2 := by decide
  have ended : ShowsAscii dots := by decide
  cases h with
  | gap => exact Nat.zero_le _
  | heading fitted =>
      exact visibleWidth_apply_le (stripped _ (by simp [Theme.styles])) fitted
        (ascii _ List.mem_cons_self)
  | @keys result keys noRoom isKeys =>
      obtain ⟨shows, exact⟩ := showsAscii_of_drawsKeys stripped isKeys (ascii _ (by simp [Row.texts]))
      change visibleWidth ([' ', ' '] ++ keys) ≤ width
      rw [indented.visibleWidth_append shows, two, exact]
      exact room
  | @labelled result keys label name shown some isKeys isLabel isSection fitted =>
      obtain ⟨shows, exact⟩ := showsAscii_of_drawsKeys stripped isKeys (ascii _ (by simp [Row.texts]))
      obtain ⟨labelled, fits⟩ := fitted.showsAscii
        ((showsAscii_of_drawsLabel stripped isLabel ascii).append
          (showsAscii_of_drawsSection stripped isSection ascii)) ended
      change visibleWidth ([' ', ' '] ++ keys ++ ([' ', ' '] ++ shown)) ≤ width
      rw [(indented.append shows).visibleWidth_append (indented.append labelled),
        indented.visibleWidth_append shows, indented.visibleWidth_append labelled, two, exact]
      omega

private theorem visibleWidth_le_of_drawsPlace {first last count : Nat} {line : Text}
    (h : DrawsPlace theme width first last count line) :
    visibleWidth line ≤ width := by
  have ascii := isPlainAscii_placeText first last count
  have place := stripped theme.scrollInfo (by simp [Theme.styles])
  cases h with
  | whole room =>
      rw [place.visibleWidth_apply (showsAscii_of_isPlainAscii ascii),
        visibleWidth_of_isPlainAscii ascii]
      exact room
  | cut narrow fitted => exact visibleWidth_apply_le place fitted ascii

end Lines

private theorem exists_row_of_mem {R : Row → Text → Prop} {rows : List Row} {lines : List Text}
    (each : List.Forall₂ R rows lines) {line : Text} (member : line ∈ lines) :
    ∃ row ∈ rows, R row line := by
  induction each with
  | nil => cases member
  | @cons row first rows lines shows each inductionHypothesis =>
      rcases List.mem_cons.mp member with rfl | later
      · exact ⟨row, List.mem_cons_self, shows⟩
      · obtain ⟨other, within, shown⟩ := inductionHypothesis later
        exact ⟨other, List.mem_cons_of_mem row within, shown⟩

/-- From ten columns on a line of printable ASCII fits. -/
theorem visibleWidth_render_le
    {p : Pane} (positive : 0 < p.maxVisible) {theme : Theme}
    (stripped : ∀ style ∈ theme.styles, style.Stripped) {width : Nat} (wide : 10 ≤ width)
    (ascii : ∀ row ∈ p.rows, row.IsAscii) :
    ∀ line ∈ (p.render theme width).2, visibleWidth line ≤ width := by
  intro line member
  by_cases nothing : p.rows = []
  · rw [render, if_pos (by rw [nothing]; rfl)] at member
    dsimp only at member
    split at member
    · cases member
    · rw [List.mem_singleton.mp member]
      exact visibleWidth_apply_le (stripped _ (by simp [Theme.styles])) (shownIn_truncate _ _ _)
        (by decide)
  · obtain ⟨-, window⟩ := render_drawsWindow positive nothing theme width
    obtain ⟨column, rows, place, whole, isColumn, shown, last⟩ := window.drawn
    have most := isColumn.most
    rw [whole] at member
    rcases List.mem_append.mp member with among | behind
    · obtain ⟨row, within, shows⟩ := exists_row_of_mem shown among
      refine visibleWidth_le_of_drawsRow stripped shows (by omega) (ascii row ?_)
      exact List.mem_of_mem_drop (List.mem_of_mem_take within)
    · cases last with
      | all every => cases behind
      | some hidden shows =>
          rw [List.mem_singleton.mp behind]
          exact visibleWidth_le_of_drawsPlace stripped shows

end Pane

end Viewer

end Keychart
