import Keychart.Proofs.Markup.Descriptions
import Keychart.Proofs.Search.Visible
import Keychart.Proofs.Text.Highlighted
import Keychart.Viewer.Pane
import Mathlib.Data.List.Chain

/-!
# Highlighted descriptions

A row shows a description on one line: each run of line ends is one space, and
white space at the ends is left out.  The positions of a match are places in the
description as it is stored, and the row highlights what stands there on the line.

So the line is taken with the place that each of its characters has in the
description.  The two agree up to a position exactly if nothing in front of it was
left out.
-/

namespace Keychart.Viewer.Pane

open Unicode

/-- The characters of a text without its line ends, each with its place in the text,
given the place of the first.  A space for a run of line ends has the place of the
last of them. -/
def placedFrom : Nat → Text → List (Char × Nat)
  | _, [] => []
  | i, c :: text =>
    if isLineEnd c then
      if text.head?.any isLineEnd then placedFrom (i + 1) text
      else (' ', i) :: placedFrom (i + 1) text
    else (c, i) :: placedFrom (i + 1) text

def isBlankEntry (entry : Char × Nat) : Bool := isBlank entry.1

def placed (text : Text) : List (Char × Nat) :=
  ((placedFrom 0 text).dropWhile isBlankEntry).rdropWhile isBlankEntry

theorem isLineEnd_iff {c : Char} : isLineEnd c = true ↔ c = '\r' ∨ c = '\n' := by
  rw [isLineEnd, Bool.or_eq_true, decide_eq_true_eq, decide_eq_true_eq]

private theorem isBlank_of_isLineEnd {c : Char} (ends : isLineEnd c = true) :
    isBlank c = true := by
  rcases isLineEnd_iff.mp ends with rfl | rfl
  · decide
  · decide

private theorem map_fst_placedFrom (i : Nat) (text : Text) :
    (placedFrom i text).map Prod.fst = joinLines text := by
  induction text generalizing i with
  | nil => rfl
  | cons c text inductionHypothesis =>
      rw [placedFrom, joinLines, ← inductionHypothesis (i + 1)]
      split
      · split
        · rfl
        · rfl
      · rfl

private theorem map_fst_placed (text : Text) :
    (placed text).map Prod.fst = onOneLine text := by
  rw [onOneLine, Text.trim, Text.trimEnd, Text.trimBack, Text.trimStart,
    Text.trimFront, ← map_fst_placedFrom 0 text, List.dropWhile_map,
    ← List.map_reverse, List.dropWhile_map, ← List.map_reverse]
  rfl

section FirstCharacter

variable {i : Nat} {x : Char} {text : Text}

/-- Whether a character in front of a text is left out: both are line ends there. -/
def Merges (x : Char) (text : Text) : Prop :=
  isLineEnd x = true ∧ text.head?.any isLineEnd = true

private theorem placedFrom_cons_of_merges (merges : Merges x text) :
    placedFrom i (x :: text) = placedFrom (i + 1) text := by
  rw [placedFrom, if_pos merges.1, if_pos merges.2]

private theorem placedFrom_cons_of_not_merges (stays : ¬ Merges x text) :
    placedFrom i (x :: text) =
      (if isLineEnd x then ' ' else x, i) :: placedFrom (i + 1) text := by
  rw [placedFrom]
  split
  next ends =>
    rw [if_neg fun more => stays ⟨ends, more⟩]
  next => rfl

private theorem placedFrom_cons_of_inside (inside : isLineEnd x = false) :
    placedFrom i (x :: text) = (x, i) :: placedFrom (i + 1) text := by
  rw [placedFrom, if_neg (Bool.eq_false_iff.mp inside)]

end FirstCharacter

/-- What is left out moves the rest forward, never back. -/
theorem le_of_getElem?_placedFrom
    {i p q : Nat} {text : Text} {c : Char}
    (found : (placedFrom i text)[p]? = some (c, q)) :
    i + p ≤ q := by
  induction text generalizing i p with
  | nil => cases found
  | cons x text inductionHypothesis =>
      by_cases merges : Merges x text
      · rw [placedFrom_cons_of_merges merges] at found
        have later := inductionHypothesis found
        omega
      · rw [placedFrom_cons_of_not_merges merges] at found
        cases p with
        | zero =>
            cases found
            exact Nat.le_refl _
        | succ p =>
            have foundLater : (placedFrom (i + 1) text)[p]? = some (c, q) := found
            have later := inductionHypothesis foundLater
            omega

/-- The line begins with white space where the text does. -/
theorem head_placedFrom_isBlank (i : Nat) (text : Text) :
    (placedFrom i text).head?.any isBlankEntry =
      text.head?.any isBlank := by
  induction text generalizing i with
  | nil => rfl
  | cons x text inductionHypothesis =>
      by_cases merges : Merges x text
      · rw [placedFrom_cons_of_merges merges, inductionHypothesis]
        have blank : (x :: text).head?.any isBlank = true :=
          isBlank_of_isLineEnd merges.1
        rw [blank]
        cases text with
        | nil => cases merges.2
        | cons y text => exact isBlank_of_isLineEnd merges.2
      · rw [placedFrom_cons_of_not_merges merges]
        change isBlank (if isLineEnd x then ' ' else x) = isBlank x
        split
        next ends =>
          rw [isBlank_of_isLineEnd ends]
          rfl
        next => rfl

private theorem mem_placedFrom
    {i q : Nat} {text : Text} {c : Char} (found : text[q]? = some c)
    (inside : isLineEnd c = false) :
    (c, i + q) ∈ placedFrom i text := by
  induction text generalizing i q with
  | nil => cases found
  | cons x text inductionHypothesis =>
      cases q with
      | zero =>
          obtain rfl : x = c := Option.some.inj found
          rw [placedFrom_cons_of_inside inside]
          exact List.mem_cons_self
      | succ q =>
          have later : (c, i + 1 + q) ∈ placedFrom (i + 1) text :=
            inductionHypothesis found
          rw [Nat.add_right_comm] at later
          by_cases merges : Merges x text
          · rw [placedFrom_cons_of_merges merges]
            exact later
          · rw [placedFrom_cons_of_not_merges merges]
            exact List.mem_cons_of_mem _ later

/-- Two neighbours that are not both line ends. -/
def Apart (a b : Char) : Prop := ¬ (isLineEnd a = true ∧ isLineEnd b = true)

instance (a b : Char) : Decidable (Apart a b) :=
  inferInstanceAs (Decidable (¬ _))

/-- Whether the line shows a character at the place that it has in the text: the
text begins with no white space, no two line ends stand together up to the
character, and it is no line end itself. -/
structure InPlace (text : Text) (p : Nat) : Prop where
  front : text.head?.any isBlank = false
  lines : (text.take (p + 1)).IsChain Apart
  inside : text[p]?.any isLineEnd = false

instance (text : Text) (p : Nat) : Decidable (InPlace text p) :=
  decidable_of_iff
    (text.head?.any isBlank = false ∧ (text.take (p + 1)).IsChain Apart ∧
      text[p]?.any isLineEnd = false)
    ⟨fun ⟨front, lines, inside⟩ => ⟨front, lines, inside⟩,
      fun ⟨front, lines, inside⟩ => ⟨front, lines, inside⟩⟩

theorem isChain_take_cons_iff {x : Char} {text : Text} {p : Nat} :
    ((x :: text).take (p + 2)).IsChain Apart ↔
      ¬ Merges x text ∧ (text.take (p + 1)).IsChain Apart := by
  rw [List.take_succ_cons, List.isChain_cons, List.head?_take]
  cases text with
  | nil => simp [Merges]
  | cons y text => simp [Apart, Merges]

/-- Where no two line ends stand together up to a place, the line has one character
for each of the text up to there, and goes on with the rest of the text. -/
theorem exists_placedFrom_eq_append
    (i : Nat) {p : Nat} {text : Text} (within : p ≤ text.length)
    (lines : (text.take (p + 1)).IsChain Apart) :
    ∃ front, front.length = p ∧
      placedFrom i text = front ++ placedFrom (i + p) (text.drop p) := by
  induction p generalizing i text with
  | zero => exact ⟨[], rfl, rfl⟩
  | succ p inductionHypothesis =>
      cases text with
      | nil => cases within
      | cons x text =>
          obtain ⟨stays, linesRest⟩ := isChain_take_cons_iff.mp lines
          obtain ⟨front, length, split⟩ :=
            inductionHypothesis (i + 1) (Nat.le_of_succ_le_succ within) linesRest
          rw [Nat.add_right_comm] at split
          rw [placedFrom_cons_of_not_merges stays, List.drop_succ_cons, split]
          exact ⟨_ :: front, congrArg Nat.succ length, rfl⟩

/-- A character that the line shows at its place has nothing left out in front. -/
theorem lines_of_getElem?_placedFrom
    {i p : Nat} {text : Text} {c : Char} (here : text[p]? = some c)
    (found : (placedFrom i text)[p]? = some (c, i + p)) :
    (text.take (p + 1)).IsChain Apart ∧ isLineEnd c = false := by
  induction text generalizing i p with
  | nil => cases here
  | cons x text inductionHypothesis =>
      by_cases merges : Merges x text
      · rw [placedFrom_cons_of_merges merges] at found
        have later := le_of_getElem?_placedFrom found
        omega
      · rw [placedFrom_cons_of_not_merges merges] at found
        cases p with
        | zero =>
            obtain rfl : x = c := Option.some.inj here
            have shown : (if isLineEnd x then ' ' else x) = x :=
              congrArg Prod.fst (Option.some.inj found)
            refine ⟨List.IsChain.singleton x, ?_⟩
            cases ends : isLineEnd x with
            | false => rfl
            | true =>
                rw [if_pos ends] at shown
                rw [← shown] at ends
                cases ends
        | succ p =>
            have foundLater : (placedFrom (i + 1) text)[p]? = some (c, i + 1 + p) := by
              rw [Nat.add_right_comm]
              exact found
            obtain ⟨lines, inside⟩ := inductionHypothesis here foundLater
            exact ⟨isChain_take_cons_iff.mpr ⟨merges, lines⟩, inside⟩

theorem dropWhile_placedFrom_eq_self_iff (i : Nat) (text : Text) :
    (placedFrom i text).dropWhile isBlankEntry = placedFrom i text ↔
      text.head?.any isBlank = false := by
  rw [← head_placedFrom_isBlank i text, List.dropWhile_eq_self_iff]
  cases placedFrom i text with
  | nil => simp
  | cons entry entries => simp

section Dropped

variable {α : Type} {drops : α → Bool} {items : List α} {p r : Nat} {x y : α}

/-- What is kept behind a dropped front stood as far behind that front. -/
theorem exists_getElem?_of_dropWhile
    (found : (items.dropWhile drops)[p]? = some x) :
    ∃ k, items[k + p]? = some x ∧ (k = 0 → items.dropWhile drops = items) := by
  have parts : items.takeWhile drops ++ items.dropWhile drops = items :=
    List.takeWhile_append_dropWhile
  refine ⟨(items.takeWhile drops).length, ?_, ?_⟩
  · have shifted :
        (items.takeWhile drops ++ items.dropWhile drops)[
          (items.takeWhile drops).length + p]? = some x := by
      rw [List.getElem?_append_right (Nat.le_add_right _ _), Nat.add_sub_cancel_left,
        found]
    rw [parts] at shifted
    exact shifted
  · intro none
    rw [List.length_eq_zero_iff.mp none] at parts
    exact parts

private theorem getElem?_of_rdropWhile
    (found : (items.rdropWhile drops)[p]? = some x) :
    items[p]? = some x := by
  obtain ⟨back, parts⟩ := List.rdropWhile_prefix drops items
  rw [← parts, List.getElem?_append_left (List.getElem?_eq_some_iff.mp found).1, found]

/-- What is kept at the back keeps all that stands in front of it. -/
theorem getElem?_rdropWhile
    (found : items[p]? = some x) (later : items[r]? = some y)
    (kept : drops y = false) (le : p ≤ r) :
    (items.rdropWhile drops)[p]? = some x := by
  induction items using List.reverseRecOn with
  | nil => cases found
  | append_singleton items z inductionHypothesis =>
      cases dropped : drops z with
      | true =>
          have inFront : r < items.length := by
            have within := (List.getElem?_eq_some_iff.mp later).1
            have notLast : r ≠ items.length := by
              intro last
              rw [last, List.getElem?_concat_length] at later
              rw [Option.some.inj later, kept] at dropped
              cases dropped
            rw [List.length_append, List.length_singleton] at within
            omega
          rw [List.getElem?_append_left inFront] at later
          rw [List.getElem?_append_left (by omega)] at found
          rw [List.rdropWhile_concat_pos _ _ _ dropped]
          exact inductionHypothesis found later
      | false =>
          have stays : ¬ drops z = true := Bool.eq_false_iff.mp dropped
          rw [List.rdropWhile_concat_neg _ _ _ stays]
          exact found

end Dropped

private theorem inPlace_of_getElem?_placed
    {text : Text} {p : Nat} {c : Char} (here : text[p]? = some c)
    (found : (placed text)[p]? = some (c, p)) :
    InPlace text p := by
  obtain ⟨k, foundAhead, whole⟩ :=
    exists_getElem?_of_dropWhile (getElem?_of_rdropWhile found)
  -- What is left out at the front would show the character ahead of its place.
  have ahead := le_of_getElem?_placedFrom foundAhead
  obtain rfl : k = 0 := by
    omega
  have foundFrom : (placedFrom 0 text)[p]? = some (c, 0 + p) := by
    rw [Nat.zero_add] at foundAhead ⊢
    exact foundAhead
  obtain ⟨lines, inside⟩ := lines_of_getElem?_placedFrom here foundFrom
  refine ⟨(dropWhile_placedFrom_eq_self_iff 0 text).mp (whole rfl), lines, ?_⟩
  rw [here]
  exact inside

private theorem getElem?_placed_of_inPlace
    {text : Text} {p : Nat} {c : Char} (here : text[p]? = some c)
    (followed : ∃ q c, p ≤ q ∧ text[q]? = some c ∧ isBlank c = false)
    (inPlace : InPlace text p) :
    (placed text)[p]? = some (c, p) := by
  have within : p < text.length := (List.getElem?_eq_some_iff.mp here).1
  obtain ⟨front, length, parts⟩ :=
    exists_placedFrom_eq_append 0 (Nat.le_of_lt within) inPlace.lines
  rw [Nat.zero_add] at parts
  have behind : ∀ k, (placedFrom 0 text)[p + k]? =
      (placedFrom p (text.drop p))[k]? := by
    intro k
    rw [parts, List.getElem?_append_right (by omega), length, Nat.add_sub_cancel_left]
  have foundHere : (placedFrom 0 text)[p]? = some (c, p) := by
    have inside := inPlace.inside
    rw [here, Option.any_some] at inside
    have rest : text.drop p = c :: text.drop (p + 1) := by
      rw [List.drop_eq_getElem_cons within, (List.getElem?_eq_some_iff.mp here).2]
    have first := behind 0
    rw [rest, placedFrom_cons_of_inside inside] at first
    exact first
  obtain ⟨q, d, le, later, visible⟩ := followed
  have inside : isLineEnd d = false := by
    cases ends : isLineEnd d with
    | false => rfl
    | true =>
        rw [isBlank_of_isLineEnd ends] at visible
        cases visible
  have laterRest : (text.drop p)[q - p]? = some d := by
    rw [List.getElem?_drop, Nat.add_sub_of_le le]
    exact later
  obtain ⟨k, foundLater⟩ := List.mem_iff_getElem?.mp (mem_placedFrom laterRest inside)
  rw [← behind k] at foundLater
  rw [placed, (dropWhile_placedFrom_eq_self_iff 0 text).mpr inPlace.front]
  exact getElem?_rdropWhile foundHere foundLater visible (Nat.le_add_right p k)

/-- Up to a visible character the line shows at a place what the text has there
exactly if that is in place. -/
theorem getElem?_placed_iff
    {text : Text} {p : Nat} (within : p < text.length)
    (followed : ∃ q c, p ≤ q ∧ text[q]? = some c ∧ isBlank c = false) :
    (placed text)[p]? = text.zipIdx[p]? ↔ InPlace text p := by
  have here : text[p]? = some text[p] := List.getElem?_eq_getElem within
  rw [List.getElem?_zipIdx, here, Option.map_some, Nat.zero_add]
  constructor
  · exact inPlace_of_getElem?_placed here
  · exact getElem?_placed_of_inPlace here followed

private theorem isLineEnd_eq_false_of_oneLine
    {text : Text} (oneLine : Text.OneLine text) {c : Char} (member : c ∈ text) :
    isLineEnd c = false := by
  have inside := oneLine c member
  cases ends : isLineEnd c with
  | false => rfl
  | true =>
      rcases isLineEnd_iff.mp ends with rfl | rfl
      · cases inside
      · cases inside

private theorem isChain_apart_of_oneLine {text : Text} (oneLine : Text.OneLine text) :
    text.IsChain Apart := by
  apply List.Pairwise.isChain
  apply List.pairwise_of_forall_mem_list
  intro a member b _ both
  rw [isLineEnd_eq_false_of_oneLine oneLine member] at both
  cases both.1

/-- Only white space at the front moves the descriptions that a source can hold. -/
theorem inPlace_iff_of_mem_ofSource
    {source : Text} {keybind : Keybind}
    (listed : keybind ∈ (Keymap.ofSource source).keybinds) (p : Nat) :
    InPlace keybind.description p ↔
      keybind.description.head?.any isBlank = false := by
  have oneLine := Keymap.oneLine_description_ofSource listed
  constructor
  · exact InPlace.front
  · intro front
    refine ⟨front, isChain_apart_of_oneLine ?_, ?_⟩
    · exact oneLine.of_subset (List.take_subset _ _)
    · cases found : keybind.description[p]? with
      | none => rfl
      | some c =>
          exact isLineEnd_eq_false_of_oneLine oneLine (List.mem_of_getElem? found)

/-! ## Rows -/

def labelRoom (keysWidth width : Nat) : Nat :=
  width - indent.length - keysWidth - keysGap.length

/-- Whether a row of results has room for its label and does not cut it. -/
structure ShowsLabel
    (theme : Theme) (keysWidth width : Nat) (result : SearchResult) : Prop where
  room : labelRoom keysWidth width ≠ 0
  whole : Text.shorten (labelRoom keysWidth width)
      (renderLabel theme result ++ renderSection theme result) =
    renderLabel theme result ++ renderSection theme result

private theorem renderKeybind_of_showsLabel
    {theme : Theme} {keysWidth width : Nat} {result : SearchResult}
    (fits : ShowsLabel theme keysWidth width result) :
    renderKeybind theme true keysWidth width result =
      indent ++ renderKeys theme result keysWidth ++ keysGap ++
        (renderLabel theme result ++ renderSection theme result) := by
  obtain ⟨room, whole⟩ := fits
  rw [labelRoom] at room whole
  rw [renderKeybind]
  simp only [if_neg room, if_true]
  rw [whole]

/-- The row of a description that matches draws its one line in parts.  The
highlighted ones hold the matched characters of the description if and only if
each of those is in place. -/
theorem highlighted_eq_matched_iff
    {query : Text} {keybinds : List Keybind} {result : SearchResult}
    {positions : List Nat} (kept : result ∈ search query keybinds)
    (described : result.keybind.description ≠ [])
    (matched : result.descriptionPositions = some positions) :
    ∃ parts : List Text.Part,
      (∀ theme keysWidth width, ShowsLabel theme keysWidth width result →
        renderKeybind theme true keysWidth width result =
          indent ++ renderKeys theme result keysWidth ++ keysGap ++
            (theme.description.apply
                (parts.flatMap (Text.Part.draw theme.highlight.apply)) ++
              renderSection theme result)) ∧
      parts.flatMap Text.Part.characters = placed result.keybind.description ∧
      (Text.Part.marked parts =
          positions.filterMap (fun p => result.keybind.description.zipIdx[p]?) ↔
        ∀ p ∈ positions, InPlace result.keybind.description p) := by
  have marks := Search.marks_of_mem_search kept matched
  obtain ⟨parts, drawn, characters, picked⟩ :=
    Text.exists_parts_of_highlight marks.increasing (placed result.keybind.description)
  refine ⟨parts, ?_, characters, ?_⟩
  · intro theme keysWidth width fits
    have shown : ¬ result.keybind.description.isEmpty = true := by
      rw [List.isEmpty_iff]
      exact described
    have label : result.keybind.label = result.keybind.description := if_neg shown
    have line : renderLabel theme result =
        theme.description.apply
          (parts.flatMap (Text.Part.draw theme.highlight.apply)) := by
      rw [renderLabel, if_neg shown, matched, label, ← map_fst_placed]
      exact drawn theme.description.apply theme.highlight.apply
    rw [renderKeybind_of_showsLabel fits, line]
  · have found : ∀ p ∈ positions, (result.keybind.description.zipIdx[p]?).isSome := by
      intro p member
      rw [List.getElem?_zipIdx, List.getElem?_eq_getElem (marks.within p member)]
      rfl
    rw [picked, Text.filterMap_eq_filterMap_iff found]
    apply forall₂_congr
    intro p member
    exact getElem?_placed_iff (marks.within p member) (marks.followed p member)

def brackets : Theme := { highlight := ⟨['<'], ['>']⟩ }

/-- A description in two lines, and what a query finds in the first. -/
def windowResult : SearchResult where
  keybind :=
    { keys := Text.ofString "M-k"
      description := Text.ofString "Kill the window\n\nat once" }
  score := some ⟨2867892242709531648⟩
  descriptionPositions := some [0, 9]

private theorem mem_search_windowResult :
    windowResult ∈ search (Text.ofString " kw") [windowResult.keybind] := by
  have asked : Text.trim (Text.ofString " kw") ≠ [] := by
    decide
  have found :
      Search.resultFor (Text.trim (Text.ofString " kw")) 0 windowResult.keybind =
        some windowResult := by
    decide
  exact (Search.mem_search_iff_resultFor asked).mpr ⟨0, _, rfl, found⟩

/-- The two line ends behind the last match are one space on the line and move
nothing that is highlighted. -/
theorem highlighted_eq_matched_iff_window :
    windowResult ∈ search (Text.ofString " kw") [windowResult.keybind] ∧
      windowResult.keybind.description ≠ [] ∧
      windowResult.descriptionPositions = some [0, 9] ∧
      ShowsLabel brackets 3 40 windowResult ∧
      ∃ parts : List Text.Part,
        renderKeybind brackets true 3 40 windowResult =
          indent ++ renderKeys brackets windowResult 3 ++ keysGap ++
            (brackets.description.apply
                (parts.flatMap (Text.Part.draw brackets.highlight.apply)) ++
              renderSection brackets windowResult) ∧
        parts.flatMap Text.Part.characters = placed windowResult.keybind.description ∧
        Text.Part.marked parts = [('K', 0), ('w', 9)] := by
  have described : windowResult.keybind.description ≠ [] := by
    decide
  have fits : ShowsLabel brackets 3 40 windowResult := by
    refine ⟨?_, ?_⟩
    · decide
    · decide
  obtain ⟨parts, drawn, characters, same⟩ :=
    highlighted_eq_matched_iff mem_search_windowResult described rfl
  have inPlace : ∀ p ∈ [0, 9], InPlace windowResult.keybind.description p := by
    decide
  exact ⟨mem_search_windowResult, described, rfl, fits, parts,
    drawn brackets 3 40 fits, characters, same.mpr inPlace⟩

def killSource : Text :=
  Text.ofString "-- # T\n--\u00a0Kill\n  , (\"M-x\", kill)\n-- #\n"

def killResult : SearchResult where
  keybind :=
    { keys := Text.ofString "M-x"
      description := Text.ofString "\u00a0Kill"
      action := Text.ofString "kill" }
  score := some ⟨5469171387478730752⟩
  descriptionPositions := some [1, 2, 3, 4]

/-- The blank in front is counted by the match and not shown, so the highlight
falls behind the matched characters. -/
theorem highlighted_ne_matched_blank :
    killResult ∈
        search (Text.ofString "kill") (Keymap.ofSource killSource).keybinds ∧
      killResult.descriptionPositions = some [1, 2, 3, 4] ∧
      [1, 2, 3, 4].filterMap (fun p => killResult.keybind.description[p]?) =
        Text.ofString "Kill" ∧
      ShowsLabel brackets 3 40 killResult ∧
      renderKeybind brackets true 3 40 killResult = Text.ofString "  M-x  K<ill>" := by
  have asked : Text.trim (Text.ofString "kill") ≠ [] := by
    decide
  have listed : (Keymap.ofSource killSource).keybinds[0]? = some killResult.keybind := by
    decide
  have found :
      Search.resultFor (Text.trim (Text.ofString "kill")) 0 killResult.keybind =
        some killResult := by
    decide
  refine ⟨?_, rfl, rfl, ⟨?_, ?_⟩, ?_⟩
  · exact (Search.mem_search_iff_resultFor asked).mpr ⟨0, _, listed, found⟩
  · decide
  · decide
  · decide

end Keychart.Viewer.Pane
