import Keychart.Proofs.Text.Truncated
import Keychart.Proofs.Viewer.ControlCharacters
import Keychart.Viewer.QueryLine

/-!
# The line of the query

The window is a part of the text around the cursor, and with the place of the cursor
it has at most as many characters as there is room.  It is cut by characters, but
measured by columns: so the line is as wide as asked exactly if what is shown takes
no more columns than the room, and does not draw the filling to itself.  Characters
of one column always fit.
-/

namespace Keychart.Viewer

private theorem NoControl.ne {text : Text} (noControl : NoControl text) {c control : Char}
    (member : c ∈ text) (isControl : Unicode.isControl control = true) : c ≠ control :=
  ne_of_not_isControl (noControl c member) isControl

theorem NoControl.measured {text : Text} (noControl : NoControl text) :
    Text.measured text = text :=
  Text.measured_eq_self fun _ member => ⟨noControl.ne member rfl, noControl.ne member rfl⟩

theorem NoControl.measured_append {front : Text} (noControl : NoControl front) (back : Text) :
    Text.measured (front ++ back) = front ++ Text.measured back := by
  rw [Text.measured_append_of_plain fun _ member => noControl.ne member rfl,
    noControl.measured]

namespace Query

private theorem cursor_le_length (q : Query) : q.cursor ≤ q.value.length := by
  rw [value, List.length_append]
  exact Nat.le_add_right _ _

/-- Whether a part of the text, with a place in it, is a window on the text: a slice of
it around the cursor that leaves room for the cursor behind the end. -/
structure IsWindow (q : Query) (room : Nat) (part : Text) (place : Nat) : Prop where
  isSlice : part = (q.value.drop (q.cursor - place)).take part.length
  place_le : place ≤ q.cursor
  inside : place ≤ part.length
  atEnd : place = part.length ↔ q.cursor = q.value.length
  fits : part.length ≤ room
  leavesRoom : q.cursor = q.value.length → part.length < room

/-- A slice that begins in front of the cursor is a window if it goes on behind the
cursor, or to the end of the text where the cursor stands there. -/
theorem isWindow_slice
    {q : Query} {room start span : Nat} (begins : start ≤ q.cursor)
    (within : q.cursor < q.value.length → q.cursor < start + span ∧ span ≤ room)
    (ends : q.cursor = q.value.length →
      q.value.length ≤ start + span ∧ q.value.length < start + room) :
    IsWindow q room ((q.value.drop start).take span) (q.cursor - start) := by
  have bound := q.cursor_le_length
  have length :
      ((q.value.drop start).take span).length = min span (q.value.length - start) := by
    rw [List.length_take, List.length_drop]
  have back : q.cursor - (q.cursor - start) = start := Nat.sub_sub_self begins
  refine ⟨?_, Nat.sub_le _ _, ?_, ?_, ?_, ?_⟩
  · rw [back, length, ← List.length_drop, ← List.take_eq_take_min]
  all_goals rw [length]; omega

/-- With room, the query has a window. -/
theorem isWindow_window (q : Query) {room : Nat} (positive : 0 < room) :
    IsWindow q room (q.window room).1 (q.window room).2 := by
  have bound := q.cursor_le_length
  rw [window]
  dsimp only
  split
  · have whole := @isWindow_slice q room 0 q.value.length
      (Nat.zero_le _) (by omega) (by omega)
    rwa [List.drop_zero, List.take_length] at whole
  · next full =>
      generalize spanned : (if q.cursor = q.value.length then room - 1 else room) = span
      have spans : q.cursor = q.value.length ∧ span = room - 1 ∨
          q.cursor ≠ q.value.length ∧ span = room := by
        rw [← spanned]
        split <;> simp [*]
      split
      · have front := @isWindow_slice q room 0 span (Nat.zero_le _) (by omega) (by omega)
        rwa [List.drop_zero] at front
      · split
        · exact isWindow_slice (by omega) (by omega) (by omega)
        · exact isWindow_slice (by omega) (by omega) (by omega)

/-- The window cuts the text into what is in front of it, itself and what is behind. -/
theorem IsWindow.exists_slice
    {q : Query} {room place : Nat} {part : Text} (window : IsWindow q room part place) :
    ∃ front back, q.value = front ++ part ++ back ∧ front.length + place = q.cursor := by
  have bound := q.cursor_le_length
  refine ⟨q.value.take (q.cursor - place), (q.value.drop (q.cursor - place)).drop part.length,
    ?_, ?_⟩
  · have spelled := List.take_append_drop part.length (q.value.drop (q.cursor - place))
    rw [← window.isSlice] at spelled
    rw [List.append_assoc, spelled, List.take_append_drop]
  · have placeLe := window.place_le
    rw [List.length_take]
    omega

private theorem IsWindow.head?_drop
    {q : Query} {room place : Nat} {part : Text} (window : IsWindow q room part place) :
    (part.drop place).head? = q.value[q.cursor]? := by
  obtain ⟨front, back, whole, begins⟩ := window.exists_slice
  rw [List.head?_drop]
  rcases Nat.lt_or_eq_of_le window.inside with inside | atEnd
  · rw [whole, ← begins, List.append_assoc, List.getElem?_append_right (Nat.le_add_right _ _),
      Nat.add_sub_cancel_left, List.getElem?_append_left inside]
  · have ended := window.atEnd.mp atEnd
    rw [List.getElem?_eq_none (Nat.le_of_eq atEnd.symm),
      List.getElem?_eq_none (Nat.le_of_eq ended.symm)]

/-- For each text, each place of the cursor in it and each room, the window is a part of
the text that holds the cursor: behind its place in the window follows the character that
the cursor is on, or nothing where the text ends.  There one place of the room is left. -/
theorem window_goes_on_at_cursor
    {value : Text} {cursor room : Nat} (within : cursor ≤ value.length) (positive : 0 < room) :
    (∃ q : Query, q.value = value ∧ q.cursor = cursor) ∧
      ∀ q : Query, q.value = value → q.cursor = cursor →
        ∃ part place, q.window room = (part, place) ∧
          (∃ front back, value = front ++ part ++ back ∧ front.length + place = cursor) ∧
          place ≤ part.length ∧
          (part.drop place = [] ↔ cursor = value.length) ∧
          (part.drop place).head? = value[cursor]? ∧
          part.length ≤ room ∧ (cursor = value.length → part.length ≤ room - 1) := by
  refine ⟨?_, ?_⟩
  · refine ⟨{ before := value.take cursor, after := value.drop cursor }, ?_, ?_⟩
    · exact List.take_append_drop cursor value
    · exact List.length_take_of_le within
  · intro q sameValue sameCursor
    subst sameValue sameCursor
    have window := q.isWindow_window positive
    have atEnd : (q.window room).1.drop (q.window room).2 = [] ↔ q.cursor = q.value.length := by
      rw [List.drop_eq_nil_iff, ← window.atEnd]
      have inside := window.inside
      omega
    refine ⟨_, _, rfl, window.exists_slice, window.inside, atEnd, window.head?_drop,
      window.fits, ?_⟩
    intro ended
    exact Nat.le_sub_one_of_lt (window.leavesRoom ended)

/-- The cursor in front of the last three of ten characters, in an odd room. -/
theorem window_goes_on_at_cursor_late :
    7 ≤ (Text.ofString "abcdefghij").length ∧ 0 < 5 ∧
      ∃ part place,
        ({ before := Text.ofString "abcdefg", after := Text.ofString "hij" } : Query).window 5 =
          (part, place) ∧
        place ≤ part.length ∧ (part.drop place).head? = some 'h' := by
  have within : 7 ≤ (Text.ofString "abcdefghij").length := by decide
  obtain ⟨-, each⟩ := @window_goes_on_at_cursor (Text.ofString "abcdefghij") 7 5 within (by decide)
  obtain ⟨part, place, shown, -, inside, -, under, -⟩ :=
    each { before := Text.ofString "abcdefg", after := Text.ofString "hij" } (by decide) (by decide)
  exact ⟨within, by decide, part, place, shown, inside, under⟩

/-- What is shown of the query: its window, and a space where the cursor stands behind
the end. -/
def shown (q : Query) (room : Nat) : Text :=
  (q.window room).1 ++ if (q.window room).2 < (q.window room).1.length then [] else [' ']

section Shown

variable {q : Query} {room : Nat}

private theorem mem_shown {c : Char} (positive : 0 < room) (member : c ∈ q.shown room) :
    c ∈ q.value ∨ c = ' ' := by
  rcases List.mem_append.mp member with member | member
  · rw [(q.isWindow_window positive).isSlice] at member
    exact .inl (List.mem_of_mem_drop (List.mem_of_mem_take member))
  · split at member
    · cases member
    · exact .inr (List.mem_singleton.mp member)

private theorem noControl_shown (positive : 0 < room) (noControl : NoControl q.value) :
    NoControl (q.shown room) := by
  intro c member
  rcases mem_shown positive member with inside | rfl
  · exact noControl c inside
  · decide

/-- What is shown has no more characters than there is room. -/
theorem length_shown_le (positive : 0 < room) : (q.shown room).length ≤ room := by
  have window := q.isWindow_window positive
  have fits := window.fits
  have leavesRoom := window.leavesRoom
  have inside := window.inside
  have atEnd := window.atEnd
  rw [shown, List.length_append]
  split
  · simpa using fits
  · simp only [List.length_singleton]
    omega

theorem shown_ne_nil (q : Query) (room : Nat) : q.shown room ≠ [] := by
  intro empty
  rw [shown, List.append_eq_nil_iff] at empty
  obtain ⟨nothing, noSpace⟩ := empty
  rw [nothing] at noSpace
  exact absurd noSpace (List.cons_ne_nil _ _)

private theorem clustersWidth_shown_le
    (positive : 0 < room) (narrow : ∀ c ∈ q.value, Unicode.columns c ≤ 1) :
    Text.clustersWidth (q.shown room) ≤ room := by
  have all : ∀ c ∈ q.shown room, Unicode.columns c ≤ 1 := by
    intro c member
    rcases mem_shown positive member with inside | rfl
    · exact narrow c inside
    · exact Nat.le_of_eq Text.columns_space
  exact (Text.clustersWidth_le_length all).trans (length_shown_le positive)

end Shown

/-! ## The line -/

private theorem isSequence_cursorMark : Text.IsSequence cursorMark := by
  have noControl : NoControl (Text.ofString "apekey:c") := by decide
  exact .bell _ fun _ member => ⟨noControl.ne member rfl, noControl.ne member rfl⟩

private theorem measured_reversed
    {cluster : Text} (noControl : NoControl cluster) (rest : Text) :
    Text.measured (reversed cluster ++ rest) = cluster ++ Text.measured rest := by
  have on : Text.IsSequence (Text.ofString "\x1b[7m") :=
    .control ['7'] 'm' (List.forall_mem_singleton.mpr rfl) rfl
  have off : Text.IsSequence (Text.ofString "\x1b[27m") :=
    .control ['2', '7'] 'm'
      (List.forall_mem_cons.mpr ⟨rfl, List.forall_mem_singleton.mpr rfl⟩) rfl
  rw [reversed, List.append_assoc, List.append_assoc, Text.measured_sequence on,
    noControl.measured_append, Text.measured_sequence off]

/-- The marks of the cursor take no columns, and behind the end it is a space. -/
theorem measured_withCursor
    (focused : Bool) {text : Text} (noControl : NoControl text) (place : Nat) :
    Text.measured (withCursor focused text place) =
      text ++ if place < text.length then [] else [' '] := by
  have frontPlain : NoControl (text.take place) :=
    noControl.sublist (List.take_sublist place text)
  have restPlain : NoControl (text.drop place) :=
    noControl.sublist (List.drop_sublist place text)
  have mark (rest : Text) :
      Text.measured ((if focused then cursorMark else []) ++ rest) = Text.measured rest := by
    cases focused with
    | false => rfl
    | true => exact Text.measured_sequence isSequence_cursorMark rest
  simp only [withCursor, List.append_assoc]
  rw [frontPlain.measured_append, mark]
  cases first : (Text.clusters (text.drop place)).head? with
  | none =>
      have empty : text.drop place = [] := by
        have spelled := Text.flatten_clusters (text.drop place)
        rw [List.head?_eq_none_iff.mp first] at spelled
        exact spelled.symm
      have past := List.drop_eq_nil_iff.mp empty
      rw [Option.getD_none, measured_reversed (by decide), empty, if_neg (by omega),
        List.take_of_length_le past]
      rfl
  | some under =>
      have parts := Text.head_clusters_append_drop first
      have underPlain : NoControl under := by
        rw [← parts, noControl_append_iff] at restPlain
        exact restPlain.1
      have behindPlain : NoControl ((text.drop place).drop under.length) :=
        restPlain.sublist (List.drop_sublist _ _)
      have inside : place < text.length := by
        by_contra past
        rw [List.drop_of_length_le (Nat.le_of_not_lt past)] at first
        cases first
      rw [Option.getD_some, measured_reversed underPlain, behindPlain.measured, parts,
        List.take_append_drop, if_pos inside, List.append_nil]

private theorem measured_window
    {q : Query} {room : Nat} (positive : 0 < room) (noControl : NoControl q.value) :
    Text.measured (withCursor q.focused (q.window room).1 (q.window room).2) =
      q.shown room := by
  have partPlain : NoControl (q.window room).1 := by
    have plain := noControl_shown positive noControl
    rw [shown, noControl_append_iff] at plain
    exact plain.1
  exact measured_withCursor q.focused partPlain _

/-- The line is as wide as the prompt and the filled window behind it, if the first
shown character does not join the prompt. -/
theorem visibleWidth_render
    {q : Query} {prompt : Text} {style : Text → Text} {width room : Nat}
    (behind : width = Text.visibleWidth prompt + room) (positive : 0 < room)
    (noControl : NoControl q.value)
    (shows : ∀ rest,
      Text.measured (style prompt ++ rest) = Text.measured prompt ++ Text.measured rest)
    (opens : Text.Opens (Text.lastState (Text.measured prompt)) (q.shown room)) :
    Text.visibleWidth (q.render prompt style width) =
      Text.visibleWidth prompt +
        Text.visibleWidth
          (Text.fill room (withCursor q.focused (q.window room).1 (q.window room).2)) := by
  have isRoom : width - Text.visibleWidth prompt = room := by omega
  have promptShown : Text.measured (style prompt) = Text.measured prompt := by
    have alone := shows []
    have nothing : Text.measured [] = [] := rfl
    rwa [nothing, List.append_nil, List.append_nil] at alone
  have promptWidth : Text.visibleWidth (style prompt) = Text.visibleWidth prompt := by
    rw [Text.visibleWidth_eq_clustersWidth, promptShown, ← Text.visibleWidth_eq_clustersWidth]
  have apart :
      Text.Apart (style prompt)
        (Text.fill room (withCursor q.focused (q.window room).1 (q.window room).2)) := by
    rw [Text.Apart, shows, promptShown, Text.fill, Text.measured_append_spaces,
      measured_window positive noControl]
    exact (opens.append (q.shown_ne_nil room) _).clusters_append
  rw [render, isRoom]
  simp only [Nat.ne_of_gt positive, if_false]
  rw [Text.visibleWidth_append apart, promptWidth]

/-- The line of the query is as wide as asked exactly if what is shown takes no more
columns than there are behind the prompt, and leaves none or does not end in a
character that draws the filling to itself.  Where each character of the query takes
at most one column, it takes no more. -/
theorem visibleWidth_render_eq_iff
    {q : Query} {prompt : Text} {style : Text → Text} {width room : Nat}
    (noControl : NoControl q.value)
    (behind : width = Text.visibleWidth prompt + room) (positive : 0 < room)
    (shows : ∀ rest,
      Text.measured (style prompt ++ rest) = Text.measured prompt ++ Text.measured rest)
    (opens : Text.Opens (Text.lastState (Text.measured prompt)) (q.shown room)) :
    (Text.visibleWidth (q.render prompt style width) = width ↔
        Text.clustersWidth (q.shown room) ≤ room ∧
          (Text.clustersWidth (q.shown room) = room ∨ ¬ Text.EndsPrepended (q.shown room))) ∧
      ((∀ c ∈ q.value, Unicode.columns c ≤ 1) → Text.clustersWidth (q.shown room) ≤ room) := by
  refine ⟨?_, clustersWidth_shown_le positive⟩
  have body := measured_window positive noControl
  have bodyWidth :
      Text.visibleWidth (withCursor q.focused (q.window room).1 (q.window room).2) =
        Text.clustersWidth (q.shown room) := by
    rw [Text.visibleWidth_eq_clustersWidth, body]
  rw [visibleWidth_render behind positive noControl shows opens, behind,
    Nat.add_left_cancel_iff, Text.visibleWidth_fill_eq_iff_le, bodyWidth, body]

/-- Wide characters, and the cursor in front of one of them. -/
theorem visibleWidth_render_eq_iff_wide :
    Text.visibleWidth
      (({ before := ['日'], after := ['本', 'a'], focused := true } : Query).render
        ['>', ' '] id 7) = 7 := by
  have promptPlain : NoControl ['>', ' '] := by decide
  have shows (rest : Text) :
      Text.measured (id ['>', ' '] ++ rest) =
        Text.measured ['>', ' '] ++ Text.measured rest :=
    Text.measured_append_of_plain (fun _ member => promptPlain.ne member rfl) rest
  have whole :=
    @visibleWidth_render_eq_iff { before := ['日'], after := ['本', 'a'], focused := true }
      ['>', ' '] id 7 5 (by decide) (by decide) (by decide) shows (by decide +kernel)
  exact whole.1.mpr ⟨by decide +kernel, .inl (by decide +kernel)⟩

/-- The window counts characters, so wide ones go past the right edge. -/
theorem visibleWidth_render_ne_wide :
    ¬ Text.visibleWidth
      (({ before := ['日', '本', '日', '本'] } : Query).render ['>', ' '] id 8) = 8 := by
  decide +kernel

end Query

end Keychart.Viewer
