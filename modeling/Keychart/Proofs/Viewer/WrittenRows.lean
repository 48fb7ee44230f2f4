import Keychart.Proofs.Viewer.Display

/-!
# Rows written from the corner

Rows that are written on an empty screen, one below the other, stand on it from
the top.  Once there are more of them than the screen has, the last ones stay.
The cursor is behind the last character of the last row.
-/

namespace Keychart.Viewer.Display

open Unicode

def cellAt (row : Text) (column : Nat) : Char := row.getD column ' '

/-- How many of some rows have left the screen. -/
def gone (size : Size) (rows : List Text) : Nat := rows.length - size.rows

def ofRows (size : Size) (rows : List Text) : Display where
  size := size
  cell := fun row column => cellAt (rows[gone size rows + row]?.getD []) column
  row := rows.length - 1 - gone size rows
  column := min (rows.getLast?.getD []).length (size.columns - 1)
  waits := (rows.getLast?.getD []).length = size.columns

section Rows

variable {size : Size} {above : List Text} {line : Text}

theorem ofRows_blank (size : Size) (rows : 0 < size.rows) (columns : 0 < size.columns) :
    ofRows size [[]] = blank size := by
  have top : gone size [[]] = 0 := by
    simp only [gone, List.length_singleton]
    omega
  ext row column
  · rfl
  · cases row <;> simp [ofRows, blank, top, cellAt]
  · simp [ofRows, blank, top]
  · simp [ofRows, blank]
  · have different : 0 ≠ size.columns := by omega
    simp [ofRows, blank, different]
  · rfl

theorem cellAt_concat (line : Text) (c : Char) (column : Nat) :
    cellAt (line ++ [c]) column = if column = line.length then c else cellAt line column := by
  simp only [cellAt, List.getD_eq_getElem?_getD]
  split
  · next behind => rw [behind, List.getElem?_concat_length, Option.getD_some]
  · next other =>
      by_cases inside : column < line.length
      · rw [List.getElem?_append_left inside]
      · rw [List.getElem?_eq_none (by rw [List.length_append, List.length_singleton]; omega),
          List.getElem?_eq_none (by omega)]

theorem cellAt_take (line : Text) (n column : Nat) :
    cellAt (line.take n) column = if column < n then cellAt line column else ' ' := by
  simp only [cellAt, List.getD_eq_getElem?_getD, List.getElem?_take]
  split <;> rfl

theorem cellAt_of_length_le {row : Text} {column : Nat} (behind : row.length ≤ column) :
    cellAt row column = ' ' := by
  rw [cellAt, List.getD_eq_getElem?_getD, List.getElem?_eq_none behind, Option.getD_none]

theorem length_spaces (n : Nat) : (Text.spaces n).length = n := List.length_replicate

private theorem cellAt_spaces (n column : Nat) : cellAt (Text.spaces n) column = ' ' := by
  simp only [cellAt, Text.spaces, List.getD_eq_getElem?_getD, List.getElem?_replicate]
  split <;> rfl

private theorem cellAt_getD_of_length_le
    {rows : List Text} {row : Nat} (behind : rows.length ≤ row) (column : Nat) :
    cellAt (rows[row]?.getD []) column = ' ' := by
  rw [List.getElem?_eq_none behind]
  rfl

theorem gone_concat (size : Size) (above : List Text) (line : Text) :
    gone size (above ++ [line]) = above.length + 1 - size.rows := by
  rw [gone, List.length_append, List.length_singleton]

theorem cell_concat (row column : Nat) :
    (ofRows size (above ++ [line])).cell row column =
      if above.length + 1 - size.rows + row = above.length then cellAt line column
      else cellAt (above[above.length + 1 - size.rows + row]?.getD []) column := by
  simp only [ofRows, gone_concat]
  split
  · next last => rw [last, List.getElem?_concat_length, Option.getD_some]
  · next other =>
      by_cases inside : above.length + 1 - size.rows + row < above.length
      · rw [List.getElem?_append_left inside]
      · rw [List.getElem?_eq_none (by rw [List.length_append, List.length_singleton]; omega),
          List.getElem?_eq_none (by omega)]

theorem row_concat :
    (ofRows size (above ++ [line])).row = above.length - (above.length + 1 - size.rows) := by
  simp only [ofRows, gone_concat, List.length_append, List.length_singleton,
    Nat.add_sub_cancel]

theorem column_concat :
    (ofRows size (above ++ [line])).column = min line.length (size.columns - 1) := by
  simp only [ofRows, List.getLast?_concat, Option.getD_some]

theorem waits_concat :
    (ofRows size (above ++ [line])).waits = decide (line.length = size.columns) := by
  simp only [ofRows, List.getLast?_concat, Option.getD_some]

private theorem write_ofRows
    (rows : 0 < size.rows) (room : line.length < size.columns) (c : Char) :
    (ofRows size (above ++ [line])).write c = ofRows size (above ++ [line ++ [c]]) := by
  have here : min line.length (size.columns - 1) = line.length := by omega
  refine Display.ext rfl (funext fun row => funext fun column => ?_) ?_ ?_ ?_ rfl
  · simp only [write, cell_concat, row_concat, column_concat, cellAt_concat, here]
    grind
  · simp only [write, row_concat]
  · simp only [write, column_concat, here, List.length_append, List.length_singleton]
    change (if _ < size.columns then _ else _) = _
    split <;> omega
  · simp only [write, column_concat, waits_concat, here, List.length_append,
      List.length_singleton]
    change (!decide (_ < size.columns)) = _
    grind

/-- A row below the last one begins with the spaces that the cursor keeps. -/
theorem lineFeed_ofRows
    (rows : 0 < size.rows) (columns : 0 < size.columns) (start : Nat)
    (room : start < size.columns) :
    { (ofRows size (above ++ [line])).lineFeed with column := start } =
      ofRows size (above ++ [line] ++ [Text.spaces start]) := by
  have keeps : min start (size.columns - 1) = start := by omega
  have notFull : start ≠ size.columns := by omega
  have rowsLength : (above ++ [line]).length = above.length + 1 := by
    rw [List.length_append, List.length_singleton]
  have top :
      (ofRows size (above ++ [line])).row + 1 < (ofRows size (above ++ [line])).size.rows ↔
        above.length + 1 < size.rows := by
    rw [row_concat]
    change _ < size.rows ↔ _
    omega
  refine Display.ext ?_ (funext fun row => funext fun column => ?_) ?_ ?_ ?_ ?_
  · simp only [lineFeed]
    split <;> rfl
  · rw [cell_concat, rowsLength, cellAt_spaces]
    simp only [lineFeed, top]
    split
    · next below =>
        have none : gone size (above ++ [line]) = 0 := by
          rw [gone_concat]
          omega
        have still : above.length + 1 + 1 - size.rows = 0 := by omega
        change cellAt ((above ++ [line])[gone size (above ++ [line]) + row]?.getD []) column = _
        rw [none, still]
        split
        · exact cellAt_getD_of_length_le (by omega) column
        · rfl
    · next bottom =>
        have further :
            gone size (above ++ [line]) + (row + 1) =
              above.length + 1 + 1 - size.rows + row := by
          rw [gone_concat]
          omega
        change (if row + 1 < size.rows then
            cellAt ((above ++ [line])[gone size (above ++ [line]) + (row + 1)]?.getD []) column
          else ' ') = _
        rw [further]
        split
        · rw [if_neg (by omega)]
        · split
          · rfl
          · exact (cellAt_getD_of_length_le (by omega) column).symm
  · rw [row_concat, rowsLength]
    simp only [lineFeed, top]
    split
    · change (ofRows size (above ++ [line])).row + 1 = _
      rw [row_concat]
      omega
    · change (ofRows size (above ++ [line])).row = _
      rw [row_concat]
      omega
  · rw [column_concat, length_spaces, keeps]
  · rw [waits_concat, length_spaces]
    simp only [lineFeed]
    split <;> exact (decide_eq_false notFull).symm
  · simp only [lineFeed]
    split <;> rfl

theorem lineFeed_ofRows_of_lt
    (rows : 0 < size.rows) (room : line.length < size.columns) :
    (ofRows size (above ++ [line])).lineFeed =
      ofRows size (above ++ [line] ++ [Text.spaces line.length]) := by
  have stays : (ofRows size (above ++ [line])).lineFeed.column = line.length := by
    have kept : (ofRows size (above ++ [line])).lineFeed.column =
        (ofRows size (above ++ [line])).column := by
      rw [lineFeed]
      split <;> rfl
    rw [kept, column_concat]
    omega
  rw [← lineFeed_ofRows rows (by omega) line.length room]
  exact Display.ext rfl rfl rfl stays rfl rfl

theorem eraseLineEnd_ofRows
    (rows : 0 < size.rows) (columns : 0 < size.columns)
    (room : line.length ≤ size.columns) :
    (ofRows size (above ++ [line])).eraseLineEnd =
      ofRows size (above ++ [line.take (size.columns - 1)]) := by
  refine Display.ext rfl (funext fun row => funext fun column => ?_) ?_ ?_ ?_ rfl
  · have last :
        row = above.length - (above.length + 1 - size.rows) ↔
          above.length + 1 - size.rows + row = above.length := by omega
    simp only [eraseLineEnd, cell_concat, row_concat, column_concat, cellAt_take, last]
    by_cases here : above.length + 1 - size.rows + row = above.length
    · simp only [here, true_and, if_true]
      split
      · split
        · exact (cellAt_of_length_le (by omega)).symm
        · rfl
      · rw [if_pos (by omega)]
    · simp only [here, false_and, if_false]
  · simp only [eraseLineEnd, row_concat]
  · simp only [eraseLineEnd, column_concat, List.length_take]
    omega
  · rw [waits_concat, List.length_take]
    exact (decide_eq_false (by omega)).symm

/-- A text that fits behind the last character stays in its row. -/
theorem read_ofRows_of_le
    (rows : 0 < size.rows) {text : Text} (narrow : ∀ c ∈ text, columns c = 1)
    (room : line.length + text.length ≤ size.columns) :
    (ofRows size (above ++ [line])).read text = ofRows size (above ++ [line ++ text]) := by
  induction text generalizing line with
  | nil => rw [List.append_nil, read_nil]
  | cons c text inductionHypothesis =>
      rw [List.length_cons] at room
      have here : line.length < size.columns := by omega
      have notFull : (ofRows size (above ++ [line])).waits = false := by
        rw [waits_concat]
        exact decide_eq_false (by omega)
      have first :
          (ofRows size (above ++ [line])).step c = ofRows size (above ++ [line ++ [c]]) := by
        rw [step_of_columns_eq_one rfl (narrow c List.mem_cons_self), put, notFull]
        exact write_ofRows rows here c
      rw [read_cons, first, inductionHypothesis
        (fun other member => narrow other (List.mem_cons_of_mem c member))
        (by rw [List.length_append, List.length_singleton]; omega)]
      simp

/-- Behind a full row a text begins the next one. -/
theorem read_ofRows_of_full
    (rows : 0 < size.rows) (full : line.length = size.columns) {text : Text}
    (nonempty : text ≠ []) (narrow : ∀ c ∈ text, columns c = 1)
    (room : text.length ≤ size.columns) :
    (ofRows size (above ++ [line])).read text = ofRows size (above ++ [line] ++ [text]) := by
  obtain ⟨c, text, rfl⟩ := List.exists_cons_of_ne_nil nonempty
  rw [List.length_cons] at room
  have wide : 0 < size.columns := by omega
  have waiting : (ofRows size (above ++ [line])).waits = true := by
    rw [waits_concat]
    exact decide_eq_true full
  have first :
      (ofRows size (above ++ [line])).step c = ofRows size (above ++ [line] ++ [[c]]) := by
    rw [step_of_columns_eq_one rfl (narrow c List.mem_cons_self), put, waiting, if_pos rfl,
      lineFeed_ofRows rows wide 0 wide]
    exact @write_ofRows size (above ++ [line]) [] rows wide c
  have rest : ∀ other ∈ text, columns other = 1 := fun other member =>
    narrow other (List.mem_cons_of_mem c member)
  rw [read_cons, first,
    read_ofRows_of_le rows rest (by rw [List.length_singleton]; omega)]
  rfl

end Rows

end Keychart.Viewer.Display
