import Keychart.Proofs.Key.Pastes
import Keychart.Proofs.Text.Lines
import Keychart.Viewer.Query

/-!
# Pastes into the query

What the query holds of a character is what its text and its open paste hold.
No input makes it hold more than came in.
-/

namespace Keychart.Viewer.Query

variable {bindings : Bindings} {q : Query} {data arrived front rest text : Text} {c : Char}

theorem read_of_splitAtMark?
    (found : Text.splitAtMark? Key.pasteStart data = some (front, rest)) :
    q.read bindings data =
      readPaste bindings (if front.isEmpty then q else q.read bindings front) [] rest := by
  rw [read]
  split
  next same =>
    rw [found] at same
    cases same
    rfl
  next missing =>
    rw [found] at missing
    cases missing

theorem read_of_waiting
    (missing : Text.splitAtMark? Key.pasteStart data = none) (waiting : q.paste = some arrived) :
    q.read bindings data = q.readPaste bindings arrived data := by
  rw [read]
  split
  next same =>
    rw [missing] at same
    cases same
  next =>
    split
    next same =>
      rw [waiting] at same
      cases same
      rfl
    next same =>
      rw [waiting] at same
      cases same

theorem read_of_not_waiting
    (missing : Text.splitAtMark? Key.pasteStart data = none) (idle : q.paste = none) :
    q.read bindings data = q.pressKey bindings data := by
  rw [read]
  split
  next same =>
    rw [missing] at same
    cases same
  next =>
    split
    next same =>
      rw [idle] at same
      cases same
    next => rfl

/-- The query behind a paste that has ended. -/
def closed (q : Query) (text : Text) : Query :=
  { q.insert (Text.lines text).flatten with paste := none }

theorem readPaste_of_none
    (missing : Text.splitAtMark? Key.pasteEnd (arrived ++ data) = none) :
    q.readPaste bindings arrived data = { q with paste := some (arrived ++ data) } := by
  rw [readPaste]
  split
  next => rfl
  next same =>
    rw [missing] at same
    cases same

theorem readPaste_of_splitAtMark?
    (found : Text.splitAtMark? Key.pasteEnd (arrived ++ data) = some (text, rest)) :
    q.readPaste bindings arrived data =
      if rest.isEmpty then q.closed text else (q.closed text).read bindings rest := by
  rw [readPaste]
  split
  next missing =>
    rw [found] at missing
    cases missing
  next same =>
    rw [found] at same
    cases same
    rfl

theorem read_pasteStart_append (bindings : Bindings) (q : Query) (text : Text) :
    q.read bindings (Key.pasteStart ++ text) = q.readPaste bindings [] text :=
  read_of_splitAtMark? (Text.splitAtMark?_append Key.pasteStart text)

theorem read_pasteStart_append_of_noEnd (bindings : Bindings) (q : Query)
    (noEnd : ¬ Key.pasteEnd <:+: text) :
    q.read bindings (Key.pasteStart ++ text) = { q with paste := some text } := by
  rw [read_pasteStart_append]
  exact readPaste_of_none (Text.splitAtMark?_eq_none_iff.mpr noEnd)

theorem read_bracketed (bindings : Bindings) (q : Query) (pastable : Key.Pastable text) :
    q.read bindings (Key.bracketed text) = q.closed text := by
  have found :
      Text.splitAtMark? Key.pasteEnd ([] ++ (text ++ Key.pasteEnd)) = some (text, []) :=
    pastable.splitAtMark?_pasteEnd
  rw [Key.bracketed, read_pasteStart_append]
  exact readPaste_of_splitAtMark? found

theorem read_of_waiting_of_noEnd
    (waiting : q.paste = some arrived) (noStart : ¬ Key.pasteStart <:+: data)
    (noEnd : ¬ Key.pasteEnd <:+: arrived ++ data) :
    q.read bindings data = { q with paste := some (arrived ++ data) } := by
  rw [read_of_waiting (Text.splitAtMark?_eq_none_iff.mpr noStart) waiting]
  exact readPaste_of_none (Text.splitAtMark?_eq_none_iff.mpr noEnd)

theorem read_of_waiting_of_ends
    (waiting : q.paste = some arrived) (noStart : ¬ Key.pasteStart <:+: data)
    (pastable : Key.Pastable text) (ends : arrived ++ data = text ++ Key.pasteEnd) :
    q.read bindings data = q.closed text := by
  have found := pastable.splitAtMark?_pasteEnd
  rw [← ends] at found
  rw [read_of_waiting (Text.splitAtMark?_eq_none_iff.mpr noStart) waiting]
  exact readPaste_of_splitAtMark? found

/-! ## How often a character is held -/

/-- How often the text and the open paste hold a character. -/
def held (q : Query) (c : Char) : Nat := q.value.count c + (q.paste.getD []).count c

private theorem value_moveBack (q : Query) (n : Nat) : (q.moveBack n).value = q.value := by
  rw [moveBack, value, splitBack, ← List.append_assoc, List.take_append_drop, value]

private theorem value_moveAhead (q : Query) (n : Nat) : (q.moveAhead n).value = q.value := by
  rw [moveAhead, value, List.append_assoc, List.take_append_drop, value]

private theorem value_deleteBack_sublist (q : Query) (n : Nat) :
    (q.deleteBack n).value.Sublist q.value :=
  (List.take_sublist (q.before.length - n) q.before).append_right q.after

private theorem value_deleteAhead_sublist (q : Query) (n : Nat) :
    (q.deleteAhead n).value.Sublist q.value :=
  (List.drop_sublist n q.after).append_left q.before

/-- An editing action adds nothing to the text. -/
theorem value_perform_sublist (q : Query) (action : Action) :
    (q.perform action).value.Sublist q.value := by
  cases action with
  | deleteCharBackward => exact q.value_deleteBack_sublist q.clusterBack
  | deleteCharForward => exact q.value_deleteAhead_sublist q.clusterAhead
  | deleteWordBackward => exact q.value_deleteBack_sublist q.wordBack
  | deleteToLineStart => exact List.sublist_append_right q.before q.after
  | deleteToLineEnd => exact (List.nil_sublist q.after).append_left q.before
  | cursorLeft => exact (q.value_moveBack q.clusterBack).symm ▸ List.Sublist.refl _
  | cursorRight => exact (q.value_moveAhead q.clusterAhead).symm ▸ List.Sublist.refl _
  | cursorWordLeft => exact (q.value_moveBack q.wordBack).symm ▸ List.Sublist.refl _
  | cursorWordRight => exact (q.value_moveAhead q.wordAhead).symm ▸ List.Sublist.refl _
  | cursorLineEnd =>
      have same : (q.perform .cursorLineEnd).value = q.value := List.append_nil q.value
      exact same ▸ List.Sublist.refl _
  | cursorLineStart => exact List.Sublist.refl q.value
  | _ => exact List.Sublist.refl q.value

private theorem paste_perform (q : Query) (action : Action) :
    (q.perform action).paste = q.paste := by
  cases action <;> rfl

private theorem count_value_insert (q : Query) (text : Text) (c : Char) :
    (q.insert text).value.count c = q.value.count c + text.count c := by
  simp only [value, insert, List.count_append]
  omega

private theorem count_value_closed_le (q : Query) (text : Text) (c : Char) :
    (q.closed text).value.count c ≤ q.value.count c + text.count c := by
  have fewer : (Text.lines text).flatten.count c ≤ text.count c := by
    rw [Text.flatten_lines]
    exact List.filter_sublist.count_le c
  have inserted :
      (q.closed text).value.count c =
        q.value.count c + (Text.lines text).flatten.count c :=
    q.count_value_insert (Text.lines text).flatten c
  omega

/-- What ends no line comes into the text with the paste. -/
theorem count_value_closed (q : Query) (text : Text)
    (inside : Text.isLineBoundary c = false) :
    (q.closed text).value.count c = q.value.count c + text.count c := by
  have kept : (Text.lines text).flatten.count c = text.count c := by
    rw [Text.flatten_lines]
    exact List.count_filter (by simp [inside])
  rw [← kept]
  exact q.count_value_insert (Text.lines text).flatten c

private theorem held_pressKey_le (bindings : Bindings) (q : Query) (data : Text) (c : Char) :
    (q.pressKey bindings data).held c ≤ q.held c + data.count c := by
  rw [pressKey]
  split
  next action triggered =>
    have fewer := (q.value_perform_sublist action).count_le c
    rw [held, held, q.paste_perform action]
    omega
  next =>
    split
    · exact Nat.le_add_right _ _
    · have inserted := q.count_value_insert data c
      have samePaste : (q.insert data).paste = q.paste := rfl
      rw [held, held, inserted, samePaste]
      omega

theorem count_value_le_held (q : Query) (c : Char) : q.value.count c ≤ q.held c :=
  Nat.le_add_right _ _

theorem held_of_waiting (waiting : q.paste = some arrived) :
    q.held c = q.value.count c + arrived.count c := by
  rw [held, waiting, Option.getD_some]

private theorem held_closed_le (q : Query) (text : Text) (c : Char) :
    (q.closed text).held c ≤ q.value.count c + text.count c :=
  q.count_value_closed_le text c

/-- Reading makes the query hold no more than came in.  A paste that has begun anew
counts in place of the one that was open. -/
theorem held_read_readPaste_le (bindings : Bindings) (c : Char) :
    (∀ (q : Query) (data : Text),
        (q.read bindings data).held c ≤ q.held c + data.count c) ∧
      ∀ (q : Query) (arrived data : Text),
        (q.readPaste bindings arrived data).held c ≤
          q.value.count c + (arrived ++ data).count c := by
  apply read.mutual_induct bindings
  -- reading: a start mark, a paste that waits, or a key
  · intro q data front rest found start frontBound restBound
    have parts := Text.count_splitAtMark?_le found c
    rw [read_of_splitAtMark? found]
    by_cases empty : front.isEmpty
    · have same : start = q := dif_pos empty
      rw [same, List.nil_append] at restBound
      rw [if_pos empty]
      have before := q.count_value_le_held c
      omega
    · have same : start = q.read bindings front := dif_neg empty
      rw [same, List.nil_append] at restBound
      rw [if_neg empty]
      have before := (q.read bindings front).count_value_le_held c
      omega
  · intro q data missing arrived waiting bound
    rw [List.count_append] at bound
    rw [read_of_waiting missing waiting, held_of_waiting waiting]
    omega
  · intro q data missing idle
    rw [read_of_not_waiting missing idle]
    exact held_pressKey_le bindings q data c
  -- reading a paste: no end mark, one at the end, or one with more behind it
  · intro q arrived data missing
    rw [readPaste_of_none missing]
    exact Nat.le_of_eq (held_of_waiting rfl)
  · intro q arrived data text rest found ends
    have parts := Text.count_splitAtMark?_le found c
    have inserted := q.held_closed_le text c
    rw [readPaste_of_splitAtMark? found, if_pos ends]
    omega
  · intro q arrived data text rest found next more bound
    have parts := Text.count_splitAtMark?_le found c
    have inserted : next.held c ≤ q.value.count c + text.count c :=
      q.held_closed_le text c
    have same : next = q.closed text := rfl
    rw [same] at bound inserted
    rw [readPaste_of_splitAtMark? found, if_neg more]
    omega

theorem held_read_le (bindings : Bindings) (q : Query) (data : Text) (c : Char) :
    (q.read bindings data).held c ≤ q.held c + data.count c :=
  (held_read_readPaste_le bindings c).1 q data

end Keychart.Viewer.Query
