import Keychart.Proofs.Key.Pastes
import Keychart.Proofs.Text.Pieces
import Mathlib.Data.List.Basic

/-!
# Input cut between its items

The item at the front of some input is told by what stands in it, so the input may
be cut between any two items: what is in front of the cut and what is behind it are
split as they were side by side.
-/

namespace Keychart.Text

/-- Whether the length of the piece at the front of a text is told by its own
characters. -/
structure SelfDelimiting (next : Text → Nat) : Prop where
  pos : ∀ {text : Text}, text ≠ [] → 0 < next text
  le_length : ∀ text : Text, next text ≤ text.length
  of_front : ∀ {front rest : Text},
    next (front ++ rest) ≤ front.length → next front = next (front ++ rest)

theorem cutFrom_succ
    (next : Text → Nat) (left : Nat) {text : Text} (nonempty : text ≠ []) :
    cutFrom next (left + 1) text =
      text.take (left + 1) :: cutFrom next 0 (text.drop (left + 1)) := by
  induction text generalizing left with
  | nil => exact absurd rfl nonempty
  | cons c text inductionHypothesis =>
      rw [cutFrom, if_neg (Nat.succ_ne_zero left), Nat.add_sub_cancel, List.take_succ_cons,
        List.drop_succ_cons]
      cases left with
      | zero => rw [List.take_zero, List.drop_zero]
      | succ left =>
          dsimp only
          by_cases ends : text = []
          · rw [ends, cutFrom, List.take_nil, List.drop_nil, cutFrom]
          · rw [inductionHypothesis left ends]

namespace SelfDelimiting

variable {next : Text → Nat}

/-- The piece at the front, and the pieces of what follows it. -/
theorem cutBy_eq (told : SelfDelimiting next) {text : Text} (nonempty : text ≠ []) :
    cutBy next text = text.take (next text) :: cutBy next (text.drop (next text)) := by
  cases text with
  | nil => exact absurd rfl nonempty
  | cons c text =>
      obtain ⟨length, same⟩ := Nat.exists_eq_succ_of_ne_zero (told.pos nonempty).ne'
      have opened := cutFrom_succ next length nonempty
      rw [cutFrom, if_neg (Nat.succ_ne_zero length)] at opened
      rw [cutBy, cutBy, cutFrom, if_pos rfl, same]
      exact opened

/-- Text that begins with all of the piece in front of another begins with the same
piece. -/
theorem cutBy_front
    (told : SelfDelimiting next) {front rest : Text} (nonempty : front ≠ [])
    (reaches : next (front ++ rest) ≤ front.length) :
    cutBy next front =
      (front ++ rest).take (next (front ++ rest)) ::
        cutBy next (front.drop (next (front ++ rest))) := by
  rw [told.cutBy_eq nonempty, told.of_front reaches, List.take_append_of_le_length reaches]

/-- Between two pieces the text may be cut. -/
theorem cutBy_flatten_of_append
    (told : SelfDelimiting next) {text : Text} {before after : List Text}
    (pieces : cutBy next text = before ++ after) :
    cutBy next before.flatten = before ∧ cutBy next after.flatten = after := by
  induction before generalizing text with
  | nil =>
      rw [List.nil_append] at pieces
      have whole := flatten_cutFrom next 0 text
      rw [← cutBy, pieces] at whole
      rw [whole]
      exact ⟨rfl, pieces⟩
  | cons piece before inductionHypothesis =>
      have nonempty : text ≠ [] := by
        intro empty
        rw [empty] at pieces
        cases pieces
      have whole := flatten_cutFrom next 0 text
      rw [← cutBy, pieces, List.flatten_append] at whole
      rw [told.cutBy_eq nonempty, List.cons_append] at pieces
      obtain ⟨first, others⟩ := List.cons.inj pieces
      obtain ⟨inFront, behind⟩ := inductionHypothesis others
      have length : piece.length = next text := by
        rw [← first, List.length_take, Nat.min_eq_left (told.le_length text)]
      have reaches : next text ≤ (piece :: before).flatten.length := by
        rw [List.flatten_cons, List.length_append, length]
        exact Nat.le_add_right _ _
      have begins : (piece :: before).flatten ≠ [] :=
        List.ne_nil_of_length_pos (Nat.lt_of_lt_of_le (told.pos nonempty) reaches)
      have remains : (piece :: before).flatten.drop (next text) = before.flatten := by
        rw [List.flatten_cons, ← length, List.drop_left]
      refine ⟨?_, behind⟩
      rw [← whole] at reaches first remains
      rw [told.cutBy_front begins reaches, first, remains, inFront]

/-- A piece is cut into itself alone. -/
theorem cutBy_of_mem
    (told : SelfDelimiting next) {text piece : Text} (member : piece ∈ cutBy next text) :
    cutBy next piece = [piece] := by
  obtain ⟨before, after, pieces⟩ := List.append_of_mem member
  obtain ⟨-, behind⟩ := told.cutBy_flatten_of_append pieces
  have parted : cutBy next (piece :: after).flatten = [piece] ++ after := behind
  have alone := (told.cutBy_flatten_of_append parted).1
  rw [List.flatten_singleton] at alone
  exact alone

end SelfDelimiting

end Keychart.Text

namespace Keychart.Key

private theorem isParameter_of_isFinal {c : Char} (ends : isFinal c = true) :
    isParameter c = false := by
  rw [← Bool.not_eq_true]
  intro parameter
  simp only [isFinal, isParameter, Bool.and_eq_true, Bool.or_eq_true, decide_eq_true_eq]
    at ends parameter
  rcases parameter with (digit | rfl) | rfl
  · have order : '@' ≤ '9' := Char.le_trans ends.1 digit.2
    exact absurd order (by decide)
  · exact absurd ends.1 (by decide)
  · exact absurd ends.1 (by decide)

private theorem isParameter_of_isIntermediate {c : Char} (between : isIntermediate c = true) :
    isParameter c = false := by
  rw [← Bool.not_eq_true]
  intro parameter
  simp only [isIntermediate, isParameter, Bool.and_eq_true, Bool.or_eq_true, decide_eq_true_eq]
    at between parameter
  rcases parameter with (digit | rfl) | rfl
  · have order : '0' ≤ '/' := Char.le_trans digit.1 between.2
    exact absurd order (by decide)
  · exact absurd between.2 (by decide)
  · exact absurd between.2 (by decide)

private theorem isIntermediate_of_isFinal {c : Char} (ends : isFinal c = true) :
    isIntermediate c = false := by
  rw [← Bool.not_eq_true]
  intro between
  simp only [isFinal, isIntermediate, Bool.and_eq_true, decide_eq_true_eq] at ends between
  have order : '@' ≤ '/' := Char.le_trans ends.1 between.2
  exact absurd order (by decide)

/-- What stands behind the bracket of a complete control sequence. -/
inductive IsControl : Text → Prop
  | mk (parameters intermediates : Text) (final : Char)
      (known : ∀ c ∈ parameters, isParameter c = true)
      (between : ∀ c ∈ intermediates, isIntermediate c = true)
      (ends : isFinal final = true) :
      IsControl (parameters ++ (intermediates ++ [final]))

theorem controlLength?_append {code : Text} (control : IsControl code) (rest : Text) :
    controlLength? (code ++ rest) = some code.length := by
  obtain ⟨parameters, intermediates, final, known, between, ends⟩ := control
  have whole :
      parameters ++ (intermediates ++ [final]) ++ rest =
        parameters ++ (intermediates ++ final :: rest) := by simp
  have taken :
      (parameters ++ (intermediates ++ final :: rest)).takeWhile isParameter = parameters := by
    cases intermediates with
    | nil => exact (Text.takeWhile_append_cons known (isParameter_of_isFinal ends) rest).1
    | cons c intermediates =>
        have stops := isParameter_of_isIntermediate (between c List.mem_cons_self)
        exact (Text.takeWhile_append_cons known stops (intermediates ++ final :: rest)).1
  have takenBetween :=
    (Text.takeWhile_append_cons between (isIntermediate_of_isFinal ends) rest).1
  simp only [whole, controlLength?, taken, takenBetween, List.drop_left, ends, if_true,
    List.length_append, List.length_singleton, Nat.add_assoc]

private theorem exists_control_of_controlLength?
    {text : Text} {n : Nat} (found : controlLength? text = some n) :
    ∃ code rest, text = code ++ rest ∧ code.length = n ∧ IsControl code := by
  have splitAt (p : Char → Bool) (l : Text) :
      l.takeWhile p ++ l.drop (l.takeWhile p).length = l :=
    List.prefix_iff_eq_append.mp (List.takeWhile_prefix p)
  rw [controlLength?] at found
  generalize behindParameters : text.drop (text.takeWhile isParameter).length = rest at found
  generalize behindBoth : rest.drop (rest.takeWhile isIntermediate).length = back at found
  have textParts := splitAt isParameter text
  have restParts := splitAt isIntermediate rest
  rw [behindParameters] at textParts
  rw [behindBoth] at restParts
  cases back with
  | nil => cases found
  | cons final back =>
      dsimp only at found
      by_cases ends : isFinal final = true
      · rw [if_pos ends] at found
        refine ⟨text.takeWhile isParameter ++ (rest.takeWhile isIntermediate ++ [final]), back,
          ?_, ?_, ?_⟩
        · rw [List.append_assoc, List.append_assoc, List.singleton_append, restParts, textParts]
        · rw [← Option.some.inj found, List.length_append, List.length_append,
            List.length_singleton, Nat.add_assoc]
        · apply IsControl.mk
          · exact fun c member => List.mem_takeWhile_imp member
          · exact fun c member => List.mem_takeWhile_imp member
          · exact ends
      · rw [if_neg ends] at found
        cases found

private theorem controlLength?_pos {text : Text} {n : Nat} (found : controlLength? text = some n) :
    0 < n ∧ n ≤ text.length := by
  obtain ⟨code, rest, rfl, rfl, control⟩ := exists_control_of_controlLength? found
  obtain ⟨parameters, intermediates, final, -, -, -⟩ := control
  simp only [List.length_append, List.length_singleton]
  omega

/-- A front of a text holds its control sequence or none. -/
theorem controlLength?_of_front
    {front rest : Text}
    (reaches : ∀ n, controlLength? (front ++ rest) = some n → n ≤ front.length) :
    controlLength? front = controlLength? (front ++ rest) := by
  cases found : controlLength? (front ++ rest) with
  | some n =>
      obtain ⟨code, behind, whole, rfl, control⟩ := exists_control_of_controlLength? found
      have begins : code <+: front :=
        List.prefix_of_prefix_length_le ⟨behind, whole.symm⟩ (List.prefix_append _ _)
          (reaches _ found)
      obtain ⟨left, same⟩ := begins
      rw [← same]
      exact controlLength?_append control left
  | none =>
      cases earlier : controlLength? front with
      | none => rfl
      | some n =>
          obtain ⟨code, behind, whole, rfl, control⟩ :=
            exists_control_of_controlLength? earlier
          rw [whole, List.append_assoc, controlLength?_append control] at found
          cases found

/-! ## The item at the front -/

private theorem escapedLength_bounds (text : Text) :
    0 < escapedLength text ∧ escapedLength text ≤ text.length + 1 := by
  unfold escapedLength
  split
  · exact ⟨Nat.one_pos, Nat.le_refl 1⟩
  · exact ⟨Nat.one_pos, Nat.le_add_left 1 _⟩
  · next rest =>
      split
      · next n found =>
          have bounds := controlLength?_pos found
          simp only [List.length_cons]
          omega
      · simp only [List.length_cons]
        omega
  · split <;> simp only [List.length_cons] <;> omega
  · next nonempty _ _ _ =>
      have more := List.length_pos_iff.mpr nonempty
      omega

private theorem escapedLength_bracket (text : Text) :
    escapedLength ('[' :: text) =
      match controlLength? text with
      | some n => n + 2
      | none => 2 := rfl

private theorem escapedLength_of_ne {c : Char} (noEscape : c ≠ '\x1b') (noBracket : c ≠ '[')
    (noShift : c ≠ 'O') (text : Text) :
    escapedLength (c :: text) = 2 := by
  simp [escapedLength, noEscape, noBracket, noShift]

private theorem escapedLength_of_front
    {front rest : Text} (reaches : escapedLength (front ++ rest) ≤ front.length + 1) :
    escapedLength front = escapedLength (front ++ rest) := by
  cases front with
  | nil => exact Nat.le_antisymm (escapedLength_bounds _).1 reaches
  | cons c front =>
      rw [List.cons_append] at reaches ⊢
      by_cases escape : c = '\x1b'
      · rw [escape]
        rfl
      by_cases bracket : c = '['
      · rw [bracket, escapedLength_bracket] at reaches ⊢
        have same : controlLength? front = controlLength? (front ++ rest) := by
          apply controlLength?_of_front
          intro n found
          rw [found, List.length_cons] at reaches
          have bound : n + 2 ≤ front.length + 1 + 1 := reaches
          omega
        rw [same, escapedLength_bracket]
      by_cases shift : c = 'O'
      · subst shift
        cases front with
        | cons d front => rfl
        | nil =>
            -- A character behind the shift would belong to the item.
            cases rest with
            | nil => rfl
            | cons d rest =>
                by_cases lineFeed : d = '\n'
                · rw [lineFeed]
                  rfl
                · have past : escapedLength ('O' :: d :: rest) = 3 := if_neg lineFeed
                  rw [List.nil_append, past] at reaches
                  exact absurd reaches (by decide)
      rw [escapedLength_of_ne escape bracket shift, escapedLength_of_ne escape bracket shift]

theorem itemLength_of_no_paste
    {c : Char} {text : Text} (noPaste : ¬ pasteStart <+: c :: text) :
    itemLength (c :: text) = if c = '\x1b' then escapedLength text else 1 := by
  rw [itemLength, Text.dropMark?_eq_none_iff.mpr noPaste]

private theorem itemLength_pos {text : Text} (nonempty : text ≠ []) : 0 < itemLength text := by
  by_cases paste : pasteStart <+: text
  · obtain ⟨rest, rfl⟩ := paste
    rw [itemLength_pasteStart_append]
    split
    · rw [length_pasteEnd]
      exact Nat.succ_pos _
    · exact List.length_pos_iff.mpr nonempty
  · cases text with
    | nil => exact absurd rfl nonempty
    | cons c text =>
        rw [itemLength_of_no_paste paste]
        split
        · exact (escapedLength_bounds text).1
        · exact Nat.one_pos

private theorem itemLength_le_length (text : Text) : itemLength text ≤ text.length := by
  by_cases paste : pasteStart <+: text
  · obtain ⟨rest, rfl⟩ := paste
    rw [itemLength_pasteStart_append]
    split
    next before behind found =>
      rw [Text.length_of_splitAtMark? found]
      exact Nat.le_add_right _ _
    next => exact Nat.le_refl _
  · cases text with
    | nil => exact Nat.le_refl 0
    | cons c text =>
        rw [itemLength_of_no_paste paste]
        split
        · exact (escapedLength_bounds text).2
        · exact Nat.le_add_left 1 _

private theorem itemLength_of_front_of_paste
    {front rest : Text} (paste : pasteStart <+: front ++ rest)
    (reaches : itemLength (front ++ rest) ≤ front.length) :
    itemLength front = itemLength (front ++ rest) := by
  obtain ⟨pasted, whole⟩ := paste
  have length := itemLength_pasteStart_append pasted
  rw [whole] at length
  cases found : Text.splitAtMark? pasteEnd (front ++ rest) with
  | none =>
      -- The paste is open and takes all there is.
      have taken : itemLength (front ++ rest) = (front ++ rest).length := by rw [length, found]
      rw [taken, List.length_append] at reaches
      have nothing : rest = [] := List.length_eq_zero_iff.mp (by omega)
      rw [nothing, List.append_nil]
  | some parts =>
      obtain ⟨before, behind⟩ := parts
      have taken : itemLength (front ++ rest) = before.length + pasteEnd.length := by
        rw [length, found]
      rw [taken] at reaches ⊢
      have begins : pasteStart <+: front := by
        apply List.prefix_of_prefix_length_le ⟨pasted, whole⟩ (List.prefix_append _ _)
        rw [length_pasteEnd] at reaches
        rw [length_pasteStart]
        omega
      obtain ⟨left, inFront⟩ := Text.splitAtMark?_of_front found reaches
      obtain ⟨more, rfl⟩ := begins
      rw [itemLength_pasteStart_append, inFront]

private theorem itemLength_of_front
    {front rest : Text} (reaches : itemLength (front ++ rest) ≤ front.length) :
    itemLength front = itemLength (front ++ rest) := by
  by_cases paste : pasteStart <+: front ++ rest
  · exact itemLength_of_front_of_paste paste reaches
  · cases front with
    | nil => exact (Nat.le_zero.mp reaches).symm
    | cons c front =>
        have inFront : ¬ pasteStart <+: c :: front := fun begins =>
          paste (begins.trans (List.prefix_append _ _))
        rw [List.cons_append] at paste reaches ⊢
        rw [itemLength_of_no_paste paste] at reaches ⊢
        rw [itemLength_of_no_paste inFront]
        by_cases escape : c = '\x1b'
        · rw [if_pos escape] at reaches ⊢
          rw [if_pos escape]
          exact escapedLength_of_front reaches
        · rw [if_neg escape, if_neg escape]

theorem selfDelimiting_itemLength : Text.SelfDelimiting itemLength where
  pos := itemLength_pos
  le_length := itemLength_le_length
  of_front := itemLength_of_front

/-- The items hold all of the input and none is empty.  Between two of them the input
may be cut: in front and behind it is split into the items that stand there. -/
theorem splitInput_cut_between_items (data : Text) :
    (splitInput data).flatten = data ∧
      (∀ item ∈ splitInput data, item ≠ [] ∧ splitInput item = [item]) ∧
      ∀ before after, splitInput data = before ++ after →
        splitInput before.flatten = before ∧ splitInput after.flatten = after := by
  refine ⟨flatten_splitInput data, ?_, ?_⟩
  · intro item member
    exact ⟨ne_nil_of_mem_splitInput member, selfDelimiting_itemLength.cutBy_of_mem member⟩
  · intro before after items
    exact selfDelimiting_itemLength.cutBy_flatten_of_append items

/-- A control sequence that a letter of no sequence breaks off, with a shift and its line
feed and a paste behind it. -/
def brokenSequence : Text := Text.ofString "\x1b[1é\x1bO\n\x1b[200~a\x1b[201~"

theorem splitInput_cut_between_items_broken :
    splitInput brokenSequence =
        [['\x1b', '['], ['1']] ++ [['é'], ['\x1b', 'O'], ['\n'], bracketed ['a']] ∧
      ['1'] ∈ splitInput brokenSequence ∧ splitInput ['1'] = [['1']] ∧
      splitInput ['\x1b', '[', '1'] = [['\x1b', '['], ['1']] ∧
      splitInput ('é' :: '\x1b' :: 'O' :: '\n' :: bracketed ['a']) =
        [['é'], ['\x1b', 'O'], ['\n'], bracketed ['a']] := by
  have items :
      splitInput brokenSequence =
        [['\x1b', '['], ['1']] ++ [['é'], ['\x1b', 'O'], ['\n'], bracketed ['a']] := by
    decide
  have member : ['1'] ∈ splitInput brokenSequence := by
    rw [items]
    decide
  obtain ⟨-, alone, cut⟩ := splitInput_cut_between_items brokenSequence
  exact ⟨items, member, (alone ['1'] member).2, cut _ _ items⟩

end Keychart.Key
