import Keychart.Proofs.Text.Encoded
import Mathlib.Data.List.Basic

/-!
# Text decoded piece by piece

What the bytes at the front of a stream stand for is settled once they are enough, and
no byte behind them changes it; until then they wait.  So bytes may be decoded in parts:
what a part leaves waiting is put in front of the next.
-/

namespace Keychart.Text

section Front

variable {need bits low high length : Nat} {b : UInt8} {bytes : List UInt8}

/-- The number of bytes that a sequence takes. -/
def Utf8Sequence.reach : Utf8Sequence → Nat
  | .scalar _ length => length
  | .truncated length => length
  | .badStart => 1
  | .badContinuation length => length

private theorem reach_utf8Continue_le :
    (utf8Continue need bits low high length bytes).reach ≤ length + bytes.length := by
  induction bytes generalizing need bits low high length with
  | nil => cases need <;> exact Nat.le_refl _
  | cons b bytes inductionHypothesis =>
      cases need with
      | zero => exact Nat.le_add_right _ _
      | succ need =>
          rw [utf8Continue]
          split
          · refine Nat.le_trans inductionHypothesis ?_
            rw [List.length_cons]
            omega
          · exact Nat.le_add_right _ _

theorem utf8Continue_append
    (settled : ∀ n, utf8Continue need bits low high length bytes ≠ .truncated n)
    (more : List UInt8) :
    utf8Continue need bits low high length (bytes ++ more) =
      utf8Continue need bits low high length bytes := by
  induction bytes generalizing need bits low high length with
  | nil =>
      cases need with
      | zero => rfl
      | succ need => exact absurd rfl (settled length)
  | cons b bytes inductionHypothesis =>
      cases need with
      | zero => rfl
      | succ need =>
          rw [utf8Continue] at settled
          rw [List.cons_append, utf8Continue, utf8Continue]
          by_cases within : (low ≤ b.toNat && b.toNat ≤ high) = true
          · rw [if_pos within] at settled ⊢
            rw [if_pos within]
            exact inductionHypothesis settled
          · rw [if_neg within, if_neg within]

private theorem reach_utf8Sequence_le : (utf8Sequence b bytes).reach ≤ bytes.length + 1 := by
  rw [utf8Sequence, Nat.add_comm]
  split
  · exact Nat.le_add_right 1 _
  · split
    · exact Nat.le_add_right 1 _
    · exact reach_utf8Continue_le

theorem utf8Sequence_append
    (settled : ∀ n, utf8Sequence b bytes ≠ .truncated n) (more : List UInt8) :
    utf8Sequence b (bytes ++ more) = utf8Sequence b bytes := by
  rw [utf8Sequence] at settled ⊢
  rw [utf8Sequence]
  by_cases ascii : b.toNat < 0x80
  · rw [if_pos ascii, if_pos ascii]
  · rw [if_neg ascii] at settled ⊢
    rw [if_neg ascii]
    cases found : utf8Lead? b.toNat with
    | none => rfl
    | some lead =>
        rw [found] at settled
        exact utf8Continue_append settled more

/-- A character that has only begun can still go on. -/
theorem ne_nil_of_badContinuation {n : Nat}
    (broken : utf8Sequence b bytes = .badContinuation n) :
    bytes ≠ [] := by
  rintro rfl
  rw [utf8Sequence] at broken
  split at broken
  · cases broken
  · split at broken
    · cases broken
    · next lead _ =>
        rcases need : lead.need with _ | more
        · rw [need] at broken
          cases broken
        · rw [need] at broken
          cases broken

theorem isSurrogateStart_append
    (other : isSurrogateStart b bytes = false) (some : bytes ≠ []) (more : List UInt8) :
    isSurrogateStart b (bytes ++ more) = false := by
  rcases bytes with _ | ⟨second, _ | ⟨third, rest⟩⟩
  · exact absurd rfl some
  · cases more with
    | nil => exact other
    | cons third rest => rfl
  · rfl

/-- The character that the bytes at the front of a stream stand for, and how many they
are; none while they wait for more. -/
def frontChar? (b : UInt8) (bytes : List UInt8) : Option (Char × Nat) :=
  match utf8Sequence b bytes with
  | .scalar c length => some (c, length)
  | .truncated _ => none
  | .badStart => some (replacementChar, 1)
  | .badContinuation length =>
    if isSurrogateStart b bytes then none else some (replacementChar, length)

private theorem frontChar?_bound {c : Char} {n : Nat} (found : frontChar? b bytes = some (c, n)) :
    n - 1 ≤ bytes.length := by
  have bound : (utf8Sequence b bytes).reach ≤ bytes.length + 1 := reach_utf8Sequence_le
  rw [frontChar?] at found
  cases sequence : utf8Sequence b bytes with
  | scalar d length =>
      rw [sequence] at found bound
      cases found
      exact Nat.sub_le_of_le_add bound
  | truncated length =>
      rw [sequence] at found
      cases found
  | badStart =>
      rw [sequence] at found
      cases found
      exact Nat.zero_le _
  | badContinuation length =>
      rw [sequence] at found bound
      dsimp only at found
      split at found
      · cases found
      · cases found
        exact Nat.sub_le_of_le_add bound

/-- What bytes stand for is not changed by the bytes behind them. -/
theorem frontChar?_append {front : Char × Nat} (found : frontChar? b bytes = some front)
    (more : List UInt8) :
    frontChar? b (bytes ++ more) = some front := by
  rw [frontChar?] at found
  cases sequence : utf8Sequence b bytes with
  | truncated length =>
      rw [sequence] at found
      cases found
  | scalar c length =>
      rw [sequence] at found
      rw [frontChar?, utf8Sequence_append (by rw [sequence]; nofun), sequence]
      exact found
  | badStart =>
      rw [sequence] at found
      rw [frontChar?, utf8Sequence_append (by rw [sequence]; nofun), sequence]
      exact found
  | badContinuation length =>
      rw [sequence] at found
      rw [frontChar?, utf8Sequence_append (by rw [sequence]; nofun), sequence]
      dsimp only at found ⊢
      by_cases surrogate : isSurrogateStart b bytes = true
      · rw [if_pos surrogate] at found
        cases found
      · have other := Bool.eq_false_iff.mpr surrogate
        rw [if_neg surrogate] at found
        rw [isSurrogateStart_append other (ne_nil_of_badContinuation sequence),
          if_neg Bool.false_ne_true]
        exact found

private theorem frontChar?_encodeChar (c : Char) (rest : List UInt8) :
    ∃ b tail, encodeChar c = b :: tail ∧
      frontChar? b (tail ++ rest) = some (c, tail.length + 1) := by
  obtain ⟨b, tail, bytes, read⟩ := utf8Sequence_encodeChar c rest
  refine ⟨b, tail, bytes, ?_⟩
  rw [frontChar?, read]

end Front

/-! ## Streams -/

private theorem decodeLossyFrom_of_waiting {b : UInt8} {bytes : List UInt8}
    (waiting : frontChar? b bytes = none) :
    decodeLossyFrom 0 (b :: bytes) = ([], b :: bytes) := by
  rw [frontChar?] at waiting
  rw [decodeLossyFrom]
  cases sequence : utf8Sequence b bytes with
  | scalar c length => rw [sequence] at waiting; cases waiting
  | badStart => rw [sequence] at waiting; cases waiting
  | truncated length => rfl
  | badContinuation length =>
      rw [sequence] at waiting
      dsimp only at waiting ⊢
      split at waiting
      · next surrogate => rw [if_pos surrogate]
      · cases waiting

private theorem decodeLossyFrom_of_front {b : UInt8} {bytes : List UInt8} {c : Char} {n : Nat}
    (found : frontChar? b bytes = some (c, n)) :
    decodeLossyFrom 0 (b :: bytes) =
      (c :: (decodeLossyFrom (n - 1) bytes).1, (decodeLossyFrom (n - 1) bytes).2) := by
  rw [frontChar?] at found
  rw [decodeLossyFrom]
  cases sequence : utf8Sequence b bytes with
  | scalar d length =>
      rw [sequence] at found
      cases found
      rfl
  | badStart =>
      rw [sequence] at found
      cases found
      rfl
  | truncated length => rw [sequence] at found; cases found
  | badContinuation length =>
      rw [sequence] at found
      dsimp only at found ⊢
      split at found
      · cases found
      · next other =>
          cases found
          rw [if_neg other]

/-- A stream may be decoded in two parts: what the first leaves waiting is decoded with
the second. -/
theorem decodeLossyFrom_append
    {skip : Nat} {front : List UInt8} (within : skip ≤ front.length) (back : List UInt8) :
    decodeLossyFrom skip (front ++ back) =
      ((decodeLossyFrom skip front).1 ++
          (decodeLossyFrom 0 ((decodeLossyFrom skip front).2 ++ back)).1,
        (decodeLossyFrom 0 ((decodeLossyFrom skip front).2 ++ back)).2) := by
  induction front generalizing skip with
  | nil =>
      rw [Nat.le_zero.mp within]
      rfl
  | cons b front inductionHypothesis =>
      cases skip with
      | succ skip => exact inductionHypothesis (Nat.le_of_succ_le_succ within)
      | zero =>
          -- Only bytes that wait are left over, and what is settled stays as it is.
          cases found : frontChar? b front with
          | none =>
              rw [decodeLossyFrom_of_waiting found]
              rfl
          | some parts =>
              obtain ⟨c, n⟩ := parts
              rw [List.cons_append, decodeLossyFrom_of_front (frontChar?_append found back),
                decodeLossyFrom_of_front found,
                inductionHypothesis (frontChar?_bound found)]
              rfl

private theorem length_lt_of_truncated {need bits low high length n : Nat} {bytes : List UInt8}
    (truncated : utf8Continue need bits low high length bytes = .truncated n) :
    bytes.length < need := by
  induction bytes generalizing need bits low high length with
  | nil =>
      cases need with
      | zero => cases truncated
      | succ need => exact Nat.zero_lt_succ need
  | cons b bytes inductionHypothesis =>
      cases need with
      | zero => cases truncated
      | succ need =>
          rw [utf8Continue] at truncated
          split at truncated
          · exact Nat.succ_lt_succ (inductionHypothesis truncated)
          · cases truncated

private theorem need_le_three {byte : Nat} {lead : Utf8Lead} (known : utf8Lead? byte = some lead) :
    lead.need ≤ 3 := by
  rw [utf8Lead?] at known
  by_cases tooLow : byte < 0xC2
  · rw [if_pos tooLow] at known
    cases known
  by_cases two : byte < 0xE0
  · rw [if_neg tooLow, if_pos two] at known
    obtain rfl := Option.some.inj known
    exact (by decide : 1 ≤ 3)
  by_cases three : byte < 0xF0
  · rw [if_neg tooLow, if_neg two, if_pos three] at known
    obtain rfl := Option.some.inj known
    exact (by decide : 2 ≤ 3)
  by_cases four : byte < 0xF5
  · rw [if_neg tooLow, if_neg two, if_neg three, if_pos four] at known
    obtain rfl := Option.some.inj known
    exact Nat.le_refl 3
  · rw [if_neg tooLow, if_neg two, if_neg three, if_neg four] at known
    cases known

private theorem length_le_of_waiting
    {b : UInt8} {bytes : List UInt8} (waiting : frontChar? b bytes = none) :
    (b :: bytes).length ≤ 3 := by
  rw [frontChar?] at waiting
  cases sequence : utf8Sequence b bytes with
  | scalar c length => rw [sequence] at waiting; cases waiting
  | badStart => rw [sequence] at waiting; cases waiting
  | truncated length =>
      rw [utf8Sequence] at sequence
      split at sequence
      · cases sequence
      · split at sequence
        · cases sequence
        · next lead known =>
            exact Nat.le_trans (length_lt_of_truncated sequence) (need_le_three known)
  | badContinuation length =>
      rw [sequence] at waiting
      dsimp only at waiting
      split at waiting
      · next surrogate =>
          obtain ⟨second, rfl⟩ : ∃ second, bytes = [second] := by
            rcases bytes with _ | ⟨second, _ | ⟨third, rest⟩⟩
            · cases surrogate
            · exact ⟨second, rfl⟩
            · cases surrogate
          exact Nat.le_succ 2
      · cases waiting

/-- Bytes give no more characters than they are, and three of them wait at most. -/
theorem length_decodeLossyFrom_le (skip : Nat) (bytes : List UInt8) :
    (decodeLossyFrom skip bytes).1.length ≤ bytes.length ∧
      (decodeLossyFrom skip bytes).2.length ≤ 3 := by
  induction bytes generalizing skip with
  | nil =>
      rw [decodeLossyFrom]
      exact ⟨Nat.le_refl 0, Nat.zero_le 3⟩
  | cons b bytes inductionHypothesis =>
      cases skip with
      | succ skip =>
          rw [decodeLossyFrom]
          exact (inductionHypothesis skip).imp_left Nat.le_succ_of_le
      | zero =>
          cases found : frontChar? b bytes with
          | none =>
              rw [decodeLossyFrom_of_waiting found]
              exact ⟨Nat.zero_le _, length_le_of_waiting found⟩
          | some parts =>
              rw [decodeLossyFrom_of_front found]
              exact (inductionHypothesis _).imp_left Nat.succ_le_succ

/-- What a read leaves waiting does not go on by itself. -/
theorem decodeRead_waiting (unfinished read : List UInt8) :
    decodeRead (decodeRead unfinished read).2 [] = ([], (decodeRead unfinished read).2) := by
  have parts := decodeLossyFrom_append (Nat.zero_le (unfinished ++ read).length) []
  rw [List.append_nil] at parts
  obtain ⟨text, tail⟩ := Prod.ext_iff.mp parts
  exact Prod.ext (List.self_eq_append_right.mp text) tail.symm

theorem decodeRead_append (unfinished read more : List UInt8) :
    decodeRead unfinished (read ++ more) =
      ((decodeRead unfinished read).1 ++ (decodeRead (decodeRead unfinished read).2 more).1,
        (decodeRead (decodeRead unfinished read).2 more).2) := by
  rw [decodeRead, ← List.append_assoc]
  exact decodeLossyFrom_append (Nat.zero_le _) more

theorem decodeLossyFrom_length_append (tail rest : List UInt8) :
    decodeLossyFrom tail.length (tail ++ rest) = decodeLossyFrom 0 rest := by
  induction tail with
  | nil => rfl
  | cons b tail inductionHypothesis => exact inductionHypothesis

/-- The bytes of a character are decoded as that character, once. -/
theorem decodeRead_encodeChar_append (c : Char) (rest : List UInt8) :
    decodeRead [] (encodeChar c ++ rest) =
      (c :: (decodeRead [] rest).1, (decodeRead [] rest).2) := by
  obtain ⟨b, tail, bytes, found⟩ := frontChar?_encodeChar c rest
  rw [decodeRead, List.nil_append, bytes, List.cons_append, decodeLossyFrom_of_front found,
    Nat.add_sub_cancel, decodeLossyFrom_length_append]
  rfl

theorem decodeRead_encode (text : Text) : decodeRead [] (encode text) = (text, []) := by
  induction text with
  | nil => rfl
  | cons c text inductionHypothesis =>
      rw [encode_cons, decodeRead_encodeChar_append, inductionHypothesis]

end Keychart.Text
