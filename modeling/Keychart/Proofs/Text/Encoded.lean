import Keychart.Text.Utf8
import Mathlib.Data.List.Basic

/-!
# Encoded texts

Bytes can be read as a text exactly if they are the bytes of one, and that is the
text which is read.  So there is one way to write a text, and what is neither a
shortest form nor a character is refused.

The lead and the bounds of the byte behind it decide this: they leave out the
forms that are too long, the surrogates, and what lies beyond the last character.
-/

namespace Keychart.Text

section Lead

variable {byte : Nat}

private theorem utf8Lead?_two (least : 0xC2 ≤ byte) (most : byte < 0xE0) :
    utf8Lead? byte = some { bits := byte - 0xC0, need := 1 } := by
  rw [utf8Lead?, if_neg (by omega), if_pos most]

private theorem utf8Lead?_three (least : 0xE0 ≤ byte) (most : byte < 0xF0) :
    utf8Lead? byte =
      some
        { bits := byte - 0xE0, need := 2,
          low := if byte = 0xE0 then 0xA0 else 0x80,
          high := if byte = 0xED then 0x9F else 0xBF } := by
  rw [utf8Lead?, if_neg (by omega), if_neg (by omega), if_pos most]

private theorem utf8Lead?_four (least : 0xF0 ≤ byte) (most : byte < 0xF5) :
    utf8Lead? byte =
      some
        { bits := byte - 0xF0, need := 3,
          low := if byte = 0xF0 then 0x90 else 0x80,
          high := if byte = 0xF4 then 0x8F else 0xBF } := by
  rw [utf8Lead?, if_neg (by omega), if_neg (by omega), if_neg (by omega), if_pos most]

/-- A character beyond ASCII starts in one of three ways. -/
theorem lead_cases {lead : Utf8Lead} (found : utf8Lead? byte = some lead) :
    (0xC2 ≤ byte ∧ byte < 0xE0) ∨ (0xE0 ≤ byte ∧ byte < 0xF0) ∨
      (0xF0 ≤ byte ∧ byte < 0xF5) := by
  by_cases least : byte < 0xC2
  · rw [utf8Lead?, if_pos least] at found
    cases found
  · by_cases most : byte < 0xF5
    · omega
    · rw [utf8Lead?, if_neg least, if_neg (by omega), if_neg (by omega), if_neg most] at found
      cases found

end Lead

section Character

variable {need bits low high length : Nat} {b : UInt8} {bytes : List UInt8} {c : Char}

theorem utf8Continue_cons (above : low ≤ b.toNat) (below : b.toNat ≤ high) :
    utf8Continue (need + 1) bits low high length (b :: bytes) =
      utf8Continue need (bits * 0x40 + (b.toNat - 0x80)) 0x80 0xBF (length + 1) bytes := by
  rw [utf8Continue, if_pos (by simp [above, below])]

private theorem exists_cons_of_utf8Continue {n : Nat}
    (read : utf8Continue (need + 1) bits low high length bytes = .scalar c n) :
    ∃ b rest, bytes = b :: rest ∧ low ≤ b.toNat ∧ b.toNat ≤ high ∧
      utf8Continue need (bits * 0x40 + (b.toNat - 0x80)) 0x80 0xBF (length + 1) rest =
        .scalar c n := by
  cases bytes with
  | nil => cases read
  | cons b rest =>
      rw [utf8Continue] at read
      by_cases within : (low ≤ b.toNat && b.toNat ≤ high) = true
      · rw [if_pos within] at read
        simp only [Bool.and_eq_true, decide_eq_true_eq] at within
        exact ⟨b, rest, rfl, within.1, within.2, read⟩
      · rw [if_neg within] at read
        cases read

private theorem toNat_ofNat_of_lt {n : Nat} (small : n < 0x100) : (UInt8.ofNat n).toNat = n := by
  rw [UInt8.toNat_ofNat']
  exact Nat.mod_eq_of_lt small

/-- The numbers of characters: no surrogate, and none beyond the last. -/
theorem toNat_cases (c : Char) :
    c.toNat < 0xD800 ∨ (0xDFFF < c.toNat ∧ c.toNat < 0x110000) := by
  have valid := c.valid
  simp only [UInt32.isValidChar, Nat.isValidChar] at valid
  exact valid

private theorem toNat_ofNat_of_cases {n : Nat} (valid : n < 0xD800 ∨ (0xDFFF < n ∧ n < 0x110000)) :
    (Char.ofNat n).toNat = n := by
  rw [Char.ofNat, dif_pos valid]
  rfl

private theorem toNat_continuation (n : Nat) :
    (UInt8.ofNat (0x80 + n % 0x40)).toNat = 0x80 + n % 0x40 :=
  toNat_ofNat_of_lt (by omega)

/-- Any byte of the second class continues a sequence. -/
theorem utf8Continue_continuation (n : Nat) :
    utf8Continue (need + 1) bits 0x80 0xBF length (UInt8.ofNat (0x80 + n % 0x40) :: bytes) =
      utf8Continue need (bits * 0x40 + n % 0x40) 0x80 0xBF (length + 1) bytes := by
  rw [utf8Continue_cons (by rw [toNat_continuation]; omega) (by rw [toNat_continuation]; omega),
    toNat_continuation, Nat.add_sub_cancel_left]

private theorem utf8Sequence_one (small : c.toNat < 0x80) (rest : List UInt8) :
    utf8Sequence (UInt8.ofNat c.toNat) rest = .scalar c 1 := by
  have byte : (UInt8.ofNat c.toNat).toNat = c.toNat := toNat_ofNat_of_lt (by omega)
  rw [utf8Sequence, byte, if_pos small, Char.ofNat_toNat]

private theorem utf8Sequence_two
    (least : 0x80 ≤ c.toNat) (most : c.toNat < 0x800) (rest : List UInt8) :
    utf8Sequence (UInt8.ofNat (0xC0 + c.toNat / 0x40))
        (UInt8.ofNat (0x80 + c.toNat % 0x40) :: rest) =
      .scalar c 2 := by
  have byte : (UInt8.ofNat (0xC0 + c.toNat / 0x40)).toNat = 0xC0 + c.toNat / 0x40 :=
    toNat_ofNat_of_lt (by omega)
  have value : (0xC0 + c.toNat / 0x40 - 0xC0) * 0x40 + c.toNat % 0x40 = c.toNat := by omega
  rw [utf8Sequence, byte, if_neg (by omega), utf8Lead?_two (by omega) (by omega)]
  dsimp only
  rw [utf8Continue_continuation, utf8Continue, value, Char.ofNat_toNat]

private theorem utf8Sequence_three
    (least : 0x800 ≤ c.toNat) (most : c.toNat < 0x10000) (rest : List UInt8) :
    utf8Sequence (UInt8.ofNat (0xE0 + c.toNat / 0x1000))
        (UInt8.ofNat (0x80 + c.toNat / 0x40 % 0x40) :: UInt8.ofNat (0x80 + c.toNat % 0x40) ::
          rest) =
      .scalar c 3 := by
  have valid := toNat_cases c
  have byte : (UInt8.ofNat (0xE0 + c.toNat / 0x1000)).toNat = 0xE0 + c.toNat / 0x1000 :=
    toNat_ofNat_of_lt (by omega)
  have value :
      ((0xE0 + c.toNat / 0x1000 - 0xE0) * 0x40 + (0x80 + c.toNat / 0x40 % 0x40 - 0x80)) * 0x40 +
        c.toNat % 0x40 = c.toNat := by
    omega
  rw [utf8Sequence, byte, if_neg (by omega), utf8Lead?_three (by omega) (by omega)]
  dsimp only
  -- The bounds of the second byte leave out longer forms and surrogates.
  rw [utf8Continue_cons (by rw [toNat_continuation]; split <;> omega)
      (by rw [toNat_continuation]; split <;> omega),
    utf8Continue_continuation, utf8Continue, toNat_continuation, value, Char.ofNat_toNat]

private theorem utf8Sequence_four (least : 0x10000 ≤ c.toNat) (rest : List UInt8) :
    utf8Sequence (UInt8.ofNat (0xF0 + c.toNat / 0x40000))
        (UInt8.ofNat (0x80 + c.toNat / 0x1000 % 0x40) ::
          UInt8.ofNat (0x80 + c.toNat / 0x40 % 0x40) :: UInt8.ofNat (0x80 + c.toNat % 0x40) ::
          rest) =
      .scalar c 4 := by
  have valid := toNat_cases c
  have byte : (UInt8.ofNat (0xF0 + c.toNat / 0x40000)).toNat = 0xF0 + c.toNat / 0x40000 :=
    toNat_ofNat_of_lt (by omega)
  have value :
      (((0xF0 + c.toNat / 0x40000 - 0xF0) * 0x40 +
            (0x80 + c.toNat / 0x1000 % 0x40 - 0x80)) * 0x40 +
          c.toNat / 0x40 % 0x40) * 0x40 + c.toNat % 0x40 = c.toNat := by
    omega
  rw [utf8Sequence, byte, if_neg (by omega), utf8Lead?_four (by omega) (by omega)]
  dsimp only
  rw [utf8Continue_cons (by rw [toNat_continuation]; split <;> omega)
      (by rw [toNat_continuation]; split <;> omega),
    utf8Continue_continuation, utf8Continue_continuation, utf8Continue, toNat_continuation,
    value, Char.ofNat_toNat]

/-- The bytes of a character are read as that character, whatever follows. -/
theorem utf8Sequence_encodeChar (c : Char) (rest : List UInt8) :
    ∃ b tail, encodeChar c = b :: tail ∧
      utf8Sequence b (tail ++ rest) = .scalar c (tail.length + 1) := by
  simp only [encodeChar]
  by_cases one : c.toNat < 0x80
  · rw [if_pos one]
    exact ⟨_, _, rfl, utf8Sequence_one one rest⟩
  · rw [if_neg one]
    by_cases two : c.toNat < 0x800
    · rw [if_pos two]
      exact ⟨_, _, rfl, utf8Sequence_two (Nat.le_of_not_lt one) two rest⟩
    · rw [if_neg two]
      by_cases three : c.toNat < 0x10000
      · rw [if_pos three]
        exact ⟨_, _, rfl, utf8Sequence_three (Nat.le_of_not_lt two) three rest⟩
      · rw [if_neg three]
        exact ⟨_, _, rfl, utf8Sequence_four (Nat.le_of_not_lt three) rest⟩

/-! ## From bytes to a character -/

/-- A byte is known by its number. -/
theorem ofNat_eq_of_toNat {n : Nat} (same : n = b.toNat) : UInt8.ofNat n = b := by
  rw [same]
  exact UInt8.ofNat_toNat

/-- The value is that of a character, and so the number of the one that is read. -/
theorem eq_of_utf8Continue_zero {n : Nat}
    (read : utf8Continue 0 bits low high length bytes = .scalar c n)
    (valid : bits < 0xD800 ∨ (0xDFFF < bits ∧ bits < 0x110000)) :
    c.toNat = bits ∧ n = length := by
  rw [utf8Continue] at read
  injection read with character same
  rw [← character]
  exact ⟨toNat_ofNat_of_cases valid, same.symm⟩

private theorem encodeChar_of_two {n : Nat} (least : 0xC2 ≤ b.toNat) (most : b.toNat < 0xE0)
    (read : utf8Sequence b bytes = .scalar c n) :
    ∃ tail rest, bytes = tail ++ rest ∧ encodeChar c = b :: tail ∧ n = tail.length + 1 := by
  rw [utf8Sequence, if_neg (by omega), utf8Lead?_two least most] at read
  dsimp only at read
  obtain ⟨second, rest, rfl, low, high, read⟩ := exists_cons_of_utf8Continue read
  obtain ⟨number, length⟩ := eq_of_utf8Continue_zero read (by omega)
  refine ⟨[second], rest, rfl, ?_, length⟩
  simp only [encodeChar]
  rw [if_neg (by omega), if_pos (by omega), ofNat_eq_of_toNat (b := b) (by omega),
    ofNat_eq_of_toNat (b := second) (by omega)]

private theorem encodeChar_of_three {n : Nat} (least : 0xE0 ≤ b.toNat) (most : b.toNat < 0xF0)
    (read : utf8Sequence b bytes = .scalar c n) :
    ∃ tail rest, bytes = tail ++ rest ∧ encodeChar c = b :: tail ∧ n = tail.length + 1 := by
  rw [utf8Sequence, if_neg (by omega), utf8Lead?_three least most] at read
  dsimp only at read
  obtain ⟨second, rest, rfl, low, high, read⟩ := exists_cons_of_utf8Continue read
  obtain ⟨third, rest, rfl, thirdLow, thirdHigh, read⟩ := exists_cons_of_utf8Continue read
  have bounds : 0x80 ≤ second.toNat ∧ second.toNat ≤ 0xBF ∧
      (b.toNat = 0xE0 → 0xA0 ≤ second.toNat) ∧ (b.toNat = 0xED → second.toNat ≤ 0x9F) := by
    split at low <;> split at high <;> omega
  obtain ⟨number, length⟩ := eq_of_utf8Continue_zero read (by omega)
  refine ⟨[second, third], rest, rfl, ?_, length⟩
  simp only [encodeChar]
  rw [if_neg (by omega), if_neg (by omega), if_pos (by omega),
    ofNat_eq_of_toNat (b := b) (by omega), ofNat_eq_of_toNat (b := second) (by omega),
    ofNat_eq_of_toNat (b := third) (by omega)]

private theorem encodeChar_of_four {n : Nat} (least : 0xF0 ≤ b.toNat) (most : b.toNat < 0xF5)
    (read : utf8Sequence b bytes = .scalar c n) :
    ∃ tail rest, bytes = tail ++ rest ∧ encodeChar c = b :: tail ∧ n = tail.length + 1 := by
  rw [utf8Sequence, if_neg (by omega), utf8Lead?_four least most] at read
  dsimp only at read
  obtain ⟨second, rest, rfl, low, high, read⟩ := exists_cons_of_utf8Continue read
  obtain ⟨third, rest, rfl, thirdLow, thirdHigh, read⟩ := exists_cons_of_utf8Continue read
  obtain ⟨fourth, rest, rfl, fourthLow, fourthHigh, read⟩ := exists_cons_of_utf8Continue read
  have bounds : 0x80 ≤ second.toNat ∧ second.toNat ≤ 0xBF ∧
      (b.toNat = 0xF0 → 0x90 ≤ second.toNat) ∧ (b.toNat = 0xF4 → second.toNat ≤ 0x8F) := by
    split at low <;> split at high <;> omega
  obtain ⟨number, length⟩ := eq_of_utf8Continue_zero read (by omega)
  refine ⟨[second, third, fourth], rest, rfl, ?_, length⟩
  simp only [encodeChar]
  rw [if_neg (by omega), if_neg (by omega), if_neg (by omega),
    ofNat_eq_of_toNat (b := b) (by omega), ofNat_eq_of_toNat (b := second) (by omega),
    ofNat_eq_of_toNat (b := third) (by omega), ofNat_eq_of_toNat (b := fourth) (by omega)]

/-- What is read as a character are the bytes of that character. -/
theorem encodeChar_of_utf8Sequence {n : Nat} (read : utf8Sequence b bytes = .scalar c n) :
    ∃ tail rest, bytes = tail ++ rest ∧ encodeChar c = b :: tail ∧ n = tail.length + 1 := by
  by_cases ascii : b.toNat < 0x80
  · rw [utf8Sequence, if_pos ascii] at read
    injection read with character length
    have number : c.toNat = b.toNat := by
      rw [← character]
      exact toNat_ofNat_of_cases (by omega)
    refine ⟨[], bytes, rfl, ?_, length.symm⟩
    simp only [encodeChar, number, if_pos ascii]
    rw [ofNat_eq_of_toNat rfl]
  · cases found : utf8Lead? b.toNat with
    | none =>
        rw [utf8Sequence, if_neg ascii, found] at read
        cases read
    | some lead =>
        rcases lead_cases found with ⟨least, most⟩ | ⟨least, most⟩ | ⟨least, most⟩
        · exact encodeChar_of_two least most read
        · exact encodeChar_of_three least most read
        · exact encodeChar_of_four least most read

end Character

theorem encode_cons (c : Char) (text : Text) : encode (c :: text) = encodeChar c ++ encode text :=
  List.flatMap_cons

/-- Bytes that are read already are passed. -/
theorem decodeFrom_append (tail rest : List UInt8) (position : Nat) :
    decodeFrom tail.length position (tail ++ rest) =
      decodeFrom 0 (position + tail.length) rest := by
  induction tail generalizing position with
  | nil => rfl
  | cons b tail inductionHypothesis =>
      rw [List.cons_append, List.length_cons, decodeFrom, inductionHypothesis,
        Nat.add_right_comm, Nat.add_assoc]

private theorem decodeFrom_encode (text : Text) (position : Nat) :
    decodeFrom 0 position (encode text) = .ok text := by
  induction text generalizing position with
  | nil => rfl
  | cons c text inductionHypothesis =>
      obtain ⟨b, tail, bytes, read⟩ := utf8Sequence_encodeChar c (encode text)
      rw [encode_cons, bytes, List.cons_append, decodeFrom, read]
      simp only [Nat.add_sub_cancel]
      rw [decodeFrom_append, inductionHypothesis]

private theorem encode_of_decodeFrom {bytes : List UInt8} {position : Nat} {text : Text}
    (read : decodeFrom 0 position bytes = .ok text) : encode text = bytes := by
  induction size : bytes.length using Nat.strongRecOn generalizing bytes position text with
  | ind n inductionHypothesis =>
      cases bytes with
      | nil =>
          rw [decodeFrom] at read
          cases read
          rfl
      | cons b bytes =>
          rw [decodeFrom] at read
          cases sequence : utf8Sequence b bytes with
          | truncated => rw [sequence] at read; cases read
          | badStart => rw [sequence] at read; cases read
          | badContinuation => rw [sequence] at read; cases read
          | scalar c length =>
              obtain ⟨tail, rest, rfl, written, rfl⟩ := encodeChar_of_utf8Sequence sequence
              rw [sequence] at read
              simp only [Nat.add_sub_cancel] at read
              rw [decodeFrom_append] at read
              cases behind : decodeFrom 0 (position + 1 + tail.length) rest with
              | error e =>
                  rw [behind] at read
                  cases read
              | ok others =>
                  rw [behind] at read
                  cases read
                  have shorter : rest.length < n := by
                    rw [← size, List.length_cons, List.length_append]
                    omega
                  rw [encode_cons, written, inductionHypothesis _ shorter behind rfl]
                  rfl

/-- Bytes are read as the text of which they are the bytes, and as no other. -/
theorem decode_eq_ok_iff {bytes : List UInt8} {text : Text} :
    decode bytes = .ok text ↔ encode text = bytes := by
  constructor
  · exact encode_of_decodeFrom
  · rintro rfl
    exact decodeFrom_encode text 0

end Keychart.Text
