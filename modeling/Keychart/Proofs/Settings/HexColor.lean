import Keychart.Settings.Color
import Mathlib.Data.List.Basic

/-!
# Colours in hexadecimal digits

A colour is read part by part, and each part may be spelled as any numeral of two
places.  Digits of ASCII are read as they stand; a sign, a blank or a digit of
another script in their place is read too.
-/

namespace Keychart

namespace Unicode

private theorem le_nine_of_digitValue?
    {c : Char} {n : Nat} (found : digitValue? c = some n) : n ≤ 9 := by
  unfold digitValue? at found
  dsimp only at found
  split at found
  · split at found
    · next digit =>
        rw [Bool.and_eq_true, decide_eq_true_eq, decide_eq_true_eq] at digit
        rw [← Option.some.inj found]
        omega
    · cases found
  · obtain ⟨nought, among, same⟩ := Option.map_eq_some_iff.mp found
    have bounds := List.find?_some among
    rw [Bool.and_eq_true, decide_eq_true_eq, decide_eq_true_eq] at bounds
    omega

/-- No block of digits holds white space. -/
theorem digitValue?_of_isBlank {c : Char} (blank : isBlank c = true) : digitValue? c = none := by
  have apart : ∀ nought ∈ digitZeros, ∀ range ∈ blankRanges,
      nought + 9 < range.1 ∨ range.2 < nought := by decide
  unfold isBlank at blank
  unfold digitValue?
  by_cases ascii : c.toNat < 0x80
  · rw [if_pos ascii] at blank
    simp only [isAsciiBlank, Bool.or_eq_true, Bool.and_eq_true, decide_eq_true_eq] at blank
    have noDigit : ¬ (0x30 ≤ c.toNat ∧ c.toNat ≤ 0x39) := by omega
    simp [ascii, noDigit]
  · rw [if_neg ascii, inRanges, List.any_eq_true] at blank
    obtain ⟨range, member, inside⟩ := blank
    rw [Bool.and_eq_true, decide_eq_true_eq, decide_eq_true_eq] at inside
    dsimp only
    rw [if_neg ascii, Option.map_eq_none_iff, List.find?_eq_none]
    intro nought among
    rw [Bool.and_eq_true, decide_eq_true_eq, decide_eq_true_eq]
    have outside := apart nought among range member
    omega

end Unicode

namespace Settings

theorem small_letter_iff {c : Char} :
    ('a' ≤ c && c ≤ 'f') = true ↔ 0x61 ≤ c.toNat ∧ c.toNat ≤ 0x66 := by
  simp [Char.le_def, UInt32.le_iff_toNat_le]

theorem capital_letter_iff {c : Char} :
    ('A' ≤ c && c ≤ 'F') = true ↔ 0x41 ≤ c.toNat ∧ c.toNat ≤ 0x46 := by
  simp [Char.le_def, UInt32.le_iff_toNat_le]

private theorem le_fifteen_of_hexDigit? {c : Char} {n : Nat} (found : hexDigit? c = some n) :
    n ≤ 15 := by
  unfold hexDigit? at found
  split at found
  · next letter =>
      rw [small_letter_iff] at letter
      rw [← Option.some.inj found]
      omega
  · split at found
    · next letter =>
        rw [capital_letter_iff] at letter
        rw [← Option.some.inj found]
        omega
    · have bound := Unicode.le_nine_of_digitValue? found
      omega

private theorem hexDigit?_of_isNumeralBlank {c : Char} (blank : isNumeralBlank c = true) :
    hexDigit? c = none := by
  rw [isNumeralBlank, Bool.and_eq_true] at blank
  have apart : c.toNat < 0x41 ∨ 0x80 ≤ c.toNat := by
    by_cases ascii : c.toNat < 0x80
    · have among := blank.1
      rw [Unicode.isBlank, if_pos ascii] at among
      simp only [Unicode.isAsciiBlank, Bool.or_eq_true, Bool.and_eq_true, decide_eq_true_eq]
        at among
      omega
    · omega
  rw [hexDigit?, if_neg (by rw [small_letter_iff]; omega),
    if_neg (by rw [capital_letter_iff]; omega)]
  exact Unicode.digitValue?_of_isBlank blank.1

private theorem not_isNumeralBlank_of_hexDigit?
    {c : Char} {n : Nat} (found : hexDigit? c = some n) :
    isNumeralBlank c = false := by
  rw [← Bool.not_eq_true]
  intro blank
  rw [hexDigit?_of_isNumeralBlank blank] at found
  cases found

/-- The numerals of one place or two, and their values. -/
inductive SpellsNumber : Text → Int → Prop
  | digit {c : Char} {n : Nat} (digit : hexDigit? c = some n) : SpellsNumber [c] n
  | digits {c d : Char} {m n : Nat} (first : hexDigit? c = some m)
      (second : hexDigit? d = some n) : SpellsNumber [c, d] (16 * m + n : Nat)
  | plus {c : Char} {n : Nat} (digit : hexDigit? c = some n) : SpellsNumber ['+', c] n
  | minus {c : Char} {n : Nat} (digit : hexDigit? c = some n) : SpellsNumber ['-', c] (-n)
  | blankFront {b c : Char} {n : Nat} (blank : isNumeralBlank b = true)
      (digit : hexDigit? c = some n) : SpellsNumber [b, c] n
  | blankBack {b c : Char} {n : Nat} (blank : isNumeralBlank b = true)
      (digit : hexDigit? c = some n) : SpellsNumber [c, b] n

theorem SpellsNumber.bounds {text : Text} {n : Int} (spells : SpellsNumber text n) :
    -15 ≤ n ∧ n ≤ 255 := by
  cases spells with
  | digits first second =>
      have firstBound := le_fifteen_of_hexDigit? first
      have secondBound := le_fifteen_of_hexDigit? second
      omega
  | digit digit | plus digit | minus digit | blankFront _ digit | blankBack _ digit =>
      have bound := le_fifteen_of_hexDigit? digit
      omega

private theorem trimNumeral_singleton {c : Char} :
    trimNumeral [c] = if isNumeralBlank c then [] else [c] := by
  by_cases blank : isNumeralBlank c = true <;>
    simp [trimNumeral, Text.trimFront, Text.trimBack, List.dropWhile, blank]

private theorem trimNumeral_pair {c d : Char} :
    trimNumeral [c, d] =
      if isNumeralBlank c then trimNumeral [d]
      else if isNumeralBlank d then trimNumeral [c] else [c, d] := by
  by_cases first : isNumeralBlank c = true <;>
    by_cases second : isNumeralBlank d = true <;>
      simp [trimNumeral, Text.trimFront, Text.trimBack, List.dropWhile, first, second]

private theorem hexNatural?_singleton (c : Char) : hexNatural? [c] = hexDigit? c := by
  rw [hexNatural?, hexDigits?]
  · cases hexDigit? c with
    | none => rfl
    | some n => simp [hexDigits?]
  · exact fun empty => List.cons_ne_nil _ _ empty

private theorem hexNatural?_pair (c d : Char) :
    hexNatural? [c, d] = (hexDigit? c).bind fun m => (hexDigit? d).map fun n => 16 * m + n := by
  rw [hexNatural?, hexDigits?]
  · cases hexDigit? c with
    | none => rfl
    | some m =>
        rw [Option.bind_some]
        cases second : hexDigit? d with
        | none => simp [hexDigits?, second]
        | some n => simp [hexDigits?, second]
  · exact fun empty => List.cons_ne_nil _ _ empty

section Trimmed

variable {text : Text} {c d : Char}

theorem hexNumeral?_of_trim_nil (trimmed : trimNumeral text = []) : hexNumeral? text = none := by
  rw [hexNumeral?, trimmed]
  rfl

private theorem hexNumeral?_of_trim_minus (trimmed : trimNumeral text = ['-', c]) :
    hexNumeral? text = (hexDigit? c).map fun n : Nat => -(n : Int) := by
  rw [hexNumeral?, trimmed, ← hexNatural?_singleton]
  cases read : hexNatural? [c] <;> simp [read]

private theorem hexNumeral?_of_trim_plus (trimmed : trimNumeral text = ['+', c]) :
    hexNumeral? text = (hexDigit? c).map fun n : Nat => (n : Int) := by
  rw [hexNumeral?, trimmed, ← hexNatural?_singleton]
  cases read : hexNatural? [c] <;> simp [read]

private theorem hexNumeral?_of_trim_singleton (trimmed : trimNumeral text = [c]) :
    hexNumeral? text = (hexDigit? c).map fun n : Nat => (n : Int) := by
  rw [hexNumeral?, trimmed]
  by_cases minus : c = '-'
  · rw [minus]
    decide
  by_cases plus : c = '+'
  · rw [plus]
    decide
  rw [← hexNatural?_singleton]
  split
  · next same => exact absurd (List.cons.inj same).1 minus
  · next same => exact absurd (List.cons.inj same).1 plus
  · cases hexNatural? [c] <;> rfl

private theorem hexNumeral?_of_trim_pair
    (trimmed : trimNumeral text = [c, d]) (minus : c ≠ '-') (plus : c ≠ '+') :
    hexNumeral? text = (hexNatural? [c, d]).map fun n : Nat => (n : Int) := by
  rw [hexNumeral?, trimmed]
  split
  · next same => exact absurd (List.cons.inj same).1 minus
  · next same => exact absurd (List.cons.inj same).1 plus
  · cases hexNatural? [c, d] <;> rfl

end Trimmed

private theorem ne_sign_of_hexDigit? {c : Char} {n : Nat} (found : hexDigit? c = some n) :
    c ≠ '-' ∧ c ≠ '+' := by
  have noMinus : hexDigit? '-' = none := by decide
  have noPlus : hexDigit? '+' = none := by decide
  constructor
  · intro minus
    rw [minus, noMinus] at found
    cases found
  · intro plus
    rw [plus, noPlus] at found
    cases found

private theorem hexNumeral?_of_spellsNumber {text : Text} {n : Int} (spells : SpellsNumber text n) :
    hexNumeral? text = some n := by
  have noMinusBlank : isNumeralBlank '-' = false := by decide
  have noPlusBlank : isNumeralBlank '+' = false := by decide
  cases spells with
  | @digit c _ digit =>
      have trimmed : trimNumeral [c] = [c] := by
        simp [trimNumeral_singleton, not_isNumeralBlank_of_hexDigit? digit]
      rw [hexNumeral?_of_trim_singleton trimmed, digit, Option.map_some]
  | @digits c d _ _ first second =>
      have trimmed : trimNumeral [c, d] = [c, d] := by
        simp [trimNumeral_pair, not_isNumeralBlank_of_hexDigit? first,
          not_isNumeralBlank_of_hexDigit? second]
      obtain ⟨minus, plus⟩ := ne_sign_of_hexDigit? first
      rw [hexNumeral?_of_trim_pair trimmed minus plus, hexNatural?_pair, first,
        Option.bind_some, second, Option.map_some, Option.map_some]
  | @plus c _ digit =>
      have trimmed : trimNumeral ['+', c] = ['+', c] := by
        simp [trimNumeral_pair, noPlusBlank, not_isNumeralBlank_of_hexDigit? digit]
      rw [hexNumeral?_of_trim_plus trimmed, digit, Option.map_some]
  | @minus c _ digit =>
      have trimmed : trimNumeral ['-', c] = ['-', c] := by
        simp [trimNumeral_pair, noMinusBlank, not_isNumeralBlank_of_hexDigit? digit]
      rw [hexNumeral?_of_trim_minus trimmed, digit, Option.map_some]
  | @blankFront b c _ blank digit =>
      have trimmed : trimNumeral [b, c] = [c] := by
        simp [trimNumeral_pair, trimNumeral_singleton, blank,
          not_isNumeralBlank_of_hexDigit? digit]
      rw [hexNumeral?_of_trim_singleton trimmed, digit, Option.map_some]
  | @blankBack b c _ blank digit =>
      have trimmed : trimNumeral [c, b] = [c] := by
        simp [trimNumeral_pair, trimNumeral_singleton, blank,
          not_isNumeralBlank_of_hexDigit? digit]
      rw [hexNumeral?_of_trim_singleton trimmed, digit, Option.map_some]

/-- A trimmed place that is read as a number is a digit. -/
theorem exists_of_trim_singleton
    {text : Text} {c : Char} {n : Int} (trimmed : trimNumeral text = [c])
    (found : hexNumeral? text = some n) :
    ∃ digit : Nat, hexDigit? c = some digit ∧ (digit : Int) = n := by
  rw [hexNumeral?_of_trim_singleton trimmed] at found
  exact Option.map_eq_some_iff.mp found

private theorem spellsNumber_of_hexNumeral?_pair
    {c d : Char} {n : Int} (found : hexNumeral? [c, d] = some n) :
    SpellsNumber [c, d] n := by
  have trimmed := @trimNumeral_pair c d
  by_cases front : isNumeralBlank c = true
  · rw [if_pos front, trimNumeral_singleton] at trimmed
    by_cases back : isNumeralBlank d = true
    · rw [if_pos back] at trimmed
      rw [hexNumeral?_of_trim_nil trimmed] at found
      cases found
    · rw [if_neg back] at trimmed
      obtain ⟨digit, known, rfl⟩ := exists_of_trim_singleton trimmed found
      exact SpellsNumber.blankFront front known
  rw [if_neg front] at trimmed
  by_cases back : isNumeralBlank d = true
  · rw [if_pos back, trimNumeral_singleton, if_neg front] at trimmed
    obtain ⟨digit, known, rfl⟩ := exists_of_trim_singleton trimmed found
    exact SpellsNumber.blankBack back known
  rw [if_neg back] at trimmed
  by_cases minus : c = '-'
  · rw [minus] at trimmed found ⊢
    rw [hexNumeral?_of_trim_minus trimmed] at found
    obtain ⟨digit, known, rfl⟩ := Option.map_eq_some_iff.mp found
    exact SpellsNumber.minus known
  by_cases plus : c = '+'
  · rw [plus] at trimmed found ⊢
    rw [hexNumeral?_of_trim_plus trimmed] at found
    obtain ⟨digit, known, rfl⟩ := Option.map_eq_some_iff.mp found
    exact SpellsNumber.plus known
  rw [hexNumeral?_of_trim_pair trimmed minus plus, hexNatural?_pair] at found
  obtain ⟨value, read, rfl⟩ := Option.map_eq_some_iff.mp found
  obtain ⟨first, knownFirst, read⟩ := Option.bind_eq_some_iff.mp read
  obtain ⟨second, knownSecond, rfl⟩ := Option.map_eq_some_iff.mp read
  exact SpellsNumber.digits knownFirst knownSecond

theorem hexNumeral?_eq_some_iff
    {text : Text} {n : Int} (short : text.length ≤ 2) :
    hexNumeral? text = some n ↔ SpellsNumber text n := by
  constructor
  · intro found
    match text with
    | [] => cases found
    | [c] =>
        have trimmed := @trimNumeral_singleton c
        by_cases blank : isNumeralBlank c = true
        · rw [if_pos blank] at trimmed
          rw [hexNumeral?_of_trim_nil trimmed] at found
          cases found
        · rw [if_neg blank] at trimmed
          obtain ⟨digit, known, rfl⟩ := exists_of_trim_singleton trimmed found
          exact SpellsNumber.digit known
    | [c, d] => exact spellsNumber_of_hexNumeral?_pair found
    | c :: d :: e :: rest =>
        simp only [List.length_cons] at short
        omega
  · exact hexNumeral?_of_spellsNumber

end Settings

namespace Rgb

open Settings

/-! ## The colours that are read -/

/-- A text without the number sign in front of it. -/
def places (text : Text) : Text :=
  match text with
  | '#' :: rest => rest
  | _ => text

/-- The colours that some places spell as numerals. -/
structure Spells (digits : Text) (color : Rgb) : Prop where
  shortest : 6 ≤ digits.length
  longest : digits.length ≤ 8
  red : SpellsNumber (digits.take 2) color.red
  green : SpellsNumber ((digits.drop 2).take 2) color.green
  blue : SpellsNumber ((digits.drop 4).take 2) color.blue
  beyond : 6 < digits.length → ∃ n, SpellsNumber ((digits.drop 6).take 2) n

private theorem ofHex?_eq (text : Text) :
    ofHex? text =
      if (places text).length < 6 || 8 < (places text).length then none
      else
        match hexNumeral? ((places text).take 2), hexNumeral? (((places text).drop 2).take 2),
          hexNumeral? (((places text).drop 4).take 2) with
        | some red, some green, some blue =>
          if 6 < (places text).length && (hexNumeral? (((places text).drop 6).take 2)).isNone
          then none
          else some ⟨red, green, blue⟩
        | _, _, _ => none := rfl

private theorem spellsNumber_of_take {text : Text} {n : Int}
    (found : hexNumeral? (text.take 2) = some n) : SpellsNumber (text.take 2) n :=
  (hexNumeral?_eq_some_iff (List.length_take_le 2 text)).mp found

private theorem spells_of_ofHex? {text : Text} {color : Rgb} (found : ofHex? text = some color) :
    Spells (places text) color := by
  rw [ofHex?_eq] at found
  split at found
  · cases found
  · next bounds =>
      simp only [Bool.or_eq_true, decide_eq_true_eq, not_or, Nat.not_lt] at bounds
      split at found
      · next red green blue foundRed foundGreen foundBlue =>
          split at found
          · cases found
          · next read =>
              rw [← Option.some.inj found]
              refine ⟨bounds.1, bounds.2, spellsNumber_of_take foundRed,
                spellsNumber_of_take foundGreen, spellsNumber_of_take foundBlue, ?_⟩
              intro more
              simp only [Bool.and_eq_true, decide_eq_true_eq, more, true_and,
                Option.isNone_iff_eq_none] at read
              obtain ⟨n, foundBeyond⟩ := Option.ne_none_iff_exists'.mp read
              exact ⟨n, spellsNumber_of_take foundBeyond⟩
      · cases found

private theorem Spells.ofHex?_eq_some
    {text : Text} {color : Rgb} (spells : Spells (places text) color) :
    ofHex? text = some color := by
  have within : ¬ ((places text).length < 6 || 8 < (places text).length) = true := by
    have shortest := spells.shortest
    have longest := spells.longest
    simp only [Bool.or_eq_true, decide_eq_true_eq]
    omega
  rw [ofHex?_eq, if_neg within, hexNumeral?_of_spellsNumber spells.red,
    hexNumeral?_of_spellsNumber spells.green, hexNumeral?_of_spellsNumber spells.blue]
  by_cases more : 6 < (places text).length
  · obtain ⟨n, beyond⟩ := spells.beyond more
    simp [hexNumeral?_of_spellsNumber beyond]
  · simp [more]

theorem ofHex?_eq_some_iff {text : Text} {color : Rgb} :
    ofHex? text = some color ↔ Spells (places text) color :=
  ⟨spells_of_ofHex?, Spells.ofHex?_eq_some⟩

theorem ofHex?_eq_none_iff {text : Text} :
    ofHex? text = none ↔ ∀ color, ¬ Spells (places text) color := by
  rw [Option.eq_none_iff_forall_ne_some]
  exact forall_congr' fun color => not_congr ofHex?_eq_some_iff

def hexDigits : Text := Text.ofString "0123456789abcdefABCDEF"

def IsHex (text : Text) : Prop := ∀ c ∈ text, c ∈ hexDigits

instance (text : Text) : Decidable (IsHex text) :=
  List.decidableBAll (· ∈ hexDigits) text

def digitValue (c : Char) : Nat :=
  let place := hexDigits.idxOf c
  if place < 16 then place else place - 6

/-- The number that the first two digits write. -/
def pairValue : Text → Nat
  | c :: d :: _ => 16 * digitValue c + digitValue d
  | _ => 0

/-- The colour that six to eight hexadecimal digits of ASCII write, behind a number sign
or not. -/
def ofDigits? (text : Text) : Option Rgb :=
  let digits := places text
  if 6 ≤ digits.length ∧ digits.length ≤ 8 ∧ IsHex digits then
    some ⟨pairValue digits, pairValue (digits.drop 2), pairValue (digits.drop 4)⟩
  else none

private theorem hexDigit?_of_mem {c : Char} (member : c ∈ hexDigits) :
    hexDigit? c = some (digitValue c) ∧ digitValue c ≤ 15 := by
  have all :
      hexDigits.all (fun c => hexDigit? c = some (digitValue c) && digitValue c ≤ 15) =
        true := by
    decide
  have known := List.all_eq_true.mp all c member
  rw [Bool.and_eq_true, decide_eq_true_eq, decide_eq_true_eq] at known
  exact known

private theorem spellsNumber_pair {digits : Text} (long : 2 ≤ digits.length)
    (ascii : IsHex digits) :
    SpellsNumber (digits.take 2) (pairValue digits) := by
  match digits with
  | [] => exact absurd long (by decide)
  | [_] =>
      rw [List.length_singleton] at long
      exact absurd long (by decide)
  | c :: d :: rest =>
      have first := (hexDigit?_of_mem (ascii c List.mem_cons_self)).1
      have second := (hexDigit?_of_mem (ascii d (by simp))).1
      exact SpellsNumber.digits first second

private theorem pairValue_le {digits : Text} (ascii : IsHex digits) :
    pairValue digits ≤ 255 := by
  match digits with
  | [] => exact Nat.zero_le _
  | [_] => exact Nat.zero_le _
  | c :: d :: rest =>
      have first := (hexDigit?_of_mem (ascii c List.mem_cons_self)).2
      have second := (hexDigit?_of_mem (ascii d (by simp))).2
      rw [pairValue]
      omega

private theorem Spells.of_hexDigits {digits : Text} (shortest : 6 ≤ digits.length)
    (longest : digits.length ≤ 8) (ascii : IsHex digits) :
    Spells digits ⟨pairValue digits, pairValue (digits.drop 2), pairValue (digits.drop 4)⟩ := by
  have behind (n : Nat) : IsHex (digits.drop n) := fun c member =>
    ascii c (List.mem_of_mem_drop member)
  refine ⟨shortest, longest, ?_, ?_, ?_, ?_⟩
  · exact spellsNumber_pair (by omega) ascii
  · exact spellsNumber_pair (by rw [List.length_drop]; omega) (behind 2)
  · exact spellsNumber_pair (by rw [List.length_drop]; omega) (behind 4)
  · intro more
    cases rest : digits.drop 6 with
    | nil =>
        rw [List.drop_eq_nil_iff] at rest
        omega
    | cons c others =>
        cases others with
        | nil =>
            have member : c ∈ digits.drop 6 := by rw [rest]; exact List.mem_cons_self
            exact ⟨_, SpellsNumber.digit (hexDigit?_of_mem (behind 6 c member)).1⟩
        | cons d others =>
            refine ⟨_, spellsNumber_pair ?_ ?_⟩
            · exact Nat.le_add_left 2 _
            · rw [← rest]
              exact behind 6

/-- Whether every part of a colour lies between two numbers. -/
def Within (color : Rgb) (least greatest : Int) : Prop :=
  ∀ part ∈ [color.red, color.green, color.blue], least ≤ part ∧ part ≤ greatest

instance (color : Rgb) (least greatest : Int) : Decidable (Within color least greatest) :=
  List.decidableBAll _ _

theorem Spells.within {digits : Text} {color : Rgb} (spells : Spells digits color) :
    Within color (-15) 255 := by
  intro part member
  simp only [List.mem_cons, List.not_mem_nil, or_false] at member
  rcases member with rfl | rfl | rfl
  · exact spells.red.bounds
  · exact spells.green.bounds
  · exact spells.blue.bounds

theorem ofDigits?_eq_some_iff {text : Text} {color : Rgb} :
    ofDigits? text = some color ↔
      (6 ≤ (places text).length ∧ (places text).length ≤ 8 ∧ IsHex (places text)) ∧
        ⟨pairValue (places text), pairValue ((places text).drop 2),
          pairValue ((places text).drop 4)⟩ = color := by
  simp only [ofDigits?, Option.ite_none_right_eq_some, Option.some.injEq]

private theorem within_of_ofDigits?
    {text : Text} {color : Rgb} (found : ofDigits? text = some color) :
    Within color 0 255 := by
  obtain ⟨⟨-, -, ascii⟩, rfl⟩ := ofDigits?_eq_some_iff.mp found
  have behind (n : Nat) : pairValue ((places text).drop n) ≤ 255 :=
    pairValue_le fun c member => ascii c (List.mem_of_mem_drop member)
  have red := pairValue_le ascii
  have green := behind 2
  have blue := behind 4
  intro part member
  simp only [List.mem_cons, List.not_mem_nil, or_false] at member
  rcases member with rfl | rfl | rfl <;> omega

private theorem ofHex?_eq_ofDigits?_of_hexDigits
    {text : Text} (ascii : IsHex (places text)) :
    ofHex? text = ofDigits? text := by
  by_cases bounds : 6 ≤ (places text).length ∧ (places text).length ≤ 8
  · have spells := Spells.of_hexDigits bounds.1 bounds.2 ascii
    rw [spells.ofHex?_eq_some, eq_comm, ofDigits?_eq_some_iff]
    exact ⟨⟨bounds.1, bounds.2, ascii⟩, rfl⟩
  · have refused : ofHex? text = none := by
      apply ofHex?_eq_none_iff.mpr
      intro color spells
      exact bounds ⟨spells.shortest, spells.longest⟩
    rw [refused, ofDigits?]
    exact (if_neg fun strict => bounds ⟨strict.1, strict.2.1⟩).symm

/-- A text is read as a colour exactly if its places spell one, numeral by numeral, and no
part is then out of the range from -15 to 255.  Reading takes the text for what its
digits write, or refuses it, exactly if all places are hexadecimal digits of ASCII or
spell no colour. -/
theorem ofHex?_eq_ofDigits?_iff (text : Text) :
    (∀ color, ofHex? text = some color ↔ Spells (places text) color) ∧
      (∀ color, ofHex? text = some color → Within color (-15) 255) ∧
      (∀ color, ofDigits? text = some color → Within color 0 255) ∧
      (ofHex? text = ofDigits? text ↔
        IsHex (places text) ∨ ∀ color, ¬ Spells (places text) color) := by
  refine ⟨fun _ => ofHex?_eq_some_iff, fun _ found => (spells_of_ofHex? found).within,
    fun _ found => within_of_ofDigits? found, ?_⟩
  constructor
  · intro same
    cases strict : ofDigits? text with
    | none =>
        rw [strict] at same
        exact Or.inr (ofHex?_eq_none_iff.mp same)
    | some color => exact Or.inl (ofDigits?_eq_some_iff.mp strict).1.2.2
  · intro plain
    rcases plain with ascii | unspelled
    · exact ofHex?_eq_ofDigits?_of_hexDigits ascii
    · rw [ofHex?_eq_none_iff.mpr unspelled, ofDigits?]
      refine (if_neg ?_).symm
      rintro ⟨shortest, longest, ascii⟩
      exact unspelled _ (Spells.of_hexDigits shortest longest ascii)

/-- A brown, with two places that do not count. -/
def brown : Text := Text.ofString "#2A211Cff"

theorem ofHex?_eq_ofDigits?_iff_brown :
    IsHex (places brown) ∧ ofDigits? brown = some ⟨42, 33, 28⟩ ∧
      ofHex? brown = ofDigits? brown ∧ Within ⟨42, 33, 28⟩ 0 255 := by
  have ascii : IsHex (places brown) := by
    decide
  have written : ofDigits? brown = some ⟨42, 33, 28⟩ := by
    decide
  obtain ⟨-, -, within, agree⟩ := ofHex?_eq_ofDigits?_iff brown
  exact ⟨ascii, written, agree.mpr (Or.inl ascii), within _ written⟩

/-- A sign takes the place of a digit, so three parts of -1 are read. -/
theorem ofHex?_ne_ofDigits?_signed :
    ofHex? (Text.ofString "#-1-1-1") = some ⟨-1, -1, -1⟩ ∧
      ofDigits? (Text.ofString "#-1-1-1") = none := by
  decide

end Rgb

end Keychart
