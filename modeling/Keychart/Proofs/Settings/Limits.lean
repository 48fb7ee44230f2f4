import Keychart.Proofs.Settings.Remainder
import Keychart.Proofs.Text.Lines
import Mathlib.Data.List.Infix
import Mathlib.Data.Nat.Digits.Defs
import Mathlib.Tactic.Ring

/-!
# Documents within the limits

A document is refused as malformed or read, unless it goes beyond a limit: an integer
has too many digits, or values nest too deep.  The brackets of a text bound how deep
its values nest, and its runs of digits bound its integers, and what a reader leaves
has no more of either.
-/

namespace Keychart.Settings.Toml

variable {text rest : Text} {room : Nat} {limit : Limit}

/-- No run of digits is too long for an integer.  Underscores do not end a run. -/
def ShortRuns (text : Text) : Prop :=
  ∀ run, run <:+: text → (∀ c ∈ run, isAsciiDigit c = true ∨ c = '_') →
    run.countP isAsciiDigit ≤ maxDigits

private theorem ShortRuns.of_suffix (short : ShortRuns text) (suffix : rest <:+ text) :
    ShortRuns rest :=
  fun run inside => short run (inside.trans suffix.isInfix)

theorem shortRuns_of_countP_le (few : text.countP isAsciiDigit ≤ maxDigits) : ShortRuns text :=
  fun _ inside _ => inside.sublist.countP_le.trans few

private theorem digit_le_nine {c : Char} (digit : isAsciiDigit c = true) : c.toNat - 0x30 ≤ 9 := by
  simp only [isAsciiDigit, Bool.and_eq_true, decide_eq_true_eq] at digit
  have most : c.toNat ≤ '9'.toNat := digit.2
  have nine : '9'.toNat = 0x39 := rfl
  omega

private theorem foldl_decimal_lt
    {digits : Text} (known : ∀ c ∈ digits, isAsciiDigit c = true) (value : Nat) :
    digits.foldl (fun n c => 10 * n + (c.toNat - 0x30)) value <
      (value + 1) * 10 ^ digits.length := by
  induction digits generalizing value with
  | nil => simp
  | cons c digits inductionHypothesis =>
      obtain ⟨digit, others⟩ := List.forall_mem_cons.mp known
      have least := digit_le_nine digit
      calc
        _ < (10 * value + (c.toNat - 0x30) + 1) * 10 ^ digits.length :=
          inductionHypothesis others _
        _ ≤ (10 * (value + 1)) * 10 ^ digits.length := Nat.mul_le_mul_right _ (by omega)
        _ = (value + 1) * 10 ^ (c :: digits).length := by
          rw [List.length_cons]
          ring

/-- A number has no more digits than are written. -/
theorem length_toDigits_decimalValue_le
    {digits : Text} (known : ∀ c ∈ digits, isAsciiDigit c = true) (some : digits ≠ []) :
    (Nat.toDigits 10 (decimalValue digits)).length ≤ digits.length := by
  have small := foldl_decimal_lt known 0
  rw [Nat.zero_add, Nat.one_mul] at small
  exact Nat.toDigits_length 10 _ _ (List.length_pos_iff.mpr some) small

/-- The digits of a whole number stand in one run. -/
theorem exists_run_of_wholeDigits (text : Text) :
    ∃ run, text = run ++ (wholeDigits text).2 ∧
      (∀ c ∈ run, isAsciiDigit c = true ∨ c = '_') ∧
      (wholeDigits text).1.Sublist (run.filter isAsciiDigit) := by
  unfold wholeDigits
  split
  · exact ⟨['0'], rfl, List.forall_mem_singleton.mpr (Or.inl rfl), List.Sublist.refl _⟩
  · exact exists_run_of_digitsAfter isAsciiDigit false _

private theorem decimalNumber?_integer
    {n : Int} (read : decimalNumber? text = some (.integer n, rest)) :
    (wholeDigits (takeSign text).2).1 ≠ [] ∧
      n.natAbs = decimalValue (wholeDigits (takeSign text).2).1 := by
  simp only [decimalNumber?] at read
  split at read
  · cases read
  · next whole behind some digits =>
      have nonempty : whole ≠ [] := by
        rintro rfl
        exact some rfl
      rw [digits]
      split at read
      · cases read
        refine ⟨nonempty, ?_⟩
        split
        · exact Int.natAbs_neg _
        · rfl
      · cases read

/-- An integer of a text without long runs is written with few enough digits. -/
theorem length_toDigits_le
    (short : ShortRuns text) {n : Int}
    (read : decimalNumber? text = some (.integer n, rest)) :
    (Nat.toDigits 10 n.natAbs).length ≤ maxDigits := by
  obtain ⟨some, value⟩ := decimalNumber?_integer read
  obtain ⟨run, whole, known, digits⟩ := exists_run_of_wholeDigits (takeSign text).2
  have inside : run <:+: text :=
    List.IsInfix.trans ⟨[], _, whole.symm⟩ (takeSign_suffix text).isInfix
  have all : ∀ c ∈ (wholeDigits (takeSign text).2).1, isAsciiDigit c = true :=
    fun c member => (List.mem_filter.mp (digits.subset member)).2
  calc
    (Nat.toDigits 10 n.natAbs).length
      ≤ (wholeDigits (takeSign text).2).1.length := by
        rw [value]
        exact length_toDigits_decimalValue_le all some
    _ ≤ (run.filter isAsciiDigit).length := digits.length_le
    _ = run.countP isAsciiDigit := List.countP_eq_length_filter.symm
    _ ≤ maxDigits := short run inside known

section Outcomes

variable {α : Type}

private theorem ok_ne_beyond (a : α) : (Except.ok a : Except Flaw α) ≠ .error (.beyond limit) := by
  intro same
  cases same

private theorem malformed_ne_beyond :
    (Except.error Flaw.malformed : Except Flaw α) ≠ .error (.beyond limit) := by
  intro same
  cases same

private theorem map_ne_beyond
    {β : Type} {read : Except Flaw α} (within : read ≠ .error (.beyond limit)) (f : α → β) :
    read.map f ≠ .error (.beyond limit) := by
  cases read with
  | error flaw => exact fun same => within (congrArg Except.error (Except.error.inj same))
  | ok a => exact ok_ne_beyond (f a)

private theorem orMalformed_ne_beyond (found : Option α) :
    orMalformed found ≠ .error (.beyond limit) := by
  cases found with
  | none => exact malformed_ne_beyond
  | some found => exact ok_ne_beyond found

end Outcomes

private theorem number_ne_beyond
    (short : ShortRuns text) : number text ≠ .error (.beyond limit) := by
  unfold number
  split
  · exact ok_ne_beyond _
  · split
    · next decimal =>
        have few := length_toDigits_le short decimal
        simp only
        rw [if_neg (Nat.not_lt_of_le few)]
        exact ok_ne_beyond _
    · exact ok_ne_beyond _
    · exact orMalformed_ne_beyond _

private theorem scalar_ne_beyond
    (short : ShortRuns text) : scalar text ≠ .error (.beyond limit) := by
  unfold scalar
  split
  · exact ok_ne_beyond _
  · split
    · exact malformed_ne_beyond
    · exact malformed_ne_beyond
    · exact ok_ne_beyond _
    · exact ok_ne_beyond _
    · split
      · exact ok_ne_beyond _
      · exact malformed_ne_beyond
      · exact number_ne_beyond short

/-! ## Nesting -/

/-- The room that the brackets of a text take if each of them opens a value inside the
one before. -/
def nesting (text : Text) : Nat := 2 * text.count '[' + 3 * text.count '\x7b'

private theorem nesting_le_of_suffix (suffix : rest <:+ text) : nesting rest ≤ nesting text :=
  Nat.add_le_add (Nat.mul_le_mul_left 2 (suffix.sublist.count_le '['))
    (Nat.mul_le_mul_left 3 (suffix.sublist.count_le '\x7b'))

private theorem nesting_bracket (rest : Text) : nesting ('[' :: rest) = nesting rest + 2 := by
  rw [nesting, List.count_cons_self, List.count_cons_of_ne (by decide), nesting]
  ring

private theorem nesting_brace (rest : Text) : nesting ('\x7b' :: rest) = nesting rest + 3 := by
  rw [nesting, List.count_cons_self, List.count_cons_of_ne (by decide), nesting]
  ring

/-- A text whose values nest within the room and whose integers are short. -/
structure Fits (room : Nat) (text : Text) : Prop where
  nests : nesting text ≤ room
  short : ShortRuns text

private theorem Fits.of_suffix (fits : Fits room text) (suffix : rest <:+ text) : Fits room rest :=
  ⟨(nesting_le_of_suffix suffix).trans fits.nests, fits.short.of_suffix suffix⟩

private theorem Fits.exists_of_bracket (fits : Fits room ('[' :: rest)) :
    ∃ inner, room = inner + 2 ∧ Fits inner rest := by
  have nests := nesting_bracket rest ▸ fits.nests
  obtain ⟨inner, rfl⟩ := Nat.exists_eq_add_of_le' ((Nat.le_add_left 2 _).trans nests)
  exact ⟨inner, rfl, Nat.le_of_add_le_add_right nests,
    fits.short.of_suffix (List.suffix_cons _ _)⟩

private theorem Fits.exists_of_brace (fits : Fits room ('\x7b' :: rest)) :
    ∃ inner, room = inner + 3 ∧ Fits inner rest := by
  have nests := nesting_brace rest ▸ fits.nests
  obtain ⟨inner, rfl⟩ := Nat.exists_eq_add_of_le' ((Nat.le_add_left 3 _).trans nests)
  exact ⟨inner, rfl, Nat.le_of_add_le_add_right nests,
    fits.short.of_suffix (List.suffix_cons _ _)⟩

/-- With some fuel the readers of values go beyond no limit on a text that fits. -/
structure StayWithin (fuel : Nat) : Prop where
  value : ∀ {room text limit}, Fits room text →
    Toml.value fuel room text ≠ .error (.beyond limit)
  items : ∀ {room text limit}, Fits room text →
    Toml.items fuel room text ≠ .error (.beyond limit)
  pairs : ∀ {room members text limit}, Fits room text →
    Toml.pairs fuel room members text ≠ .error (.beyond limit)
  pair : ∀ {room text limit}, Fits room text →
    Toml.pair fuel room text ≠ .error (.beyond limit)

namespace StayWithin

variable {fuel : Nat} (within : StayWithin fuel)

include within

theorem value_succ (fits : Fits room text) :
    Toml.value (fuel + 1) room text ≠ .error (.beyond limit) := by
  rcases front_cases text with ⟨behind, rfl⟩ | ⟨behind, rfl⟩ | ⟨noList, noTable⟩
  · obtain ⟨inner, rfl, inside⟩ := fits.exists_of_bracket
    rw [value_bracket]
    exact map_ne_beyond (within.items inside) _
  · obtain ⟨inner, rfl, inside⟩ := fits.exists_of_brace
    have space := inside.of_suffix (skipSpace_suffix behind)
    rcases value_brace_cases fuel inner behind with ⟨left, -, empty⟩ | some
    · rw [empty]
      exact ok_ne_beyond _
    · rw [some]
      exact map_ne_beyond (within.pairs space) _
  · rw [value_scalar noList noTable]
    exact scalar_ne_beyond fits.short

theorem items_succ (fits : Fits room text) :
    Toml.items (fuel + 1) room text ≠ .error (.beyond limit) := by
  rw [Toml.items]
  split
  · exact malformed_ne_beyond
  · exact ok_ne_beyond _
  · next filler =>
      have start := fits.of_suffix (skipFiller?_suffix filler)
      split
      · next failed =>
          intro beyond
          cases beyond
          exact within.value start failed
      · next inside =>
          have front := start.of_suffix ((leaveEnds fuel).value inside)
          split
          · exact ok_ne_beyond _
          · next more comma =>
              have behind := (List.suffix_cons ',' more).trans (skipFiller?_suffix comma)
              exact map_ne_beyond (within.items (front.of_suffix behind)) _
          · exact malformed_ne_beyond

theorem pairs_succ {members : Members} (fits : Fits room text) :
    Toml.pairs (fuel + 1) room members text ≠ .error (.beyond limit) := by
  rw [Toml.pairs]
  split
  · next failed =>
      intro beyond
      cases beyond
      exact within.pair fits failed
  · next behind inside =>
      have front := fits.of_suffix ((leaveEnds fuel).pair inside)
      split
      · exact malformed_ne_beyond
      · split
        · exact ok_ne_beyond _
        · next more comma =>
            have space : skipSpace more <:+ behind :=
              (skipSpace_suffix more).trans <|
                (List.suffix_cons ',' more).trans (comma ▸ skipSpace_suffix behind)
            exact within.pairs (front.of_suffix space)
        · exact malformed_ne_beyond

theorem pair_succ (fits : Fits room text) :
    Toml.pair (fuel + 1) room text ≠ .error (.beyond limit) := by
  rw [Toml.pair]
  split
  · next behind key =>
      have space : skipSpace behind <:+ text :=
        (skipSpace_suffix behind).trans ((List.suffix_cons _ _).trans (key?_suffix key))
      exact map_ne_beyond (within.value (fits.of_suffix space)) _
  · exact malformed_ne_beyond

end StayWithin

private theorem stayWithin (fuel : Nat) : StayWithin fuel := by
  induction fuel with
  | zero =>
      constructor
      · intro room text limit _
        rw [value]
        exact malformed_ne_beyond
      · intro room text limit _
        rw [items]
        exact malformed_ne_beyond
      · intro room members text limit _
        rw [pairs]
        exact malformed_ne_beyond
      · intro room text limit _
        rw [pair]
        exact malformed_ne_beyond
  | succ fuel within =>
      exact ⟨within.value_succ, within.items_succ, within.pairs_succ, within.pair_succ⟩

private theorem statement_ne_beyond (fits : Fits maxRoom text) :
    statement text ≠ .error (.beyond limit) := by
  unfold statement
  split
  · exact orMalformed_ne_beyond _
  · exact orMalformed_ne_beyond _
  · exact map_ne_beyond ((stayWithin _).pair fits) _

private theorem statements_ne_beyond (fuel : Nat) (d : Document) (fits : Fits maxRoom text) :
    statements fuel d text ≠ .error (.beyond limit) := by
  induction fuel generalizing d text with
  | zero => exact malformed_ne_beyond
  | succ fuel inductionHypothesis =>
      have visible := fits.of_suffix (skipSpace_suffix text)
      rw [statements]
      split
      · exact ok_ne_beyond _
      · next rest found =>
          rw [found] at visible
          exact inductionHypothesis d (visible.of_suffix (List.suffix_cons _ _))
      · next rest found =>
          rw [found] at visible
          split
          · next ended =>
              exact inductionHypothesis d (visible.of_suffix (endOfLine?_suffix ended))
          · exact malformed_ne_beyond
      · next c rest _ _ found =>
          rw [found] at visible
          split
          · split
            · next failed =>
                intro beyond
                cases beyond
                exact statement_ne_beyond visible failed
            · next read =>
                have behind := visible.of_suffix (statement_suffix read)
                split
                · next ended =>
                    exact inductionHypothesis _ (behind.of_suffix (endOfLine?_suffix ended))
                · exact malformed_ne_beyond
          · exact malformed_ne_beyond

theorem parse_ne_beyond (fits : Fits maxRoom (unixNewlines text)) :
    parse text ≠ .error (.beyond limit) :=
  map_ne_beyond (statements_ne_beyond _ {} fits) _

theorem unixNewlines_eq_self (noReturn : '\r' ∉ text) : unixNewlines text = text := by
  fun_induction unixNewlines text with
  | case1 => rfl
  | case2 text => exact absurd List.mem_cons_self noReturn
  | case3 c text _ inductionHypothesis =>
      exact congrArg (c :: ·) (inductionHypothesis (List.not_mem_of_not_mem_cons noReturn))

end Keychart.Settings.Toml
