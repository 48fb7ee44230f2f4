import Keychart.Number.Binary

/-!
# How far rounding goes

Rounding to the leading places moves a number by at most one part in twice as
many as the first of these places stands for.
-/

namespace Keychart.Number

private theorem twoPow_pos (n : Nat) : 0 < twoPow n := Nat.pow_pos Nat.two_pos

private theorem twoPow_add (m n : Nat) : twoPow (m + n) = twoPow m * twoPow n :=
  Nat.pow_add 2 m n

/-- The nearest multiple lies no farther off than half of the denominator. -/
theorem divNearestEven_near (numerator : Nat) {denominator : Nat}
    (positive : 0 < denominator) :
    2 * (divNearestEven numerator denominator * denominator) ≤
        2 * numerator + denominator ∧
      2 * numerator ≤
        2 * (divNearestEven numerator denominator * denominator) + denominator := by
  have whole := Nat.div_add_mod numerator denominator
  have rest := Nat.mod_lt numerator positive
  rw [Nat.mul_comm] at whole
  unfold divNearestEven
  dsimp only
  split
  next up =>
    rw [Bool.or_eq_true, Bool.and_eq_true, decide_eq_true_eq, decide_eq_true_eq] at up
    rw [Nat.add_mul, Nat.one_mul]
    omega
  next down =>
    rw [Bool.or_eq_true, Bool.and_eq_true, decide_eq_true_eq, decide_eq_true_eq] at down
    omega

private theorem divNearestEven_one (n : Nat) : divNearestEven n 1 = n := by
  simp [divNearestEven, Nat.mod_one]

private theorem roundNat_near (n : Nat) :
    twoPow precision * roundNat n ≤ twoPow precision * n + n ∧
      twoPow precision * n ≤ twoPow precision * roundNat n + n := by
  rcases Nat.lt_or_ge n.log2 precision with short | long
  · -- All places are kept.
    have unit : n.log2 + 1 - precision = 0 := by omega
    have same : roundNat n = n := by
      rw [roundNat, unit]
      exact (Nat.mul_one _).trans (divNearestEven_one n)
    rw [same]
    omega
  · have nonzero : n ≠ 0 := by
      rintro rfl
      exact absurd long (by decide)
    obtain ⟨extra, lead⟩ : ∃ extra, n.log2 = 52 + extra := ⟨n.log2 - 52, by
      simp only [precision] at long
      omega⟩
    have unit : n.log2 + 1 - precision = extra := by
      simp only [precision]
      omega
    have unitLe : twoPow 52 * twoPow extra ≤ n := by
      rw [← twoPow_add, ← lead]
      exact Nat.log2_self_le nonzero
    have near := divNearestEven_near n (twoPow_pos extra)
    have leading : twoPow 52 = 4503599627370496 := rfl
    have all : twoPow precision = 9007199254740992 := rfl
    rw [leading] at unitLe
    rw [roundNat, unit, all]
    omega

theorem roundInt_near {n : Int} (natural : 0 ≤ n) :
    twoPow precision * roundInt n ≤ twoPow precision * n + n ∧
      twoPow precision * n ≤ twoPow precision * roundInt n + n := by
  obtain ⟨m, rfl⟩ := Int.eq_ofNat_of_zero_le natural
  have near := roundNat_near m
  have rounded : roundInt m = roundNat m := rfl
  have all : twoPow precision = 9007199254740992 := rfl
  rw [all] at near ⊢
  rw [rounded]
  omega

theorem roundInt_nonpos {n : Int} (nonpos : n ≤ 0) : roundInt n ≤ 0 := by
  cases n with
  | ofNat n =>
      obtain rfl : n = 0 := by
        rw [Int.ofNat_eq_natCast] at nonpos
        omega
      exact Int.le_refl 0
  | negSucc n =>
      rw [roundInt, Int.ofNat_eq_natCast]
      omega

end Keychart.Number
