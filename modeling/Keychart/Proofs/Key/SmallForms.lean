import Keychart.Unicode.Case

/-!
# Small forms are small

The small form of a letter has no other small form.  The small forms and the letters that
have one are two sets of code points, kept as the bits of two numbers that share none.
-/

namespace Keychart.Unicode

def smallBlocks : List Progression :=
  smallForms.map fun form =>
    ⟨(form.1.first + form.2).toNat, (form.1.last + form.2).toNat, form.1.stride⟩

def bitsOf (codes : List Nat) : Nat :=
  codes.foldr (fun code bits => bits ||| 1 <<< code) 0

def Progression.bits (p : Progression) : Nat :=
  bitsOf (List.range' p.first ((p.last - p.first) / p.stride + 1) p.stride)

def allBits (blocks : List Progression) : Nat :=
  blocks.foldr (fun p bits => bits ||| p.bits) 0

private theorem testBit_bitsOf
    {codes : List Nat} {code : Nat} (member : code ∈ codes) :
    (bitsOf codes).testBit code = true := by
  induction codes with
  | nil => cases member
  | cons first rest inductionHypothesis =>
      change (bitsOf rest ||| 1 <<< first).testBit code = true
      rw [Nat.testBit_or, Bool.or_eq_true, Nat.one_shiftLeft]
      rcases List.mem_cons.mp member with rfl | later
      · exact .inr Nat.testBit_two_pow_self
      · exact .inl (inductionHypothesis later)

private theorem Progression.testBit_bits
    {p : Progression} {code : Nat} (inside : p.holds code = true) :
    p.bits.testBit code = true := by
  simp only [holds, Bool.and_eq_true, decide_eq_true_eq] at inside
  obtain ⟨⟨lower, upper⟩, step⟩ := inside
  apply testBit_bitsOf
  rw [List.mem_range']
  refine ⟨(code - p.first) / p.stride, ?_, ?_⟩
  · exact Nat.lt_succ_of_le (Nat.div_le_div_right (Nat.sub_le_sub_right upper _))
  · rw [Nat.mul_div_cancel' (Nat.dvd_of_mod_eq_zero step)]
    omega

private theorem testBit_allBits
    {blocks : List Progression} {p : Progression} (member : p ∈ blocks)
    {code : Nat} (inside : p.holds code = true) :
    (allBits blocks).testBit code = true := by
  induction blocks with
  | nil => cases member
  | cons first rest inductionHypothesis =>
      change (allBits rest ||| first.bits).testBit code = true
      rw [Nat.testBit_or, Bool.or_eq_true]
      rcases List.mem_cons.mp member with rfl | later
      · exact .inr (Progression.testBit_bits inside)
      · exact .inl (inductionHypothesis later)

/-- No small form is a letter with a small form. -/
theorem allBits_smallBlocks_apart :
    allBits smallBlocks &&& allBits (smallForms.map Prod.fst) = 0 := by
  decide +kernel

private theorem holds_eq_false_of_mem_smallBlocks
    {p : Progression} (member : p ∈ smallBlocks) {code : Nat} (inside : p.holds code = true)
    {form : Progression × Int} (other : form ∈ smallForms) :
    form.1.holds code = false := by
  rw [← Bool.not_eq_true]
  intro both
  have none := congrArg (fun bits => bits.testBit code) allBits_smallBlocks_apart
  rw [Nat.testBit_and, testBit_allBits member inside,
    testBit_allBits (List.mem_map_of_mem (f := Prod.fst) other) both, Nat.zero_testBit] at none
  cases none

/-- No small form is a capital letter of ASCII or the dotted capital I. -/
theorem ends_of_mem_smallBlocks :
    ∀ p ∈ smallBlocks, 0x60 < p.first ∧ (p.last < 0x130 ∨ 0x130 < p.first) := by
  decide +kernel

private theorem fold_of_mem_smallBlocks
    {p : Progression} (member : p ∈ smallBlocks) {c : Char} (inside : p.holds c.toNat = true) :
    fold c = c := by
  obtain ⟨above, dotless⟩ := ends_of_mem_smallBlocks p member
  have none : (smallForms.find? fun form => form.1.holds c.toNat) = none := by
    rw [List.find?_eq_none]
    intro form other
    rw [holds_eq_false_of_mem_smallBlocks member inside other]
    exact Bool.false_ne_true
  simp only [Progression.holds, Bool.and_eq_true, decide_eq_true_eq] at inside
  unfold fold
  dsimp only
  split
  · rw [if_neg (by simp only [Bool.and_eq_true, decide_eq_true_eq]; omega)]
  · rw [if_neg (by omega)]
    split
    · next found => cases none.symm.trans found
    · rfl

private theorem toNat_ofNat_or (code : Nat) :
    (Char.ofNat code).toNat = code ∨ Char.ofNat code = '\x00' := by
  by_cases valid : code.isValidChar
  · left
    rw [Char.ofNat, dif_pos valid]
    rfl
  · right
    rw [Char.ofNat, dif_neg valid]
    rfl

/-- What a character beyond ASCII is folded to. -/
theorem fold_cases {c : Char} (beyond : 0x80 ≤ c.toNat) :
    fold c = c ∨ fold c = 'i' ∨ fold c = '\x00' ∨
      ∃ p ∈ smallBlocks, p.holds (fold c).toNat = true := by
  unfold fold
  dsimp only
  rw [if_neg (by omega)]
  split
  · exact .inr (.inl rfl)
  · split
    · next form distance found =>
        have member := List.mem_of_find?_eq_some found
        have inside := List.find?_some found
        have inBlocks := List.mem_map_of_mem (f := fun form : Progression × Int =>
          (⟨(form.1.first + form.2).toNat, (form.1.last + form.2).toNat, form.1.stride⟩ :
            Progression)) member
        rcases toNat_ofNat_or (c.toNat + distance).toNat with same | null
        · refine .inr (.inr (.inr ⟨_, inBlocks, ?_⟩))
          have above := (ends_of_mem_smallBlocks _ inBlocks).1
          rw [same]
          simp only [Progression.holds, Bool.and_eq_true, decide_eq_true_eq] at inside above ⊢
          have shifted : (c.toNat + distance).toNat - (form.first + distance).toNat =
              c.toNat - form.first := by omega
          rw [shifted]
          exact ⟨by omega, inside.2⟩
        · exact .inr (.inr (.inl null))
    · exact .inl rfl

private theorem fold_ascii :
    ∀ code < 0x80, fold (fold (Char.ofNat code)) = fold (Char.ofNat code) ∧
      (fold (Char.ofNat code) = '+' → Char.ofNat code = '+') := by
  decide

private theorem fold_fold (c : Char) : fold (fold c) = fold c := by
  by_cases ascii : c.toNat < 0x80
  · have checked := (fold_ascii c.toNat ascii).1
    rwa [Char.ofNat_toNat] at checked
  · rcases fold_cases (Nat.le_of_not_lt ascii) with same | dotted | null | ⟨p, member, inside⟩
    · rw [same, same]
    · rw [dotted]
      decide
    · rw [null]
      decide
    · exact fold_of_mem_smallBlocks member inside

private theorem eq_plus_of_fold {c : Char} (plus : fold c = '+') : c = '+' := by
  by_cases ascii : c.toNat < 0x80
  · have checked := (fold_ascii c.toNat ascii).2
    rw [Char.ofNat_toNat] at checked
    exact checked plus
  · rcases fold_cases (Nat.le_of_not_lt ascii) with same | dotted | null | ⟨p, member, inside⟩
    · exact same.symm.trans plus
    · cases dotted.symm.trans plus
    · cases null.symm.trans plus
    · have above := (ends_of_mem_smallBlocks p member).1
      rw [plus] at inside
      simp only [Progression.holds, Bool.and_eq_true, decide_eq_true_eq] at inside
      exact absurd (Nat.lt_of_lt_of_le above inside.1.1) (by decide)

/-- A small form of one character is its own small form. -/
theorem lower_lower {c d : Char} (small : lower c = [d]) : lower d = [d] := by
  unfold lower at small
  split at small
  · cases small
  · obtain rfl : fold c = d := List.cons.inj small |>.1
    have own := fold_fold c
    unfold lower
    split
    · next dotted =>
        -- The dotted capital I is folded to another letter, so nothing is folded to it.
        have letter : fold (fold c) = 'i' := by
          generalize fold c = d at dotted
          rw [← Char.ofNat_toNat d, dotted]
          decide
        rw [own] at letter
        rw [letter] at dotted
        cases dotted
    · rw [own]

theorem eq_plus_of_mem_lower {c : Char} (member : '+' ∈ lower c) : c = '+' := by
  unfold lower at member
  split at member
  · exact absurd member (by decide)
  · exact eq_plus_of_fold (List.mem_singleton.mp member).symm

end Keychart.Unicode
