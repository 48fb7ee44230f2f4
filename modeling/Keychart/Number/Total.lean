/-!
# Totals

The total of a list of natural numbers.
-/

namespace Keychart.Number

def total : List Nat → Nat
  | [] => 0
  | n :: ns => n + total ns

theorem total_nil : total [] = 0 := rfl

theorem total_cons (n : Nat) (ns : List Nat) : total (n :: ns) = n + total ns := rfl

theorem total_append (ms ns : List Nat) : total (ms ++ ns) = total ms + total ns := by
  induction ms with
  | nil => simp only [List.nil_append, total_nil, Nat.zero_add]
  | cons m ms ih => simp only [List.cons_append, total_cons, ih, Nat.add_assoc]

end Keychart.Number
