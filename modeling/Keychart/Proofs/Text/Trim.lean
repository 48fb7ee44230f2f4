import Keychart.Text.Trim
import Mathlib.Data.List.DropRight

/-!
# Trimmed texts

A text is its own trimmed form exactly when no white space stands at its front
or at its back.  What is written in front of such a text or behind it is trimmed
away or stays as a whole.
-/

namespace Keychart.Text

open Unicode

/-- Whether no white space stands at either end of a text. -/
structure Trimmed (text : Text) : Prop where
  front : trimStart text = text
  back : trimEnd text = text

theorem ne_of_isBlank {c d : Char} (blank : isBlank c = true) (visible : isBlank d = false) :
    c ≠ d := by
  rintro rfl
  rw [blank] at visible
  cases visible

private theorem trimStart_eq_dropWhile (text : Text) :
    trimStart text = text.dropWhile isBlank := rfl

theorem length_trimStart_le (text : Text) :
    (trimStart text).length ≤ text.length :=
  (List.dropWhile_sublist isBlank).length_le

theorem trimEnd_begins (text : Text) : trimEnd text <+: text :=
  List.rdropWhile_prefix isBlank text

theorem length_trimEnd_le (text : Text) :
    (trimEnd text).length ≤ text.length :=
  (trimEnd_begins text).length_le

theorem trimFront_subset (p : Char → Bool) (text : Text) : trimFront p text ⊆ text :=
  (List.dropWhile_sublist p).subset

theorem trimEnd_subset (text : Text) : trimEnd text ⊆ text :=
  (trimEnd_begins text).subset

theorem trim_subset (text : Text) : trim text ⊆ text :=
  List.Subset.trans (trimEnd_subset _) (trimFront_subset _ text)

theorem trim_eq_self_iff {text : Text} : trim text = text ↔ Trimmed text := by
  constructor
  · intro same
    have lengths := congrArg List.length same
    have startLe := length_trimStart_le text
    have endLe := length_trimEnd_le (trimStart text)
    rw [trim] at lengths
    have front : trimStart text = text :=
      (List.dropWhile_sublist isBlank).eq_of_length (by
        change (trimStart text).length = text.length
        omega)
    refine ⟨front, ?_⟩
    rw [trim, front] at same
    exact same
  · intro trimmed
    rw [trim, trimmed.front, trimmed.back]

theorem trimStart_cons_of_isBlank {c : Char} (blank : isBlank c = true)
    (text : Text) :
    trimStart (c :: text) = trimStart text := by
  rw [trimStart_eq_dropWhile, List.dropWhile_cons_of_pos blank]
  rfl

theorem trimStart_cons_of_not_isBlank {c : Char} (visible : isBlank c = false)
    (text : Text) :
    trimStart (c :: text) = c :: text := by
  rw [trimStart_eq_dropWhile, List.dropWhile_cons_of_neg (by simp [visible])]

theorem trimStart_append_cons
    {front : Text} (blank : ∀ c ∈ front, isBlank c = true) {c : Char}
    (visible : isBlank c = false) (text : Text) :
    trimStart (front ++ c :: text) = c :: text := by
  rw [trimStart_eq_dropWhile, List.dropWhile_append_of_pos blank]
  exact trimStart_cons_of_not_isBlank visible text

/-- A text is trimmed in front where its first character is no white space. -/
theorem trimStart_eq_self_iff {text : Text} :
    trimStart text = text ↔ ∀ c, text.head? = some c → isBlank c = false := by
  cases text with
  | nil => simp [trimStart_eq_dropWhile]
  | cons c text =>
      cases blank : isBlank c with
      | false => simp [trimStart_cons_of_not_isBlank blank, blank]
      | true =>
          rw [trimStart_cons_of_isBlank blank]
          have shorter := length_trimStart_le text
          constructor
          · intro same
            have lengths := congrArg List.length same
            rw [List.length_cons] at lengths
            omega
          · intro visible
            exact absurd rfl (ne_of_isBlank blank (visible c rfl))

theorem Trimmed.head_not_isBlank
    {text : Text} (trimmed : Trimmed text) {c : Char}
    (found : text.head? = some c) :
    isBlank c = false :=
  trimStart_eq_self_iff.mp trimmed.front c found

private theorem trimEnd_concat_of_isBlank {c : Char} (blank : isBlank c = true)
    (text : Text) :
    trimEnd (text ++ [c]) = trimEnd text :=
  List.rdropWhile_concat_pos _ _ _ blank

theorem trimEnd_concat_of_not_isBlank {c : Char} (visible : isBlank c = false)
    (text : Text) :
    trimEnd (text ++ [c]) = text ++ [c] :=
  List.rdropWhile_concat_neg _ _ _ (by simp [visible])

/-- Behind white space alone, what stands in front is trimmed. -/
theorem trimEnd_append_of_eq_nil
    (front : Text) {back : Text} (empty : trimEnd back = []) :
    trimEnd (front ++ back) = trimEnd front := by
  induction back using List.reverseRecOn with
  | nil => rw [List.append_nil]
  | append_singleton back c inductionHypothesis =>
      cases blank : isBlank c with
      | true =>
          rw [trimEnd_concat_of_isBlank blank] at empty
          rw [← List.append_assoc, trimEnd_concat_of_isBlank blank,
            inductionHypothesis empty]
      | false =>
          rw [trimEnd_concat_of_not_isBlank blank] at empty
          exact absurd empty (by simp)

/-- Behind anything else it stays as it is. -/
theorem trimEnd_append_of_ne_nil
    (front : Text) {back : Text} (visible : trimEnd back ≠ []) :
    trimEnd (front ++ back) = front ++ trimEnd back := by
  induction back using List.reverseRecOn with
  | nil => exact absurd rfl visible
  | append_singleton back c inductionHypothesis =>
      rw [← List.append_assoc]
      cases blank : isBlank c with
      | true =>
          rw [trimEnd_concat_of_isBlank blank] at visible
          rw [trimEnd_concat_of_isBlank blank, trimEnd_concat_of_isBlank blank,
            inductionHypothesis visible]
      | false =>
          rw [trimEnd_concat_of_not_isBlank blank,
            trimEnd_concat_of_not_isBlank blank, List.append_assoc]

theorem trimEnd_append_of_trimmed
    (front : Text) {back : Text} (trimmed : trimEnd back = back)
    (nonempty : back ≠ []) :
    trimEnd (front ++ back) = front ++ back := by
  rw [trimEnd_append_of_ne_nil front (by rw [trimmed]; exact nonempty), trimmed]

theorem trimEnd_cons_of_not_isBlank {c : Char} (visible : isBlank c = false)
    (text : Text) :
    trimEnd (c :: text) = c :: trimEnd text := by
  have single : trimEnd [c] = [c] :=
    trimEnd_concat_of_not_isBlank visible []
  by_cases empty : trimEnd text = []
  · rw [← List.singleton_append, trimEnd_append_of_eq_nil [c] empty, single,
      empty]
  · rw [← List.singleton_append, trimEnd_append_of_ne_nil [c] empty,
      List.singleton_append]

theorem trimEnd_trimEnd (text : Text) : trimEnd (trimEnd text) = trimEnd text :=
  List.rdropWhile_idempotent isBlank text

/-! ## Both ends -/

theorem trim_eq_of_trimStart {text rest : Text}
    (start : trimStart text = rest) (trimmed : trimEnd rest = rest) :
    trim text = rest := by
  rw [trim, start, trimmed]

/-- Trimming both ends needs no second look at the back. -/
theorem trim_trimEnd (text : Text) : trim (trimEnd text) = trim text := by
  induction text with
  | nil => rfl
  | cons c text inductionHypothesis =>
      cases blank : isBlank c with
      | false =>
          rw [trimEnd_cons_of_not_isBlank blank, trim,
            trimStart_cons_of_not_isBlank blank, trim,
            trimStart_cons_of_not_isBlank blank,
            trimEnd_cons_of_not_isBlank blank,
            trimEnd_cons_of_not_isBlank blank, trimEnd_trimEnd]
      | true =>
          have whole : trim (c :: text) = trim text := by
            rw [trim, trimStart_cons_of_isBlank blank, trim]
          have gone : trimEnd [c] = [] :=
            trimEnd_concat_of_isBlank blank []
          rw [whole, ← inductionHypothesis]
          by_cases empty : trimEnd text = []
          · rw [← List.singleton_append, trimEnd_append_of_eq_nil [c] empty,
              gone, empty]
          · rw [← List.singleton_append, trimEnd_append_of_ne_nil [c] empty,
              List.singleton_append, trim, trimStart_cons_of_isBlank blank,
              trim]

theorem trim_trim (text : Text) : trim (trim text) = trim text := by
  have idempotent : trimStart (trimStart text) = trimStart text :=
    List.dropWhile_idempotent isBlank text
  have again : trim (trim text) = trim (trimStart text) :=
    trim_trimEnd (trimStart text)
  rw [again, trim, idempotent, trim]

theorem trimmed_trim (text : Text) : Trimmed (trim text) :=
  trim_eq_self_iff.mp (trim_trim text)

/-- A space in front of a trimmed text is trimmed away. -/
theorem trim_space_cons {text : Text} (trimmed : Trimmed text) :
    trim (' ' :: text) = text := by
  apply trim_eq_of_trimStart _ trimmed.back
  rw [trimStart_cons_of_isBlank (by decide), trimmed.front]

theorem exists_trimStart (text : Text) :
    ∃ front, text = front ++ trimStart text ∧ ∀ c ∈ front, isBlank c = true :=
  ⟨text.takeWhile isBlank, List.takeWhile_append_dropWhile.symm,
    fun _ member => List.mem_takeWhile_imp member⟩

theorem exists_trimEnd (text : Text) :
    ∃ back, text = trimEnd text ++ back ∧ ∀ c ∈ back, isBlank c = true := by
  refine ⟨text.rtakeWhile isBlank, List.rdropWhile_append_rtakeWhile.symm, ?_⟩
  exact fun _ member => List.mem_rtakeWhile_imp member

theorem exists_trim (text : Text) :
    ∃ front back, text = front ++ trim text ++ back ∧
      (∀ c ∈ front, isBlank c = true) ∧ ∀ c ∈ back, isBlank c = true := by
  obtain ⟨front, whole, frontBlank⟩ := exists_trimStart text
  obtain ⟨back, rest, backBlank⟩ := exists_trimEnd (trimStart text)
  refine ⟨front, back, ?_, frontBlank, backBlank⟩
  rw [List.append_assoc, trim, ← rest]
  exact whole

theorem head?_of_begins {front text : Text} (begins : front <+: text) {c : Char}
    (found : front.head? = some c) : text.head? = some c := by
  obtain ⟨back, rfl⟩ := begins
  rw [List.head?_append]
  exact Option.or_eq_some_iff.mpr (Or.inl found)

/-- What a trimmed text begins with has no white space in front. -/
theorem Trimmed.trimEnd_of_begins
    {front text : Text} (trimmed : Trimmed text) (begins : front <+: text) :
    Trimmed (trimEnd front) := by
  refine ⟨trimStart_eq_self_iff.mpr ?_, trimEnd_trimEnd front⟩
  intro c found
  exact trimmed.head_not_isBlank (head?_of_begins ((trimEnd_begins front).trans begins) found)

theorem trim_eq_nil_iff {text : Text} : trim text = [] ↔ ∀ c ∈ text, isBlank c = true := by
  constructor
  · intro empty
    obtain ⟨front, back, whole, frontBlank, backBlank⟩ := exists_trim text
    rw [whole, empty, List.append_nil]
    exact List.forall_mem_append.mpr ⟨frontBlank, backBlank⟩
  · intro blank
    have start : trimStart text = [] := List.dropWhile_eq_nil_iff.mpr blank
    rw [trim, start]
    rfl

theorem trim_ne_nil_of_mem {text : Text} {c : Char} (member : c ∈ text)
    (visible : isBlank c = false) : trim text ≠ [] := by
  intro empty
  exact ne_of_isBlank (trim_eq_nil_iff.mp empty c member) visible rfl

end Keychart.Text
