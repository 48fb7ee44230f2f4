import Keychart.Key.Split
import Mathlib.Data.List.Basic

/-!
# Marks in a text

Where a mark stands first, and marks that cannot overlap: such a mark at the end
of a text is its only one if the text in front of it holds none.
-/

namespace Keychart.Text

theorem dropMark?_append (mark rest : Text) :
    dropMark? mark (mark ++ rest) = some rest := by
  induction mark with
  | nil => exact dropMark?.eq_1 rest
  | cons m mark inductionHypothesis =>
      rw [List.cons_append, dropMark?, if_pos rfl]
      exact inductionHypothesis

theorem eq_append_of_dropMark?
    {mark text rest : Text} (found : dropMark? mark text = some rest) :
    text = mark ++ rest := by
  induction mark generalizing text with
  | nil =>
      rw [dropMark?] at found
      exact Option.some.inj found
  | cons m mark inductionHypothesis =>
      cases text with
      | nil => cases found
      | cons c text =>
          rw [dropMark?] at found
          by_cases same : m = c
          · rw [if_pos same] at found
            rw [inductionHypothesis found, same, List.cons_append]
          · rw [if_neg same] at found
            cases found

theorem splitAtMark?_append (mark rest : Text) :
    splitAtMark? mark (mark ++ rest) = some ([], rest) := by
  have found := dropMark?_append mark rest
  cases whole : mark ++ rest with
  | nil =>
      rw [whole] at found
      rw [splitAtMark?, found, Option.map_some]
  | cons c text =>
      rw [whole] at found
      rw [splitAtMark?, found]

theorem eq_append_of_splitAtMark?
    {mark text front rest : Text}
    (found : splitAtMark? mark text = some (front, rest)) :
    text = front ++ mark ++ rest := by
  induction text generalizing front with
  | nil =>
      obtain ⟨tail, dropped, same⟩ := Option.map_eq_some_iff.mp found
      cases same
      exact eq_append_of_dropMark? dropped
  | cons c text inductionHypothesis =>
      rw [splitAtMark?] at found
      cases dropped : dropMark? mark (c :: text) with
      | some tail =>
          rw [dropped] at found
          cases found
          exact eq_append_of_dropMark? dropped
      | none =>
          rw [dropped] at found
          obtain ⟨⟨before, tail⟩, later, same⟩ := Option.map_eq_some_iff.mp found
          cases same
          rw [inductionHypothesis later, List.cons_append, List.cons_append]

private theorem isSome_splitAtMark? {mark text : Text} (occurs : mark <:+: text) :
    (splitAtMark? mark text).isSome := by
  induction text with
  | nil =>
      rw [List.infix_nil.mp occurs]
      rfl
  | cons c text inductionHypothesis =>
      rw [splitAtMark?]
      cases dropped : dropMark? mark (c :: text) with
      | some tail => rfl
      | none =>
          rcases List.infix_cons_iff.mp occurs with ⟨rest, front⟩ | behind
          · rw [← front, dropMark?_append] at dropped
            cases dropped
          · rw [Option.isSome_map]
            exact inductionHypothesis behind

theorem splitAtMark?_eq_none_iff {mark text : Text} :
    splitAtMark? mark text = none ↔ ¬ mark <:+: text := by
  constructor
  · intro missing occurs
    have found := isSome_splitAtMark? occurs
    rw [missing] at found
    cases found
  · intro absent
    cases found : splitAtMark? mark text with
    | none => rfl
    | some parts =>
        exact absurd ⟨parts.1, parts.2, (eq_append_of_splitAtMark? found).symm⟩ absent

theorem dropMark?_eq_none_iff {mark text : Text} :
    dropMark? mark text = none ↔ ¬ mark <+: text := by
  constructor
  · intro missing begins
    obtain ⟨rest, same⟩ := begins
    have found := dropMark?_append mark rest
    rw [same, missing] at found
    cases found
  · intro absent
    cases found : dropMark? mark text with
    | none => rfl
    | some rest => exact absurd ⟨rest, (eq_append_of_dropMark? found).symm⟩ absent

/-- The first mark of a text is also that of a front that holds all of it. -/
theorem splitAtMark?_of_front
    {mark front rest before behind : Text}
    (found : splitAtMark? mark (front ++ rest) = some (before, behind))
    (reaches : before.length + mark.length ≤ front.length) :
    ∃ left, splitAtMark? mark front = some (before, left) := by
  induction front generalizing before with
  | nil =>
      obtain ⟨nothing, noMark⟩ : before = [] ∧ mark = [] := by simpa using reaches
      rw [nothing, noMark]
      exact ⟨[], splitAtMark?_append [] []⟩
  | cons c front inductionHypothesis =>
      rw [List.cons_append, splitAtMark?] at found
      cases dropped : dropMark? mark (c :: (front ++ rest)) with
      | some tail =>
          rw [dropped] at found
          obtain ⟨rfl, -⟩ := Prod.mk.inj (Option.some.inj found)
          have whole : mark <+: c :: front ++ rest :=
            ⟨tail, (eq_append_of_dropMark? dropped).symm⟩
          have begins : mark <+: c :: front := by
            apply List.prefix_of_prefix_length_le whole (List.prefix_append _ _)
            simpa using reaches
          obtain ⟨left, same⟩ := begins
          rw [← same]
          exact ⟨left, splitAtMark?_append mark left⟩
      | none =>
          rw [dropped] at found
          obtain ⟨⟨earlier, tail⟩, later, same⟩ := Option.map_eq_some_iff.mp found
          obtain ⟨rfl, rfl⟩ := Prod.mk.inj same
          rw [List.length_cons, List.length_cons] at reaches
          have shorter : earlier.length + mark.length ≤ front.length := by omega
          obtain ⟨left, inFront⟩ := inductionHypothesis later shorter
          have absent : ¬ mark <+: c :: front := fun begins =>
            dropMark?_eq_none_iff.mp dropped (begins.trans (List.prefix_append _ _))
          rw [splitAtMark?, dropMark?_eq_none_iff.mpr absent, inFront]
          exact ⟨left, rfl⟩

/-- A mark is found behind a text without the character that it begins with. -/
theorem splitAtMark?_append_of_not_mem
    {c : Char} {mark front : Text} (begins : mark.head? = some c) (absent : c ∉ front)
    (rest : Text) :
    splitAtMark? mark (front ++ (mark ++ rest)) = some (front, rest) := by
  induction front with
  | nil => exact splitAtMark?_append mark rest
  | cons first front inductionHypothesis =>
      have later := inductionHypothesis fun member => absent (List.mem_cons_of_mem first member)
      have different : c ≠ first := fun same => absent (same ▸ List.mem_cons_self)
      obtain ⟨tail, rfl⟩ := List.head?_eq_some_iff.mp begins
      rw [List.cons_append, splitAtMark?, dropMark?, if_neg different, later]
      rfl

theorem splitAtMark?_of_not_mem
    {c : Char} {mark text : Text} (inside : c ∈ mark) (absent : c ∉ text) :
    splitAtMark? mark text = none :=
  splitAtMark?_eq_none_iff.mpr fun occurs => absent (occurs.subset inside)

/-- What stands around a mark holds no more of a character than the text. -/
theorem count_splitAtMark?_le
    {mark text front rest : Text} (found : splitAtMark? mark text = some (front, rest))
    (c : Char) :
    front.count c + rest.count c ≤ text.count c := by
  rw [eq_append_of_splitAtMark? found, List.count_append, List.count_append]
  omega

/-! ## Marks that do not overlap -/

/-- Whether a mark begins with a character that stands in it nowhere else. -/
def LedBy (c : Char) (mark : Text) : Prop :=
  mark.head? = some c ∧ c ∉ mark.tail

instance (c : Char) (mark : Text) : Decidable (LedBy c mark) :=
  inferInstanceAs (Decidable (_ ∧ _))

namespace LedBy

variable {c : Char} {mark last text front rest : Text}

/-- A mark that begins in front of another of its kind ends there too. -/
theorem prefix_of_append (led : LedBy c mark) (lastLed : LedBy c last)
    (begins : text ≠ []) (same : mark ++ rest = text ++ last) :
    mark <+: text := by
  rcases List.append_eq_append_iff.mp same with
    ⟨more, inside, -⟩ | ⟨overlap, past, behind⟩
  · exact ⟨more, inside.symm⟩
  · cases overlap with
    | nil => exact ⟨[], by rw [List.append_nil, past, List.append_nil]⟩
    | cons d overlap =>
        have leads : d = c := by
          have head := lastLed.1
          rw [behind] at head
          exact Option.some.inj head
        have again : c ∈ mark.tail := by
          rw [past, List.tail_append_of_ne_nil begins, leads]
          exact List.mem_append_right text.tail (List.Mem.head overlap)
        exact absurd again led.2

/-- A text without a mark, and behind it a mark as long, hold none but that. -/
theorem eq_of_append (led : LedBy c mark) (lastLed : LedBy c last)
    (sameLength : mark.length = last.length) (absent : ¬ mark <:+: text)
    (same : front ++ mark ++ rest = text ++ last) :
    front = text ∧ mark = last ∧ rest = [] := by
  rw [List.append_assoc] at same
  rcases List.append_eq_append_iff.mp same with
    ⟨more, inside, behind⟩ | ⟨overlap, past, behind⟩
  · by_cases begins : more = []
    · rw [begins, List.nil_append] at behind
      rw [begins, List.append_nil] at inside
      have parts : mark = last ∧ rest = [] :=
        List.append_inj (by rw [List.append_nil, behind]) sameLength
      exact ⟨inside.symm, parts⟩
    · obtain ⟨tail, ends⟩ := led.prefix_of_append lastLed begins behind
      refine absurd ⟨front, tail, ?_⟩ absent
      rw [List.append_assoc, ends, inside]
  · have lengths := congrArg List.length behind
    simp only [List.length_append] at lengths
    have noOver : overlap = [] := List.length_eq_zero_iff.mp (by omega)
    have noRest : rest = [] := List.length_eq_zero_iff.mp (by omega)
    rw [noOver, noRest, List.nil_append, List.append_nil] at behind
    rw [noOver, List.append_nil] at past
    exact ⟨past, behind.symm, noRest⟩

/-- The first occurrence of a mark at the end of a text that holds no other. -/
theorem splitAtMark?_concat (led : LedBy c mark) (absent : ¬ mark <:+: text) :
    splitAtMark? mark (text ++ mark) = some (text, []) := by
  have occurs : mark <:+: text ++ mark := (List.suffix_append text mark).isInfix
  obtain ⟨⟨before, after⟩, found⟩ :=
    Option.isSome_iff_exists.mp (isSome_splitAtMark? occurs)
  obtain ⟨sameFront, -, nothing⟩ :=
    led.eq_of_append led rfl absent (eq_append_of_splitAtMark? found).symm
  rw [found, sameFront, nothing]

end LedBy

section Pieces

variable (next : Text → Nat)

/-- A character is a piece, or stands at the front of the first of the others. -/
theorem cutFrom_cons (left : Nat) (c : Char) (text : Text) :
    ∃ rest,
      cutFrom next left (c :: text) = [c] :: cutFrom next rest text ∨
        ∃ piece pieces,
          cutFrom next rest text = piece :: pieces ∧
            cutFrom next left (c :: text) = (c :: piece) :: pieces := by
  rw [cutFrom]
  cases (if left = 0 then next (c :: text) else left) - 1 with
  | zero => exact ⟨0, Or.inl rfl⟩
  | succ rest =>
      refine ⟨rest + 1, ?_⟩
      dsimp only
      cases cutFrom next (rest + 1) text with
      | nil => exact Or.inl rfl
      | cons piece pieces => exact Or.inr ⟨piece, pieces, rfl, rfl⟩

/-- Side by side the pieces are the text. -/
theorem flatten_cutFrom (left : Nat) (text : Text) :
    (cutFrom next left text).flatten = text := by
  induction text generalizing left with
  | nil => rfl
  | cons c text inductionHypothesis =>
      obtain ⟨rest, alone | ⟨piece, pieces, others, joined⟩⟩ :=
        cutFrom_cons next left c text
      · rw [alone, List.flatten_cons, inductionHypothesis rest, List.singleton_append]
      · have whole := inductionHypothesis rest
        rw [others, List.flatten_cons] at whole
        rw [joined, List.flatten_cons, List.cons_append, whole]

theorem ne_nil_of_mem_cutFrom
    {left : Nat} {text piece : Text} (member : piece ∈ cutFrom next left text) :
    piece ≠ [] := by
  induction text generalizing left piece with
  | nil => cases member
  | cons c text inductionHypothesis =>
      obtain ⟨rest, alone | ⟨first, pieces, others, joined⟩⟩ :=
        cutFrom_cons next left c text
      · rw [alone] at member
        rcases List.mem_cons.mp member with same | later
        · exact same ▸ List.cons_ne_nil c []
        · exact inductionHypothesis later
      · rw [joined] at member
        rcases List.mem_cons.mp member with same | later
        · exact same ▸ List.cons_ne_nil c first
        · have among : piece ∈ cutFrom next rest text := by
            rw [others]
            exact List.mem_cons_of_mem first later
          exact inductionHypothesis among

/-- A piece that reaches to the end of the text is all of it. -/
theorem cutFrom_of_length_le
    {left : Nat} {text : Text} (nonempty : text ≠ []) (reaches : text.length ≤ left) :
    cutFrom next left text = [text] := by
  induction text generalizing left with
  | nil => exact absurd rfl nonempty
  | cons c text inductionHypothesis =>
      have more : left ≠ 0 := Nat.ne_zero_of_lt reaches
      have remains : text.length ≤ left - 1 := Nat.le_sub_one_of_lt reaches
      rw [cutFrom, if_neg more]
      by_cases ends : text = []
      · subst ends
        cases left - 1 <;> rfl
      · cases behind : left - 1 with
        | zero =>
            rw [behind] at remains
            exact absurd (List.length_eq_zero_iff.mp (Nat.le_zero.mp remains)) ends
        | succ rest =>
            rw [behind] at remains
            dsimp only
            rw [inductionHypothesis ends remains]

theorem cutBy_of_length_le
    {text : Text} (nonempty : text ≠ []) (reaches : text.length ≤ next text) :
    cutBy next text = [text] := by
  cases text with
  | nil => exact absurd rfl nonempty
  | cons c text =>
      have more : next (c :: text) ≠ 0 := Nat.ne_zero_of_lt reaches
      have opened := cutFrom_of_length_le next nonempty reaches
      rw [cutFrom, if_neg more] at opened
      rw [cutBy, cutFrom, if_pos rfl]
      exact opened

end Pieces

end Keychart.Text
