import Keychart.Key.Bindings
import Keychart.Proofs.Key.NormalNames
import Keychart.Unicode.Columns
import Mathlib.Data.List.Basic

/-!
# Plain characters and names with words in front

Every name is spelled by some words and a base.  A printable character is the key of a
name exactly if none of the words is a modifier and the base is the name of that
character.  So a binding with a modifier leaves all characters to the query, while a
word that is no modifier is passed over, and the base behind it stands for itself.
-/

namespace Keychart.Key

open Unicode

/-- Whether a name is spelled by some words and a base behind them: joined by plus signs,
which stand in none of them, unless the plus sign itself is the base.  A plus sign at the
end of a name that has another in front of it is the base. -/
structure Spells (name : Text) (words : List Text) (base : Text) : Prop where
  joined : name = Text.join ['+'] (words ++ [base])
  plain : ∀ word ∈ words, '+' ∉ word
  isBase : IsBase base
  closed : base = [] → words.getLast? ≠ some []

theorem splitOnChar_ne_nil (name : Text) : Text.splitOnChar '+' name ≠ [] := by
  rw [Text.splitOnChar_eq_splitOn]
  exact List.splitOn_ne_nil '+' name

private theorem join_splitOnChar (name : Text) :
    Text.join ['+'] (Text.splitOnChar '+' name) = name := by
  rw [Text.join_eq_intercalate, Text.splitOnChar_eq_splitOn, List.intercalate_splitOn]

private theorem spells_of_doubled (front : Text) :
    Spells (front ++ ['+', '+']) (Text.splitOnChar '+' front) ['+'] where
  joined := by rw [Text.join_concat (splitOnChar_ne_nil front), join_splitOnChar]
  plain := fun _ member => Text.not_mem_of_mem_splitOnChar member
  isBase := .inr rfl
  closed := fun empty => absurd empty (by decide)

/-- The last two pieces of a name are not both empty, unless the name ends in two plus
signs or is one. -/
theorem getLast?_ne_of_not_doubled
    {name : Text} (other : name ≠ ['+']) (single : ∀ front, name ≠ front ++ ['+', '+'])
    {words : List Text} (pieces : Text.splitOnChar '+' name = words ++ [[]]) :
    words.getLast? ≠ some [] := by
  intro last
  obtain ⟨front, rfl⟩ := List.getLast?_eq_some_iff.mp last
  have whole := join_splitOnChar name
  rw [pieces] at whole
  by_cases none : front = []
  · rw [none] at whole
    exact other whole.symm
  · refine single (Text.join ['+'] front) ?_
    rw [← whole, Text.join_concat (List.concat_ne_nil [] front), Text.join_concat none,
      List.append_assoc]
    rfl

/-- Every name is spelled by some words and a base. -/
theorem exists_spells (name : Text) : ∃ words base, Spells name words base := by
  by_cases plus : name = ['+']
  · rw [plus]
    exact ⟨[], ['+'], rfl, fun _ member => absurd member List.not_mem_nil, .inr rfl,
      fun empty => absurd empty (by decide)⟩
  by_cases doubled : ∃ front, name = front ++ ['+', '+']
  · obtain ⟨front, rfl⟩ := doubled
    exact ⟨_, _, spells_of_doubled front⟩
  obtain ⟨words, base, pieces⟩ :=
    (List.eq_nil_or_concat' _).resolve_left (splitOnChar_ne_nil name)
  have plain (piece : Text) (member : piece ∈ words ++ [base]) : '+' ∉ piece := by
    rw [← pieces] at member
    exact Text.not_mem_of_mem_splitOnChar member
  refine ⟨words, base, ?_, ?_, .inl ?_, ?_⟩
  · rw [← pieces, join_splitOnChar]
  · exact fun word member => plain word (List.mem_append_left _ member)
  · exact plain base (List.mem_append_right _ (List.mem_singleton_self base))
  · rintro rfl
    exact getLast?_ne_of_not_doubled plus (not_exists.mp doubled) pieces

private theorem named_none (base : Text) : named .none base = base := rfl

private theorem names_of_ne_none {m : Modifiers} (some : m ≠ .none) :
    m.names ≠ [] ∧ Text.join ['+'] m.names ≠ [] := by
  obtain ⟨ctrl, shift, alt⟩ := m
  revert some
  cases ctrl <;> cases shift <;> cases alt <;> decide

/-- Behind a modifier the base stands behind a plus sign, which is not the first
character. -/
theorem named_of_ne_none {m : Modifiers} (some : m ≠ .none) (base : Text) :
    '+' ∈ named m base ∧ 1 < (named m base).length := by
  obtain ⟨nonempty, begins⟩ := names_of_ne_none some
  have inFront := List.length_pos_iff.mpr begins
  rw [named, Text.join_concat nonempty]
  refine ⟨List.mem_append_right _ List.mem_cons_self, ?_⟩
  rw [List.length_append, List.length_cons]
  omega

theorem ofWords_eq_none_iff (words : List Text) :
    Modifiers.ofWords words = .none ↔ ∀ word ∈ words, smallWord word ∉ modifierNames := by
  rw [← inOrder_eq_nil_iff, inOrder, List.filter_eq_nil_iff]
  simp only [decide_eq_true_eq, List.mem_map, not_exists, not_and]
  constructor
  · intro absent word member modifier
    exact absent _ modifier word member rfl
  · intro absent name modifier word member same
    exact absent word member (same ▸ modifier)

private theorem normalize_of_no_modifier
    {name base : Text} {words : List Text} (spelled : Spells name words base)
    (none : Modifiers.ofWords words = .none) :
    normalize name = base := by
  rw [spelled.joined, normalize_join spelled.plain spelled.isBase spelled.closed, none,
    named_none]
  rcases base with _ | ⟨c, _ | ⟨second, rest⟩⟩ <;> rfl

/-! ## Plain characters -/

theorem isControl_iff {c : Char} :
    isControl c = true ↔ c.toNat < 0x20 ∨ 0x7F ≤ c.toNat ∧ c.toNat ≤ 0x9F := by
  simp only [isControl, Bool.or_eq_true, Bool.and_eq_true, decide_eq_true_eq]

/-- The table of printable characters begins behind the control characters. -/
theorem lt_of_mem_printableRanges : ∀ range ∈ printableRanges, 0x9F < range.1 := by
  decide +kernel

private theorem ne_of_controls
    {c d : Char} (plain : isControl c = false) (control : isControl d = true) :
    c ≠ d := by
  intro same
  rw [← same, plain] at control
  cases control

theorem isEnter_of_not_isControl {c : Char} (plain : isControl c = false) :
    isEnter c = false := by
  simp [isEnter, ne_of_controls plain (d := '\r') (by decide),
    ne_of_controls plain (d := '\n') (by decide)]

theorem isBackspace_of_not_isControl {c : Char} (plain : isControl c = false) :
    isBackspace c = false := by
  simp [isBackspace, ne_of_controls plain (d := '\x7f') (by decide),
    ne_of_controls plain (d := '\x08') (by decide)]

def plainKey (c : Char) : Text := if c = ' ' then space else [c]

theorem controlLetter?_of_not_isControl {c : Char} (plain : isControl c = false) :
    controlLetter? c = none := by
  have above : 0x20 ≤ c.toNat := by
    simp [isControl] at plain
    omega
  apply if_neg
  simp only [Bool.and_eq_true, decide_eq_true_eq]
  omega

/-- A character that controls nothing is read as itself, the space by its name, if it is
printable, and else as no key. -/
theorem parse?_of_not_isControl {c : Char} (plain : isControl c = false) :
    parse? [c] = if isPrintable c then some (plainKey c) else none := by
  have other {d : Char} (control : isControl d = true) : c ≠ d := ne_of_controls plain control
  have single : parse? [c] = character? c := rfl
  rw [single, character?, if_neg (other (by decide)), isEnter_of_not_isControl plain,
    if_neg Bool.false_ne_true, if_neg (other (by decide)), plainKey]
  by_cases blank : c = ' '
  · have printable : isPrintable ' ' = true := by decide
    rw [blank, if_pos rfl, if_pos printable, if_pos rfl]
  · rw [if_neg blank, if_neg blank, isBackspace_of_not_isControl plain,
      if_neg Bool.false_ne_true,
      if_neg (other (by decide)), if_neg (other (by decide)),
      controlLetter?_of_not_isControl plain]

private theorem isControl_eq_false_of_isPrintable {c : Char} (printable : isPrintable c = true) :
    isControl c = false := by
  rw [← Bool.not_eq_true, isControl_iff]
  unfold isPrintable at printable
  dsimp only at printable
  split at printable
  · rw [Bool.and_eq_true, decide_eq_true_eq, decide_eq_true_eq] at printable
    omega
  · obtain ⟨range, member, inside⟩ := List.any_eq_true.mp printable
    have behind := lt_of_mem_printableRanges range member
    rw [Bool.and_eq_true, decide_eq_true_eq, decide_eq_true_eq] at inside
    omega

theorem parse?_of_isPrintable {c : Char} (printable : isPrintable c = true) :
    parse? [c] = some (plainKey c) := by
  rw [parse?_of_not_isControl (isControl_eq_false_of_isPrintable printable), if_pos printable]

private theorem named_ne_plainKey {m : Modifiers} (some : m ≠ .none) (base : Text) (c : Char) :
    named m base ≠ plainKey c := by
  obtain ⟨plus, long⟩ := named_of_ne_none some base
  intro same
  rw [same, plainKey] at plus long
  by_cases blank : c = ' '
  · rw [if_pos blank] at plus
    exact absurd plus (by decide)
  · rw [if_neg blank] at long
    exact Nat.lt_irrefl 1 long

/-- A plain character is the key of a name exactly if no word of the name is a modifier
and its base is the name of the character. -/
theorem isKey_of_isPrintable_iff
    {c : Char} (printable : isPrintable c = true) {name base : Text} {words : List Text}
    (spelled : Spells name words base) :
    isKey [c] name = true ↔
      (∀ word ∈ words, smallWord word ∉ modifierNames) ∧ base = plainKey c := by
  have read := parse?_of_isPrintable printable
  rw [isKey, read]
  dsimp only
  rw [decide_eq_true_eq, normalize_of_isNormal (isNormal_of_parse? read), ← ofWords_eq_none_iff]
  -- What is read is its own normal form, so the base alone is left to compare, or a name
  -- with a plus sign behind something.
  by_cases none : Modifiers.ofWords words = .none
  · rw [normalize_of_no_modifier spelled none, and_iff_right none]
    exact eq_comm
  · rw [spelled.joined, normalize_join spelled.plain spelled.isBase spelled.closed]
    constructor
    · intro same
      exact absurd same.symm (named_ne_plainKey none _ c)
    · intro both
      exact absurd both.1 none

/-- Every name is spelled by some words and a base, and a plain character is not its key
exactly if one of the words is a modifier, capitals or not, or the base is not the name
of the character.  So the character triggers an action exactly if one of the keys of the
action is that name behind nothing but words that are no modifiers. -/
theorem not_isKey_plain_iff_modifier {c : Char} (printable : isPrintable c = true) :
    (∀ name, ∃ words base, Spells name words base) ∧
      (∀ name words base, Spells name words base →
        (isKey [c] name = false ↔
          (∃ word ∈ words, smallWord word ∈ modifierNames) ∨ base ≠ plainKey c)) ∧
      ∀ (bindings : Bindings) (action : Action),
        bindings.triggers [c] action = true ↔
          ∃ name ∈ bindings.keys action, ∃ words,
            Spells name words (plainKey c) ∧ ∀ word ∈ words, smallWord word ∉ modifierNames := by
  refine ⟨exists_spells, ?_, ?_⟩
  · intro name words base spelled
    rw [← Bool.not_eq_true, isKey_of_isPrintable_iff printable spelled, not_and_or]
    simp only [not_forall, not_not, exists_prop]
  · intro bindings action
    rw [Bindings.triggers, List.any_eq_true]
    constructor
    · rintro ⟨name, member, key⟩
      obtain ⟨words, base, spelled⟩ := exists_spells name
      obtain ⟨absent, rfl⟩ := (isKey_of_isPrintable_iff printable spelled).mp key
      exact ⟨name, member, words, spelled, absent⟩
    · rintro ⟨name, member, words, spelled, absent⟩
      exact ⟨name, member, (isKey_of_isPrintable_iff printable spelled).mpr ⟨absent, rfl⟩⟩

/-- A modifier behind a word that is none, and such a word alone in front of the space. -/
theorem not_isKey_plain_iff_modifier_hyper :
    isPrintable 'q' = true ∧ isPrintable ' ' = true ∧
      isKey ['q'] (Text.ofString "hyper+CTRL+q") = false ∧
      isKey ['q'] (Text.ofString "ctrl+") = false ∧
      (Bindings.usual.set .quit [Text.ofString "hyper+space"]).triggers [' '] .quit = true := by
  have shown : isPrintable 'q' = true := by decide
  have space : isPrintable ' ' = true := by decide
  obtain ⟨-, letter, -⟩ := not_isKey_plain_iff_modifier shown
  obtain ⟨-, -, blank⟩ := not_isKey_plain_iff_modifier space
  refine ⟨shown, space, ?_, ?_, ?_⟩
  · have spelled : Spells (Text.ofString "hyper+CTRL+q")
        [Text.ofString "hyper", Text.ofString "CTRL"] ['q'] :=
      ⟨by decide, by decide, by decide, by decide⟩
    exact (letter _ _ _ spelled).mpr (.inl ⟨Text.ofString "CTRL", by decide, by decide⟩)
  · have spelled : Spells (Text.ofString "ctrl+") [Text.ofString "ctrl"] [] :=
      ⟨by decide, by decide, by decide, by decide⟩
    exact (letter _ _ _ spelled).mpr (.inr (by decide))
  · have spelled : Spells (Text.ofString "hyper+space") [Text.ofString "hyper"] Key.space :=
      ⟨by decide, by decide, by decide, by decide⟩
    exact (blank _ _).mpr
      ⟨Text.ofString "hyper+space", by decide, [Text.ofString "hyper"], spelled, by decide⟩

/-- A misspelt modifier is passed over, so that the letter behind it ends the session. -/
theorem misspelt_modifier_fires :
    Spells (Text.ofString "crtl+q") [Text.ofString "crtl"] ['q'] ∧
      Text.ofString "crtl" ≠ [] ∧ isPrintable 'q' = true ∧
      isKey ['q'] (Text.ofString "crtl+q") = true ∧
      (Bindings.ofChoices
        [(Text.ofString "quit", .one (Text.ofString "crtl+q"))]).triggers ['q'] .quit = true := by
  refine ⟨⟨by decide, by decide, by decide, by decide⟩, by decide, by decide, by decide, ?_⟩
  decide

end Keychart.Key
