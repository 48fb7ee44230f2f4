import Keychart.Key.Parse
import Keychart.Proofs.Key.SmallForms
import Mathlib.Data.List.Basic

/-!
# Normal names of keys

A name of a key is normal if it is put together from modifiers in their order and a
base, which is small if it is a single character behind a modifier.  Normalizing gives
normal names and leaves them as they are, and every key that is read from a terminal
has a normal name.  So a name stands for a key exactly if its normal form is the name
that was read.
-/

namespace Keychart

namespace Text

theorem splitOnChar_eq_splitOn (mark : Char) (text : Text) :
    splitOnChar mark text = text.splitOn mark := by
  induction text with
  | nil => rfl
  | cons c text inductionHypothesis =>
      rw [splitOnChar, inductionHypothesis, List.splitOn_cons_eq_if_modifyHead]
      rcases pieces : text.splitOn mark with _ | ⟨piece, pieces⟩
      · exact absurd pieces (List.splitOn_ne_nil mark text)
      · by_cases same : c = mark
        · simp [same]
        · simp [same]

theorem join_eq_intercalate (separator : Text) (pieces : List Text) :
    join separator pieces = separator.intercalate pieces := by
  induction pieces with
  | nil => rfl
  | cons piece pieces inductionHypothesis =>
      cases pieces with
      | nil => exact (List.intercalate_singleton ..).symm
      | cons second pieces =>
          rw [join, inductionHypothesis, List.intercalate_cons_cons]
          exact List.cons_ne_nil second pieces

private theorem splitOnChar_join
    {mark : Char} {pieces : List Text} (plain : ∀ piece ∈ pieces, mark ∉ piece)
    (some : pieces ≠ []) :
    splitOnChar mark (join [mark] pieces) = pieces := by
  rw [splitOnChar_eq_splitOn, join_eq_intercalate, List.splitOn_intercalate mark plain some]

theorem not_mem_of_mem_splitOnChar
    {mark : Char} {text piece : Text} (member : piece ∈ splitOnChar mark text) :
    mark ∉ piece := by
  induction text generalizing piece with
  | nil =>
      rw [List.mem_singleton.mp member]
      exact List.not_mem_nil
  | cons c text inductionHypothesis =>
      rw [splitOnChar] at member
      split at member
      · next none =>
          rw [splitOnChar_eq_splitOn] at none
          exact absurd none (List.splitOn_ne_nil mark text)
      · next first pieces found =>
          rw [found] at inductionHypothesis
          split at member
          · rcases List.mem_cons.mp member with rfl | later
            · exact List.not_mem_nil
            · exact inductionHypothesis later
          · next different =>
              rcases List.mem_cons.mp member with rfl | later
              · have behind := inductionHypothesis List.mem_cons_self
                exact List.not_mem_cons_of_ne_of_not_mem (Ne.symm different) behind
              · exact inductionHypothesis (List.mem_cons_of_mem _ later)

private theorem splitOnChar_append_mark (mark : Char) (front back : Text) :
    splitOnChar mark (front ++ mark :: back) = splitOnChar mark front ++ splitOnChar mark back := by
  simp only [splitOnChar_eq_splitOn, List.splitOn_append_cons_self]

theorem join_concat {mark : Char} {pieces : List Text} (some : pieces ≠ []) (last : Text) :
    join [mark] (pieces ++ [last]) = join [mark] pieces ++ mark :: last := by
  induction pieces with
  | nil => exact absurd rfl some
  | cons piece pieces inductionHypothesis =>
      cases pieces with
      | nil => simp [join]
      | cons second pieces =>
          have rest := inductionHypothesis (List.cons_ne_nil second pieces)
          simp only [List.cons_append] at rest
          simp [join, rest]

end Text

namespace Key

open Unicode

/-- Whether a text can be the base of a name: it holds no plus sign, or is one. -/
def IsBase (base : Text) : Prop := '+' ∉ base ∨ base = ['+']

instance (base : Text) : Decidable (IsBase base) := inferInstanceAs (Decidable (_ ∨ _))

private theorem parts_plus : parts ['+'] = ([], ['+']) := rfl

private theorem parts_of_doubled (front : Text) :
    parts (front ++ ['+', '+']) = (Text.splitOnChar '+' front ++ [[]], ['+']) := by
  have other : front ++ ['+', '+'] ≠ ['+'] := by
    intro same
    have lengths := congrArg List.length same
    rw [List.length_append] at lengths
    exact absurd lengths (by simp)
  have shorter : (front ++ ['+', '+']).dropLast = front ++ ['+'] := by
    rw [List.dropLast_append_of_ne_nil (by decide)]
    rfl
  have reversed : (front ++ ['+', '+']).reverse = '+' :: '+' :: front.reverse := by
    rw [List.reverse_append]
    rfl
  rw [parts, if_neg other]
  simp only [reversed, if_true, shorter, Text.splitOnChar_append_mark]
  rfl

private theorem parts_of_not_doubled
    {name : Text} (other : name ≠ ['+']) (single : ∀ front, name ≠ front ++ ['+', '+']) :
    parts name =
      ((Text.splitOnChar '+' name).dropLast, (Text.splitOnChar '+' name).getLast?.getD []) := by
  rw [parts, if_neg other]
  split
  · next rest same =>
      refine absurd ?_ (single rest.reverse)
      rw [← List.reverse_reverse name, same]
      simp
  · rfl

/-- The words of a name hold no plus sign, and its base is one or holds none. -/
theorem parts_isBase (name : Text) :
    (∀ word ∈ (parts name).1, '+' ∉ word) ∧ IsBase (parts name).2 := by
  by_cases plus : name = ['+']
  · rw [plus, parts_plus]
    exact ⟨fun word member => absurd member List.not_mem_nil, .inr rfl⟩
  · by_cases doubled : ∃ front, name = front ++ ['+', '+']
    · obtain ⟨front, rfl⟩ := doubled
      rw [parts_of_doubled]
      refine ⟨fun word member => ?_, .inr rfl⟩
      rcases List.mem_append.mp member with inside | last
      · exact Text.not_mem_of_mem_splitOnChar inside
      · rw [List.mem_singleton.mp last]
        exact List.not_mem_nil
    · rw [parts_of_not_doubled plus (not_exists.mp doubled)]
      refine ⟨fun word member => ?_, .inl ?_⟩
      · exact Text.not_mem_of_mem_splitOnChar ((List.dropLast_subset _) member)
      · dsimp only
        cases last : (Text.splitOnChar '+' name).getLast? with
        | none => exact List.not_mem_nil
        | some base => exact Text.not_mem_of_mem_splitOnChar (List.mem_of_mem_getLast? last)

theorem ofWords_append_nil (words : List Text) :
    Modifiers.ofWords (words ++ [[]]) = Modifiers.ofWords words := by
  have nothing : [[]].contains Modifiers.ctrlName = false ∧
      [[]].contains Modifiers.shiftName = false ∧ [[]].contains Modifiers.altName = false := by
    decide
  simp only [Modifiers.ofWords, List.map_append, List.map_cons, List.map_nil, List.flatMap_nil,
    List.contains_append, nothing, Bool.or_false]

/-- Words and a base are read back from the name that joins them; an empty word that
is read along is no modifier. -/
theorem exists_parts_join
    {words : List Text} (plain : ∀ word ∈ words, '+' ∉ word) {base : Text} (isBase : IsBase base)
    (closed : base = [] → words.getLast? ≠ some []) :
    ∃ read, parts (Text.join ['+'] (words ++ [base])) = (read, base) ∧
      Modifiers.ofWords read = Modifiers.ofWords words := by
  by_cases plus : base = ['+']
  · subst plus
    by_cases none : words = []
    · subst none
      exact ⟨[], parts_plus, rfl⟩
    · have doubled : Text.join ['+'] (words ++ [['+']]) = Text.join ['+'] words ++ ['+', '+'] :=
        Text.join_concat none ['+']
      refine ⟨words ++ [[]], ?_, ofWords_append_nil words⟩
      rw [doubled, parts_of_doubled, Text.splitOnChar_join plain none]
  · have plainBase := isBase.resolve_right plus
    have pieces : Text.splitOnChar '+' (Text.join ['+'] (words ++ [base])) = words ++ [base] := by
      refine Text.splitOnChar_join (fun piece member => ?_) (List.concat_ne_nil base words)
      rcases List.mem_append.mp member with word | last
      · exact plain piece word
      · rwa [List.mem_singleton.mp last]
    -- A plus sign at the end of the name stands behind an empty word and in front of an
    -- empty base.
    have single : ∀ front : List Text, words ++ [base] ≠ front ++ [[]] ++ [[]] := by
      intro front same
      obtain ⟨before, last⟩ := List.append_inj' same rfl
      refine closed (List.cons.inj last).1 ?_
      rw [before, List.getLast?_concat]
    refine ⟨words, ?_, rfl⟩
    rw [parts_of_not_doubled, pieces, List.dropLast_concat, List.getLast?_concat]
    · rfl
    · intro same
      rw [same] at pieces
      exact single [] pieces.symm
    · intro front same
      rw [same, Text.splitOnChar_append_mark] at pieces
      refine single (Text.splitOnChar '+' front) (pieces.symm.trans ?_)
      rw [List.append_assoc]
      rfl

def smallBase (m : Modifiers) : Text → Text
  | [c] => if m = .none then [c] else lower c
  | base => base

private theorem normalize_eq (name : Text) :
    normalize name =
      named (.ofWords (parts name).1) (smallBase (.ofWords (parts name).1) (parts name).2) := by
  rw [normalize]
  dsimp only
  split
  · next c base =>
      rw [base, smallBase]
      split
      · next none =>
          rw [none]
          rfl
      · rfl
  · next other =>
      rw [smallBase]
      exact other

private theorem smallBase_smallBase (m : Modifiers) (base : Text) :
    smallBase m (smallBase m base) = smallBase m base := by
  rcases base with _ | ⟨c, _ | ⟨second, rest⟩⟩
  · rfl
  · by_cases none : m = .none
    · simp only [smallBase, if_pos none]
    · rw [smallBase, if_neg none]
      rcases small : lower c with _ | ⟨d, _ | ⟨_, _⟩⟩
      · rfl
      · rw [smallBase, if_neg none, lower_lower small]
      · rfl
  · rfl

private theorem isBase_lower (c : Char) : IsBase (lower c) := by
  by_cases plus : '+' ∈ lower c
  · rw [eq_plus_of_mem_lower plus]
    exact .inr (by decide)
  · exact .inl plus

private theorem isBase_smallBase {base : Text} (isBase : IsBase base) (m : Modifiers) :
    IsBase (smallBase m base) := by
  unfold smallBase
  split
  · next c =>
      split
      · exact isBase
      · exact isBase_lower c
  · exact isBase

/-- Names whose modifiers stand in their order, each once, in front of a base as it
stands behind them. -/
inductive IsNormal : Text → Prop
  | named (m : Modifiers) {base : Text} (isBase : IsBase base) (small : smallBase m base = base) :
      IsNormal (named m base)

private theorem isNormal_normalize (name : Text) : IsNormal (normalize name) := by
  rw [normalize_eq]
  exact .named _ (isBase_smallBase (parts_isBase name).2 _) (smallBase_smallBase _ _)

private theorem plain_of_mem_names (m : Modifiers) : ∀ word ∈ m.names, '+' ∉ word ∧ word ≠ [] := by
  obtain ⟨ctrl, shift, alt⟩ := m
  cases ctrl <;> cases shift <;> cases alt <;> decide

private theorem ofWords_names (m : Modifiers) : Modifiers.ofWords m.names = m := by
  obtain ⟨ctrl, shift, alt⟩ := m
  cases ctrl <;> cases shift <;> cases alt <;> decide

/-- The modifiers of a name that is joined from words, in front of its base. -/
theorem normalize_join
    {words : List Text} (plain : ∀ word ∈ words, '+' ∉ word) {base : Text} (isBase : IsBase base)
    (closed : base = [] → words.getLast? ≠ some []) :
    normalize (Text.join ['+'] (words ++ [base])) =
      named (.ofWords words) (smallBase (.ofWords words) base) := by
  obtain ⟨read, parted, same⟩ := exists_parts_join plain isBase closed
  rw [normalize_eq, parted, same]

theorem normalize_of_isNormal {name : Text} (normal : IsNormal name) : normalize name = name := by
  cases normal with
  | @named m base isBase small =>
      have closed : base = [] → m.names.getLast? ≠ some [] := fun _ last =>
        (plain_of_mem_names m [] (List.mem_of_getLast? last)).2 rfl
      rw [named, normalize_join (fun word member => (plain_of_mem_names m word member).1) isBase
        closed, ofWords_names, small, named]

def wordBases : List Text :=
  [up, down, left, right, home, endKey, insert, delete, pageUp, pageDown, escape, enter, tab,
    space, backspace]

private theorem isNormal_of_mem_wordBases
    {base : Text} (member : base ∈ wordBases) (m : Modifiers) :
    IsNormal (named m base) := by
  have each : ∀ base ∈ wordBases, '+' ∉ base ∧ 1 < base.length := by decide
  obtain ⟨plain, long⟩ := each base member
  refine .named m (.inl plain) ?_
  rcases base with _ | ⟨c, _ | ⟨second, rest⟩⟩
  · rfl
  · exact absurd long (by simp)
  · rfl

private theorem isNormal_of_mem_wordBases_alone {base : Text} (member : base ∈ wordBases) :
    IsNormal base :=
  isNormal_of_mem_wordBases member .none

/-- A key that a rule names, or that the rules behind it name. -/
private theorem eq_or_of_ite_some
    {p : Prop} [Decidable p] {named key : Text} {others : Option Text}
    (found : (if p then some named else others) = some key) :
    key = named ∨ others = some key := by
  split at found
  · exact .inl (Option.some.inj found).symm
  · exact .inr found

private theorem mem_wordBases_of_letterKey?
    {c : Char} {base : Text} (found : letterKey? c = some base) :
    base ∈ wordBases := by
  unfold letterKey? at found
  iterate 6
    rcases eq_or_of_ite_some found with rfl | found
    · decide
  cases found

private theorem mem_wordBases_of_digitKey?
    {c : Char} {base : Text} (found : digitKey? c = some base) :
    base ∈ wordBases := by
  unfold digitKey? at found
  iterate 6
    rcases eq_or_of_ite_some found with rfl | found
    · decide
  cases found

private theorem mem_wordBases_of_plainDigitKey?
    {c : Char} {base : Text} (found : plainDigitKey? c = some base) :
    base ∈ wordBases := by
  unfold plainDigitKey? at found
  iterate 2
    rcases eq_or_of_ite_some found with rfl | found
    · decide
  exact mem_wordBases_of_digitKey? found

private theorem isNormal_of_modifiedLetter?
    {text key : Text} (read : modifiedLetter? text = some key) :
    IsNormal key := by
  unfold modifiedLetter? at read
  split at read
  · split at read
    · obtain ⟨base, found, rfl⟩ := Option.map_eq_some_iff.mp read
      exact isNormal_of_mem_wordBases (mem_wordBases_of_letterKey? found) _
    · cases read
  · cases read

private theorem isNormal_of_modifiedDigit?
    {digit : Char} {text key : Text} (read : modifiedDigit? digit text = some key) :
    IsNormal key := by
  unfold modifiedDigit? at read
  split at read
  · split at read
    · obtain ⟨base, found, rfl⟩ := Option.map_eq_some_iff.mp read
      exact isNormal_of_mem_wordBases (mem_wordBases_of_digitKey? found) _
    · cases read
  · cases read

private theorem isNormal_of_controlSequence?
    {text key : Text} (read : controlSequence? text = some key) :
    IsNormal key := by
  unfold controlSequence? at read
  split at read
  · cases read
  · split at read
    · cases read
      have word : tab ∈ wordBases := by decide
      exact isNormal_of_mem_wordBases word ⟨false, true, false⟩
    · exact isNormal_of_mem_wordBases_alone (mem_wordBases_of_letterKey? read)
  · split at read
    · split at read
      · next found =>
          cases read
          split at found
          · exact isNormal_of_modifiedLetter? found
          · cases found
      · exact isNormal_of_modifiedDigit? read
    · split at read
      · exact isNormal_of_mem_wordBases_alone (mem_wordBases_of_plainDigitKey? read)
      · cases read

/-- What is its own small form is a base behind any modifiers. -/
theorem isNormal_of_small
    {base : Text} (isBase : IsBase base) (small : ∀ c, base = [c] → lower c = [c])
    (m : Modifiers) :
    IsNormal (named m base) := by
  refine .named m isBase ?_
  rcases base with _ | ⟨c, _ | ⟨second, rest⟩⟩
  · rfl
  · rw [smallBase, small c rfl]
    exact ite_self _
  · rfl

theorem plain_of_controlLetter?
    {c letter : Char} (found : controlLetter? c = some letter) :
    '+' ≠ letter ∧ lower letter = [letter] := by
  have each : ∀ code < 27, 1 ≤ code →
      '+' ≠ Char.ofNat (code + 0x60) ∧
        lower (Char.ofNat (code + 0x60)) = [Char.ofNat (code + 0x60)] := by
    decide
  unfold controlLetter? at found
  split at found
  · next control =>
      cases found
      simp only [Bool.and_eq_true, decide_eq_true_eq] at control
      exact each c.toNat (by omega) control.1
  · cases found

private theorem isNormal_of_controlLetter?
    {c letter : Char} (found : controlLetter? c = some letter) (m : Modifiers) :
    IsNormal (named m [letter]) := by
  obtain ⟨plain, small⟩ := plain_of_controlLetter? found
  refine isNormal_of_small (.inl ?_) (fun d same => ?_) m
  · rwa [List.mem_singleton]
  · rw [← (List.cons.inj same).1]
    exact small

private theorem isNormal_of_lower (c : Char) (m : Modifiers) : IsNormal (named m (lower c)) :=
  isNormal_of_small (isBase_lower c) (fun _ small => lower_lower small) m

theorem isBase_singleton (c : Char) : IsBase [c] := by
  by_cases plus : c = '+'
  · exact .inr (congrArg (· :: []) plus)
  · exact .inl fun member => plus (List.mem_singleton.mp member).symm

private theorem isNormal_singleton
    (c : Char) : IsNormal [c] := .named .none (isBase_singleton c) rfl

/-- The key of one character is a word, a word or a sign with ctrl, a letter with ctrl, or
the character itself. -/
theorem character?_cases {c : Char} {key : Text} (read : character? c = some key) :
    key ∈ [escape, enter, tab, space, backspace] ∨ key ∈ [ctrl space, ctrl ['-']] ∨
      (∃ letter, controlLetter? c = some letter ∧ key = ctrl [letter]) ∨ key = [c] := by
  unfold character? at read
  iterate 5
    rcases eq_or_of_ite_some read with rfl | read
    · exact .inl (by decide)
  iterate 2
    rcases eq_or_of_ite_some read with rfl | read
    · exact .inr (.inl (by decide))
  split at read
  · next letter found =>
      cases read
      exact .inr (.inr (.inl ⟨letter, found, rfl⟩))
  · rcases eq_or_of_ite_some read with same | read
    · exact .inr (.inr (.inr same))
    · cases read

private theorem isNormal_of_character? {c : Char} {key : Text} (read : character? c = some key) :
    IsNormal key := by
  rcases character?_cases read with word | withCtrl | ⟨letter, found, rfl⟩ | rfl
  · have words : ∀ key ∈ [escape, enter, tab, space, backspace], key ∈ wordBases := by decide
    exact isNormal_of_mem_wordBases_alone (words key word)
  · simp only [List.mem_cons, List.not_mem_nil, or_false] at withCtrl
    rcases withCtrl with rfl | rfl
    · have word : space ∈ wordBases := by decide
      exact isNormal_of_mem_wordBases word ⟨true, false, false⟩
    · have base : IsBase ['-'] := by decide
      exact .named ⟨true, false, false⟩ base (by decide)
  · exact isNormal_of_controlLetter? found ⟨true, false, false⟩
  · exact isNormal_singleton c

private theorem isNormal_of_escaped? {c : Char} {key : Text} (read : escaped? c = some key) :
    IsNormal key := by
  unfold escaped? at read
  split at read
  · cases read
    have word : enter ∈ wordBases := by decide
    exact isNormal_of_mem_wordBases word ⟨false, false, true⟩
  split at read
  · cases read
    have word : backspace ∈ wordBases := by decide
    exact isNormal_of_mem_wordBases word ⟨false, false, true⟩
  split at read
  · next letter found =>
      cases read
      exact isNormal_of_controlLetter? found ⟨true, false, true⟩
  · split at read
    · cases read
      exact isNormal_of_lower c ⟨false, true, true⟩
    split at read
    · cases read
      exact isNormal_of_lower c ⟨false, false, true⟩
    · cases read

/-- Every key that is read has a normal name. -/
theorem isNormal_of_parse? {data key : Text} (read : parse? data = some key) :
    IsNormal key := by
  unfold parse? at read
  split at read
  · cases read
  · exact isNormal_of_character? read
  · exact isNormal_of_escaped? read
  · exact isNormal_of_controlSequence? read
  · exact isNormal_of_mem_wordBases_alone (mem_wordBases_of_letterKey? read)
  · cases read

/-! ## Names and the keys they stand for -/

def modifierNames : List Text := [Modifiers.ctrlName, Modifiers.shiftName, Modifiers.altName]

def smallWord (word : Text) : Text := word.flatMap lower

/-- The modifiers among some words, capitals or not, in their order and each once. -/
def inOrder (words : List Text) : List Text :=
  modifierNames.filter fun name => decide (name ∈ words.map smallWord)

private theorem names_ofWords
    (words : List Text) : (Modifiers.ofWords words).names = inOrder words := by
  have kept (name : Text) (names : List Text) :
      (name :: names).filter (fun name => decide (name ∈ words.map smallWord)) =
        (if (words.map smallWord).contains name then [name] else []) ++
          names.filter fun name => decide (name ∈ words.map smallWord) := by
    rw [List.filter_cons, List.contains_eq_mem]
    split <;> rfl
  rw [inOrder, modifierNames, kept, kept, kept, List.filter_nil, List.append_nil,
    ← List.append_assoc]
  rfl

theorem inOrder_eq_nil_iff (words : List Text) :
    inOrder words = [] ↔ Modifiers.ofWords words = .none := by
  rw [← names_ofWords]
  obtain ⟨ctrl, shift, alt⟩ := Modifiers.ofWords words
  cases ctrl <;> cases shift <;> cases alt <;> decide

/-- No modifier is spelled with a plus sign, which is its own small form. -/
theorem plain_of_smallWord {word : Text} (modifier : smallWord word ∈ modifierNames) :
    '+' ∉ word := by
  intro plus
  have small : '+' ∈ smallWord word := List.mem_flatMap.mpr ⟨'+', plus, by decide⟩
  have each : ∀ name ∈ modifierNames, '+' ∉ name := by decide
  exact each _ modifier small

private theorem smallBase_ofWords (words : List Text) (base : Text) :
    smallBase (.ofWords words) base =
      if base.length = 1 ∧ inOrder words ≠ [] then smallWord base else base := by
  rcases base with _ | ⟨c, _ | ⟨second, rest⟩⟩
  · rfl
  · simp only [ne_eq, inOrder_eq_nil_iff, smallBase]
    by_cases none : Modifiers.ofWords words = .none
    · rw [if_pos none, if_neg fun both => both.2 none]
    · rw [if_neg none, if_pos ⟨rfl, none⟩]
      exact (List.append_nil (lower c)).symm
  · rw [if_neg fun both => absurd both.1 (by simp)]
    rfl

theorem isKey_iff {data name : Text} :
    isKey data name = true ↔ parse? data = some (normalize name) := by
  rw [isKey]
  cases read : parse? data with
  | none => simp
  | some key =>
      have normal := normalize_of_isNormal (isNormal_of_parse? read)
      simp [normal]

/-- A name that is joined from modifiers, capitals or not, in any order and repeated,
and a base without plus signs (or the plus sign) has them in its normal form in their
order, each once, in front of the base; a single character behind a modifier is small.
Normal forms are their own, and so is every key that is read.  So what is read is the
key of a name exactly if it is the normal form of that name. -/
theorem normalize_puts_in_order :
    (∀ words base, (∀ word ∈ words, smallWord word ∈ modifierNames) → base ≠ [] →
      '+' ∉ base ∨ base = ['+'] →
        normalize (Text.join ['+'] (words ++ [base])) =
          Text.join ['+'] (inOrder words ++
            [if base.length = 1 ∧ inOrder words ≠ [] then smallWord base else base])) ∧
      (∀ name, normalize (normalize name) = normalize name) ∧
      (∀ data key, parse? data = some key → normalize key = key) ∧
      (∀ data name, isKey data name = true ↔ parse? data = some (normalize name)) := by
  refine ⟨?_, fun name => normalize_of_isNormal (isNormal_normalize name),
    fun data key read => normalize_of_isNormal (isNormal_of_parse? read),
    fun data name => isKey_iff⟩
  intro words base modifiers some isBase
  have joined := normalize_join (fun word member => plain_of_smallWord (modifiers word member))
    isBase (fun none => absurd none some)
  rw [joined, named, names_ofWords, smallBase_ofWords]

/-- The plus sign behind repeated modifiers, a control sequence, and a key that only
its normal form gives away. -/
theorem normalize_puts_in_order_plus :
    normalize (Text.ofString "ALT+Ctrl+alt++") = Text.ofString "ctrl+alt++" ∧
      normalize (normalize (Text.ofString "shift+ctrl+")) =
        normalize (Text.ofString "shift+ctrl+") ∧
      normalize (Text.ofString "ctrl+shift+up") = Text.ofString "ctrl+shift+up" ∧
      isKey (Text.ofString "\x1b[1;6A") (Text.ofString "Shift+CTRL+up") = true := by
  obtain ⟨joined, twice, read, key⟩ := normalize_puts_in_order
  refine ⟨?_, twice _, ?_, ?_⟩
  · exact joined [Text.ofString "ALT", Text.ofString "Ctrl", Text.ofString "alt"] ['+']
      (by decide) (by decide) (by decide)
  · exact read (Text.ofString "\x1b[1;6A") _ (by decide)
  · exact (key _ _).mpr (by decide)

end Key

end Keychart
