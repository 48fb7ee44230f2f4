import Keychart.Proofs.Key.PlainCharacters

/-!
# Characters behind an escape

Behind an escape a character is read by rules of its own.  For most characters they give
the key of the character with alt, and for a capital letter the small one with shift and
alt.  Four characters are passed over by these rules: the tab is read as ctrl and alt with
its letter, the space stands for itself in place of its name, and the two controls that
are ctrl with the space and with the minus sign are no key at all.
-/

namespace Keychart.Key

open Unicode

/-- Behind modifiers, in whatever order they are spelled, a character is made small. -/
theorem normalize_join_singleton
    {words : List Text} (plain : ∀ word ∈ words, '+' ∉ word)
    (held : Modifiers.ofWords words ≠ .none) (c : Char) :
    normalize (Text.join ['+'] (words ++ [[c]])) = named (.ofWords words) (lower c) := by
  have closed : [c] = [] → words.getLast? ≠ some [] := fun empty =>
    absurd empty (List.cons_ne_nil c [])
  rw [normalize_join plain (isBase_singleton c) closed, smallBase, if_neg held]

private theorem normalize_alt_singleton (c : Char) : normalize (alt [c]) = alt (lower c) :=
  @normalize_join_singleton [Modifiers.altName] (by decide) (by decide) c

private theorem normalize_shift_alt_singleton (c : Char) :
    normalize (shift (alt [c])) = shift (alt (lower c)) :=
  @normalize_join_singleton [Modifiers.shiftName, Modifiers.altName] (by decide) (by decide) c

private theorem normalize_alt_ctrl_singleton (c : Char) :
    normalize (alt (ctrl [c])) = ctrl (alt (lower c)) :=
  @normalize_join_singleton [Modifiers.altName, Modifiers.ctrlName] (by decide) (by decide) c

private theorem shift_ne_alt (key other : Text) : shift key ≠ alt other := by
  intro same
  have first := congrArg List.head? same
  have apart : some 's' ≠ some 'a' := by decide
  exact apart first

/-- The table of capital letters begins behind the control characters. -/
theorem lt_of_mem_upperProgressions : ∀ p ∈ upperProgressions, 0x9F < p.first := by
  decide +kernel

private theorem isControl_eq_false_of_isUpper {c : Char} (capital : isUpper c = true) :
    isControl c = false := by
  rw [← Bool.not_eq_true, isControl_iff]
  unfold isUpper at capital
  dsimp only at capital
  split at capital
  · rw [Bool.and_eq_true, decide_eq_true_eq, decide_eq_true_eq] at capital
    omega
  · obtain ⟨p, member, inside⟩ := List.any_eq_true.mp capital
    have behind := lt_of_mem_upperProgressions p member
    simp only [Progression.holds, Bool.and_eq_true, decide_eq_true_eq] at inside
    omega

private theorem escaped?_of_not_isControl {c : Char} (plain : isControl c = false) :
    escaped? c =
      if isUpper c then some (shift (alt (lower c)))
      else if isPrintable c then some (alt (lower c))
      else none := by
  rw [escaped?, isEnter_of_not_isControl plain, isBackspace_of_not_isControl plain,
    controlLetter?_of_not_isControl plain, if_neg Bool.false_ne_true,
    if_neg Bool.false_ne_true]

/-- Every capital letter, printable or not, is read behind an escape. -/
theorem escaped?_of_isUpper {c : Char} (capital : isUpper c = true) :
    escaped? c = some (shift (alt (lower c))) := by
  rw [escaped?_of_not_isControl (isControl_eq_false_of_isUpper capital), if_pos capital]

/-- The characters that are a key, but not that key with alt behind an escape. -/
def altless : Text := ['\t', ' ', '\x00', '\x1f']

/-- What the two rules give for one character: a name and its normal form with alt, unless
the character is a capital letter. -/
theorem escaped?_of_character?
    {c : Char} {key : Text} (other : c ≠ '\x1b') (answered : c ∉ altless)
    (read : character? c = some key) (small : isUpper c = false) :
    escaped? c = some (normalize (alt key)) := by
  have noTab : c ≠ '\t' := fun same => answered (same ▸ by decide)
  have noSpace : c ≠ ' ' := fun same => answered (same ▸ by decide)
  have noNull : c ≠ '\x00' := fun same => answered (same ▸ by decide)
  have noUnit : c ≠ '\x1f' := fun same => answered (same ▸ by decide)
  -- Without the four characters both rules ask the same questions in the same order.
  rw [character?, if_neg other] at read
  simp only [if_neg noTab, if_neg noSpace, if_neg noNull, if_neg noUnit] at read
  by_cases isEnd : isEnter c = true
  · rw [if_pos isEnd] at read
    cases read
    have normal : normalize (alt enter) = alt enter := by decide
    rw [escaped?, if_pos isEnd, normal]
  by_cases back : isBackspace c = true
  · rw [if_neg isEnd, if_pos back] at read
    cases read
    have normal : normalize (alt backspace) = alt backspace := by decide
    rw [escaped?, if_neg isEnd, if_pos back, normal]
  rw [if_neg isEnd, if_neg back] at read
  rw [escaped?, if_neg isEnd, if_neg back]
  cases found : controlLetter? c with
  | some letter =>
      rw [found] at read
      cases read
      rw [normalize_alt_ctrl_singleton, (plain_of_controlLetter? found).2]
  | none =>
      rw [found] at read
      dsimp only at read ⊢
      split at read
      · next printable =>
          cases read
          rw [small, if_neg Bool.false_ne_true, if_pos printable, normalize_alt_singleton]
      · cases read

private theorem not_isKey_of_mem_altless
    {c : Char} (member : c ∈ altless) {key : Text} (read : parse? [c] = some key) :
    isKey ['\x1b', c] (alt key) = false := by
  have all : altless.all (fun c =>
      (parse? [c]).all fun key => isKey ['\x1b', c] (alt key) = false) = true := by
    decide
  have here := List.all_eq_true.mp all c member
  rw [read] at here
  exact of_decide_eq_true here

/-- Only a printable character is a key that is named by one character. -/
theorem length_ne_one_or_eq
    {c : Char} {key : Text} (read : character? c = some key) :
    key.length ≠ 1 ∨ key = [c] := by
  rcases character?_cases read with word | withCtrl | ⟨letter, -, rfl⟩ | same
  · have long : ∀ key ∈ [escape, enter, tab, space, backspace], key.length ≠ 1 := by decide
    exact .inl (long key word)
  · have long : ∀ key ∈ [ctrl space, ctrl ['-']], key.length ≠ 1 := by decide
    exact .inl (long key withCtrl)
  · have long : (ctrl [letter]).length = 6 := rfl
    exact .inl (by rw [long]; decide)
  · exact .inr same

private theorem eq_singleton_of_isUpper
    {c : Char} {key : Text} (capital : isUpper c = true) (read : parse? [c] = some key) :
    key = [c] := by
  rw [parse?_of_not_isControl (isControl_eq_false_of_isUpper capital)] at read
  split at read
  · have noSpace : c ≠ ' ' := by
      intro same
      rw [same] at capital
      cases capital
    cases read
    exact if_neg noSpace
  · cases read

/-- A character that is a key is the key with alt behind an escape exactly if it is
neither a capital letter nor one of four characters.  A capital letter is the key with
shift and alt. -/
theorem isKey_escape_alt_iff {c : Char} (other : c ≠ '\x1b') :
    (∀ key, parse? [c] = some key →
      (isKey ['\x1b', c] (alt key) = true ↔
        (∀ d, key = [d] → isUpper d = false) ∧ c ∉ altless)) ∧
      (isUpper c = true → isKey ['\x1b', c] (shift (alt [c])) = true) := by
  have behind : parse? ['\x1b', c] = escaped? c := rfl
  refine ⟨?_, ?_⟩
  · intro key read
    by_cases member : c ∈ altless
    · rw [not_isKey_of_mem_altless member read]
      exact iff_of_false Bool.false_ne_true fun both => both.2 member
    rw [and_iff_left member, isKey_iff, behind]
    by_cases capital : isUpper c = true
    · -- The capital letter is its own name, and shift is read along.
      obtain rfl := eq_singleton_of_isUpper capital read
      rw [escaped?_of_isUpper capital, normalize_alt_singleton, Option.some.injEq]
      refine iff_of_false (shift_ne_alt _ _) ?_
      intro small
      rw [small c rfl] at capital
      cases capital
    · rw [Bool.not_eq_true] at capital
      refine iff_of_true (escaped?_of_character? other member read capital) ?_
      intro d single
      rw [single] at read
      rcases length_ne_one_or_eq read with long | same
      · exact absurd rfl long
      · rw [(List.cons.inj same).1]
        exact capital
  · intro capital
    rw [isKey_iff, normalize_shift_alt_singleton, behind]
    exact escaped?_of_isUpper capital

/-- The enter key, a letter with ctrl, the plus sign, and a capital letter with a small
form of two characters. -/
theorem isKey_escape_alt_iff_plus :
    isKey ['\x1b', '\n'] (alt enter) = true ∧
      isKey ['\x1b', '\x01'] (alt (ctrl ['a'])) = true ∧
      isKey ['\x1b', '+'] (alt ['+']) = true ∧
      isKey ['\x1b', 'İ'] (alt ['İ']) = false ∧
      isKey ['\x1b', 'İ'] (shift (alt ['İ'])) = true := by
  have long {key : Text} (two : key.length ≠ 1) : ∀ d, key = [d] → isUpper d = false := by
    intro d single
    rw [single] at two
    exact absurd rfl two
  have lineFeed := (@isKey_escape_alt_iff '\n' (by decide)).1 enter (by decide)
  have control := (@isKey_escape_alt_iff '\x01' (by decide)).1 (ctrl ['a']) (by decide)
  have plus := (@isKey_escape_alt_iff '+' (by decide)).1 ['+'] (by decide)
  obtain ⟨dotted, dottedShift⟩ := @isKey_escape_alt_iff 'İ' (by decide)
  refine ⟨?_, ?_, ?_, ?_, ?_⟩
  · exact lineFeed.mpr ⟨long (by decide), by decide⟩
  · exact control.mpr ⟨long (by decide), by decide⟩
  · refine plus.mpr ⟨?_, by decide⟩
    intro d same
    cases same
    decide
  · rw [← Bool.not_eq_true, dotted ['İ'] (by decide)]
    intro both
    exact absurd (both.1 'İ' rfl) (by decide)
  · exact dottedShift (by decide)

/-- The space and the tab are other keys behind an escape, and the controls for ctrl with
the space and with the minus sign are none. -/
theorem not_isKey_escape_space :
    parse? [' '] = some space ∧ (∀ d, space = [d] → isUpper d = false) ∧
      isKey ['\x1b', ' '] (alt space) = false ∧
      parse? ['\t'] = some tab ∧ isKey ['\x1b', '\t'] (alt tab) = false ∧
      isKey ['\x1b', '\t'] (ctrl (alt ['i'])) = true ∧
      parse? ['\x00'] = some (ctrl space) ∧ parse? ['\x1b', '\x00'] = none ∧
      parse? ['\x1f'] = some (ctrl ['-']) ∧ parse? ['\x1b', '\x1f'] = none := by
  refine ⟨by decide, ?_, by decide⟩
  intro d same
  have lengths := congrArg List.length same
  cases lengths

end Keychart.Key
