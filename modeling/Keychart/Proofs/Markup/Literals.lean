import Keychart.Proofs.Markup.Tuples

/-!
# Parentheses in string literals

The parenthesis that closes a tuple is told from those of the action by counting, and
the count makes no difference between the code of the action and its string literals.
So an action in whose code as many parentheses open as close comes back as it was written
exactly if no more of them open than close in its literals.  Otherwise it keeps the
parenthesis of the tuple.
-/

namespace Keychart.Markup

open Text Unicode

/-- How many characters stand behind the opening quote of a string literal, up to the
quote that closes it and with that one.  A backslash takes the next character along. -/
def literalLength? : Text → Option Nat
  | [] => none
  | '"' :: _ => some 1
  | '\\' :: _ :: rest => (literalLength? rest).map (· + 2)
  | _ :: rest => (literalLength? rest).map (· + 1)

/-- The code of a text and its string literals, quotes included.  The number tells how many
characters in front belong to a literal that has begun.  A quote that nothing closes
begins none. -/
def splitLiterals : Nat → Text → Text × Text
  | _, [] => ([], [])
  | 0, c :: rest =>
    match if c = '"' then literalLength? rest else none with
    | some n => ((splitLiterals n rest).1, c :: (splitLiterals n rest).2)
    | none => (c :: (splitLiterals 0 rest).1, (splitLiterals 0 rest).2)
  | n + 1, c :: rest => ((splitLiterals n rest).1, c :: (splitLiterals n rest).2)

def codeOf (text : Text) : Text := (splitLiterals 0 text).1

def literalsOf (text : Text) : Text := (splitLiterals 0 text).2

private theorem count_splitLiterals (n : Nat) (text : Text) (c : Char) :
    (splitLiterals n text).1.count c + (splitLiterals n text).2.count c = text.count c := by
  fun_induction splitLiterals n text with
  | case1 => rfl
  | case2 d rest n begins inductionHypothesis =>
      simp only [List.count_cons]
      omega
  | case3 d rest none inductionHypothesis =>
      simp only [List.count_cons]
      omega
  | case4 n d rest inductionHypothesis =>
      simp only [List.count_cons]
      omega

private theorem count_codeOf_add_count_literalsOf (text : Text) (c : Char) :
    (codeOf text).count c + (literalsOf text).count c = text.count c :=
  count_splitLiterals 0 text c

private theorem count_le_count_iff_of_balanced
    {text : Text} (balanced : (codeOf text).count '(' = (codeOf text).count ')') :
    text.count '(' ≤ text.count ')' ↔
      (literalsOf text).count '(' ≤ (literalsOf text).count ')' := by
  have opens := count_codeOf_add_count_literalsOf text '('
  have ends := count_codeOf_add_count_literalsOf text ')'
  omega

def tuple (keys action : Text) : Text := '(' :: '"' :: (keys ++ '"' :: bindingTail action)

private theorem binding?_tuple
    {keys action : Text} (unquoted : '"' ∉ keys) (visible : ∃ c ∈ keys, isBlank c = false)
    (noFeed : '\n' ∉ action) (trimmed : Trimmed action) :
    binding? (tuple keys action) =
      some (trim keys,
        if action.count '(' ≤ action.count ')' then action else action ++ [')']) := by
  have read : tupleStart? (tuple keys action) = some (keys, bindingTail action) := by
    have quoted := quotedPrefix?_quoted unquoted (not_mem_bindingTail noFeed)
    rw [tuple, tupleStart?, if_pos rfl, trimStart_cons_of_not_isBlank (by decide), quoted]
  obtain ⟨c, member, notBlank⟩ := visible
  have kept := trim_ne_nil_of_mem member notBlank
  rw [binding?_of_tupleStart?_eq_some read, if_neg kept, actionOfTail_bindingTail trimmed]

/-- Of a tuple whose action has balanced code, that is, as many opening as closing
parentheses in it, the keys are read without the white space around them.  The action is
read as it was written exactly if no more parentheses open than close in its string
literals, and with the parenthesis of the tuple otherwise. -/
theorem binding?_tuple_iff_literals
    {keys action : Text} (unquoted : '"' ∉ keys) (visible : ∃ c ∈ keys, isBlank c = false)
    (noFeed : '\n' ∉ action) (trimmed : Trimmed action)
    (balanced : (codeOf action).count '(' = (codeOf action).count ')') :
    (binding? (tuple keys action) = some (trim keys, action) ↔
        (literalsOf action).count '(' ≤ (literalsOf action).count ')') ∧
      (¬ (literalsOf action).count '(' ≤ (literalsOf action).count ')' →
        binding? (tuple keys action) = some (trim keys, action ++ [')'])) := by
  have read := binding?_tuple unquoted visible noFeed trimmed
  simp only [count_le_count_iff_of_balanced balanced] at read
  constructor
  · constructor
    · intro whole
      by_contra opens
      rw [read, if_neg opens] at whole
      have same := (Prod.mk.inj (Option.some.inj whole)).2
      exact absurd same (by simp)
    · intro closes
      rw [read, if_pos closes]
  · intro opens
    rw [read, if_neg opens]

/-- An action with nested parentheses, and one that closes in a literal with quotes in it. -/
def nestedSpawn : Text := Text.ofString "spawn (shell (\"echo \\\"a)\\\"\" ++ x))"

theorem binding?_tuple_iff_literals_nested :
    codeOf nestedSpawn = Text.ofString "spawn (shell ( ++ x))" ∧
      literalsOf nestedSpawn = Text.ofString "\"echo \\\"a)\\\"\"" ∧
      binding? (tuple (Text.ofString " M-o ") nestedSpawn) =
        some (Text.ofString "M-o", nestedSpawn) := by
  have code : codeOf nestedSpawn = Text.ofString "spawn (shell ( ++ x))" := by
    decide
  have literals : literalsOf nestedSpawn = Text.ofString "\"echo \\\"a)\\\"\"" := by
    decide
  have trimmed : Trimmed nestedSpawn := trim_eq_self_iff.mp (by decide)
  have balanced : (codeOf nestedSpawn).count '(' = (codeOf nestedSpawn).count ')' := by
    rw [code]
    decide
  have unquoted : '"' ∉ Text.ofString " M-o " := by
    decide
  have read := binding?_tuple_iff_literals unquoted ⟨'M', by decide, by decide⟩
    (by decide) trimmed balanced
  refine ⟨code, literals, read.1.mpr ?_⟩
  rw [literals]
  decide

/-- An action with a parenthesis in its literal that nothing closes. -/
def openSpawn : Text := Text.ofString "spawn \"echo (\""

/-- The code of the action has no parentheses, and that of the tuple stays. -/
theorem binding?_tuple_ne_openSpawn :
    codeOf openSpawn = Text.ofString "spawn " ∧
      binding? (tuple (Text.ofString "M-o") openSpawn) =
        some (Text.ofString "M-o", openSpawn ++ [')']) ∧
      binding? (tuple (Text.ofString "M-o") openSpawn) ≠
        some (Text.ofString "M-o", openSpawn) := by
  decide

end Keychart.Markup
