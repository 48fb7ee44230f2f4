import Keychart.Proofs.Key.PlainCharacters
import Keychart.Proofs.Viewer.ControlCharacters
import Keychart.Proofs.Viewer.TakenKeys

/-!
# Pasting against typing

With the usual keys no character but a control character is a key of any action, so
typing it inserts it.  A paste leaves the query that typing its text leaves, wherever
the inputs that bring it are cut.
-/

namespace Keychart

namespace Bindings

private theorem triggers_usual_of_not_isControl
    {c : Char} (plain : Unicode.isControl c = false) (action : Action) :
    usual.triggers [c] action = false := by
  have named : ∀ key ∈ usual.keys action, Key.normalize key ≠ Key.space ∧
      (Key.normalize key).length ≠ 1 := by
    cases action <;> decide
  rw [triggers, List.any_eq_false]
  intro key member
  obtain ⟨notSpace, long⟩ := named key member
  by_cases printable : Unicode.isPrintable c = true
  · have read := Key.parse?_of_isPrintable printable
    rw [Key.isKey, read]
    dsimp only
    rw [decide_eq_true_eq, Key.normalize_of_isNormal (Key.isNormal_of_parse? read),
      Key.plainKey]
    intro same
    rw [← same] at notSpace long
    by_cases blank : c = ' '
    · exact notSpace (if_pos blank)
    · rw [if_neg blank] at long
      exact long rfl
  · rw [Key.isKey, Key.parse?_of_not_isControl plain, if_neg printable]
    exact Bool.false_ne_true

end Bindings

namespace Viewer.Query

variable {bindings : Bindings} {q : Query} {payload arrived first : Text} {later : List Text}

theorem insert_append (q : Query) (front back : Text) :
    (q.insert front).insert back = q.insert (front ++ back) := by
  rw [insert, insert, insert, List.append_assoc]

theorem insert_nil (q : Query) : q.insert [] = q := by
  rw [insert, List.append_nil]

private theorem read_usual_singleton
    {c : Char} (idle : q.paste = none) (plain : Unicode.isControl c = false) :
    q.read .usual [c] = q.insert [c] := by
  have noStart : ¬ Key.pasteStart <:+: [c] := by
    intro occurs
    have bound := occurs.length_le
    rw [Key.length_pasteStart] at bound
    exact absurd bound (by decide : ¬ 6 ≤ 1)
  have free : editingActions.find? (fun a => Bindings.usual.triggers [c] a) = none := by
    rw [List.find?_eq_none]
    intro action _
    rw [Bindings.triggers_usual_of_not_isControl plain]
    exact Bool.false_ne_true
  have noControl : [c].any Unicode.isControl = false := by
    rw [List.any_cons, plain]
    rfl
  rw [read_of_not_waiting (Text.splitAtMark?_eq_none_iff.mpr noStart) idle, pressKey, free]
  dsimp only
  rw [noControl, if_neg Bool.false_ne_true]

/-- Characters that control nothing, typed one by one, are inserted. -/
theorem foldl_read_typed
    (idle : q.paste = none) (plain : NoControl payload) :
    (payload.map fun c => [c]).foldl (read .usual) q = q.insert payload := by
  induction payload generalizing q with
  | nil => exact q.insert_nil.symm
  | cons c payload inductionHypothesis =>
      have rest : NoControl payload := fun d member =>
        plain d (List.mem_cons_of_mem c member)
      have still : (q.insert [c]).paste = none := idle
      rw [List.map_cons, List.foldl_cons, read_usual_singleton idle (plain c List.mem_cons_self),
        inductionHypothesis still rest, insert_append, List.singleton_append]

private theorem read_nil_of_not_waiting (bindings : Bindings) (idle : q.paste = none) :
    q.read bindings [] = q := by
  have free : editingActions.find? (fun a => bindings.triggers [] a) = none := by
    rw [List.find?_eq_none]
    intro action _
    rw [Bindings.triggers_of_parse?_none rfl]
    exact Bool.false_ne_true
  have missing : Text.splitAtMark? Key.pasteStart [] = none := by decide
  rw [read_of_not_waiting missing idle, pressKey, free]
  exact q.insert_nil

private theorem foldl_read_nothing
    (idle : q.paste = none) {inputs : List Text} (nothing : inputs.flatten = []) :
    inputs.foldl (read bindings) q = q := by
  induction inputs with
  | nil => rfl
  | cons input inputs inductionHypothesis =>
      rw [List.flatten_cons, List.append_eq_nil_iff] at nothing
      rw [List.foldl_cons, nothing.1, read_nil_of_not_waiting bindings idle]
      exact inductionHypothesis nothing.2

/-- The inputs behind a start mark complete the paste, wherever they are cut. -/
theorem foldl_read_of_waiting
    {inputs : List Text} (pastable : Key.Pastable payload) (waiting : q.paste = some arrived)
    (whole : arrived ++ inputs.flatten = payload ++ Key.pasteEnd)
    (more : inputs.flatten ≠ []) :
    inputs.foldl (read bindings) q = q.closed payload := by
  induction inputs generalizing q arrived with
  | nil => exact absurd rfl more
  | cons input inputs inductionHypothesis =>
      rw [List.flatten_cons, ← List.append_assoc] at whole
      have noStart : ¬ Key.pasteStart <:+: input := by
        apply pastable.noStart_of_infix
        rw [← whole]
        exact ⟨arrived, inputs.flatten, rfl⟩
      rw [List.foldl_cons]
      by_cases last : inputs.flatten = []
      · rw [last, List.append_nil] at whole
        rw [read_of_waiting_of_ends waiting noStart pastable whole]
        exact foldl_read_nothing rfl last
      · have noEnd := pastable.noEnd_of_more whole last
        rw [read_of_waiting_of_noEnd waiting noStart noEnd]
        exact inductionHypothesis rfl whole last

/-- A paste that comes over some inputs, the start mark uncut, ends as in one. -/
theorem foldl_read_of_pasteReads
    (bindings : Bindings) (q : Query) (reads : Key.PasteReads payload first later) :
    (first :: later).foldl (read bindings) q = q.closed payload := by
  obtain ⟨arrived, begins⟩ := reads.marked
  have whole := reads.whole
  rw [List.flatten_cons, ← begins, Key.bracketed, List.append_assoc] at whole
  have inside := List.append_cancel_left whole
  rw [List.foldl_cons, ← begins]
  by_cases last : later.flatten = []
  · rw [last, List.append_nil] at inside
    rw [inside, ← Key.bracketed, read_bracketed bindings q reads.pastable]
    exact foldl_read_nothing rfl last
  · have noEnd := reads.pastable.noEnd_of_more inside last
    rw [read_pasteStart_append_of_noEnd bindings q noEnd]
    exact foldl_read_of_waiting reads.pastable rfl inside last

private theorem closed_of_oneLine (idle : q.paste = none) (oneLine : Text.OneLine payload) :
    q.closed payload = q.insert payload := by
  have kept : (Text.lines payload).flatten = payload := by
    rw [Text.flatten_lines, List.filter_eq_self]
    intro c member
    rw [oneLine c member]
    rfl
  rw [closed, kept, insert, idle]

/-- A text without control characters can stand between the marks of a paste. -/
theorem pastable_of_noControl (plain : NoControl payload) :
    Key.Pastable payload := by
  have noEscape : '\x1b' ∉ payload := by
    intro member
    have control := plain '\x1b' member
    exact absurd control (by decide)
  constructor
  · intro occurs
    exact noEscape (occurs.subset (by decide))
  · intro occurs
    exact noEscape (occurs.subset (by decide))

/-- A paste of plain characters on one line, cut anywhere behind its start mark, leaves
the query that typing them leaves. -/
theorem paste_eq_typed
    (idle : q.paste = none) (plain : NoControl payload)
    (oneLine : Text.OneLine payload) (marked : Key.pasteStart <:+: first)
    (whole : (first :: later).flatten = Key.bracketed payload) :
    let pasted := (first :: later).foldl (read .usual) q
    let typed := (payload.map fun c => [c]).foldl (read .usual) q
    pasted.value = typed.value ∧ pasted.cursor = typed.cursor ∧ pasted = typed ∧
      typed.value = q.before ++ payload ++ q.after ∧
      typed.cursor = q.cursor + payload.length := by
  intro pasted typed
  have begins : Key.pasteStart <+: first := by
    have front : first <+: Key.bracketed payload := by
      rw [← whole, List.flatten_cons]
      exact List.prefix_append first later.flatten
    exact List.prefix_of_prefix_length_le (List.prefix_append _ _) front marked.length_le
  have inserted : typed = q.insert payload := foldl_read_typed idle plain
  have same : pasted = typed := by
    have reads : Key.PasteReads payload first later :=
      ⟨pastable_of_noControl plain, begins, whole⟩
    rw [inserted, ← closed_of_oneLine idle oneLine]
    exact foldl_read_of_pasteReads .usual q reads
  rw [same, inserted]
  exact ⟨rfl, rfl, rfl, rfl, List.length_append⟩

/-- A word, an accent of its own, and blanks that are not all spaces. -/
def typedWords : Text := Text.ofString "go e\u0301\u00a0+"

def cutWords : List Text :=
  [Text.ofString "\x1b[200~go e", [], Text.ofString "\u0301\u00a0+\x1b", Text.ofString "[201~"]

def amid : Query := { before := ['a'], after := ['z'] }

theorem paste_eq_typed_words :
    amid.paste = none ∧ NoControl typedWords ∧ Text.OneLine typedWords ∧
      Key.pasteStart <:+: Text.ofString "\x1b[200~go e" ∧
      cutWords.flatten = Key.bracketed typedWords ∧
      cutWords.foldl (read .usual) amid =
        (typedWords.map fun c => [c]).foldl (read .usual) amid := by
  have plain : NoControl typedWords := by decide
  have oneLine : Text.OneLine typedWords := by decide
  have marked : Key.pasteStart <:+: Text.ofString "\x1b[200~go e" := by decide
  have whole : cutWords.flatten = Key.bracketed typedWords := by decide
  obtain ⟨-, -, same, -⟩ := paste_eq_typed (q := amid) rfl plain oneLine marked whole
  exact ⟨rfl, plain, oneLine, marked, whole, same⟩

end Viewer.Query

end Keychart
