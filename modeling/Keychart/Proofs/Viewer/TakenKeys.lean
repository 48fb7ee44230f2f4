import Keychart.Key.Split
import Keychart.Viewer.Pane

/-!
# Keys that the query does not see

The session and the pane take their keys before the query.  With the usual keys,
whatever they take ends the session or holds a character that would leave a trace
in a pasted text.
-/

namespace Keychart

namespace Bindings

/-- The actions of the session and of the pane.  They come before the query. -/
def takenActions : List Action := .quit :: .reload :: Viewer.Pane.scrollActions

/-- Whether a key triggers one of them, so that the query does not see it. -/
def takes (bindings : Bindings) (data : Text) : Bool :=
  takenActions.any (bindings.triggers data)

section

variable {bindings : Bindings} {data other : Text}

private theorem triggers_congr (same : Key.parse? data = Key.parse? other) :
    bindings.triggers data = bindings.triggers other := by
  funext action
  simp only [triggers, Key.isKey, same]

private theorem takes_congr (same : Key.parse? data = Key.parse? other) :
    bindings.takes data = bindings.takes other := by
  rw [takes, takes, triggers_congr same]

theorem triggers_of_parse?_none (unknown : Key.parse? data = none) (action : Action) :
    bindings.triggers data action = false := by
  rw [triggers, List.any_eq_false]
  intro key _
  rw [Key.isKey, unknown]
  exact Bool.false_ne_true

theorem takes_of_parse?_none (unknown : Key.parse? data = none) :
    bindings.takes data = false := by
  rw [takes, List.any_eq_false]
  intro action _
  rw [triggers_of_parse?_none unknown]
  exact Bool.false_ne_true

end

/-- The characters that can be lost without a trace: those that end a line, which
no paste keeps, and those of the end mark. -/
def traceless : Text :=
  ['\n', '\r', '\x0b', '\x0c', '\x1c', '\x1d', '\x1e', '\u0085', '\u2028', '\u2029'] ++
    Key.pasteEnd

theorem not_isLineBoundary_of_not_mem_traceless {c : Char} (kept : c ∉ traceless) :
    Text.isLineBoundary c = false := by
  rw [← Bool.not_eq_true]
  intro boundary
  simp only [Text.isLineBoundary, Bool.or_eq_true, decide_eq_true_eq] at boundary
  apply kept
  apply List.mem_append_left
  simpa [or_assoc] using boundary

/-- What holds of them one by one holds of them all. -/
theorem forall_traceless {p : Char → Prop} [DecidablePred p]
    (holds : traceless.all (fun c => decide (p c)) = true) :
    ∀ c ∈ traceless, p c :=
  fun c member => of_decide_eq_true (List.all_eq_true.mp holds c member)

/-- A control sequence of such characters is the home key or the insert key, if it
is a key. -/
theorem controlSequence?_of_traceless {text : Text} (all : ∀ c ∈ text, c ∈ traceless) :
    Key.controlSequence? text ∈ [none, some Key.home, some Key.insert] := by
  have noCapital : 'Z' ∉ traceless := by decide
  have noSemicolon : ';' ∉ traceless := by decide
  have letters : ∀ c ∈ traceless, Key.letterKey? c = none :=
    forall_traceless (by decide)
  have digits :
      ∀ c ∈ traceless, Key.plainDigitKey? c ∈ [none, some Key.home, some Key.insert] :=
    forall_traceless (by decide)
  match text with
  | [] => exact List.Mem.head _
  | [c] =>
      have member := all c (List.Mem.head _)
      have other : c ≠ 'Z' := ne_of_mem_of_not_mem member noCapital
      rw [Key.controlSequence?, if_neg other, letters c member]
      exact List.Mem.head _
  | c :: d :: rest =>
      have member := all d (List.Mem.tail _ (List.Mem.head _))
      have other : d ≠ ';' := ne_of_mem_of_not_mem member noSemicolon
      rw [Key.controlSequence?, if_neg other]
      split
      · exact digits c (all c (List.Mem.head _))
      · exact List.Mem.head _

private theorem parse?_of_ne_escape {c : Char} (other : c ≠ '\x1b') (d : Char) (text : Text) :
    Key.parse? (c :: d :: text) = none := by
  simp [Key.parse?, other]

private theorem parse?_escape_of_ne {c : Char} (noBracket : c ≠ '[') (noShift : c ≠ 'O') (d : Char)
    (text : Text) :
    Key.parse? ('\x1b' :: c :: d :: text) = none := by
  simp [Key.parse?, noBracket, noShift]

/-- No sequence of such characters is taken but a single one. -/
theorem takes_usual_of_traceless
    {c d : Char} {text : Text} (all : ∀ e ∈ c :: d :: text, e ∈ traceless) :
    usual.takes (c :: d :: text) = false := by
  by_cases escape : c = '\x1b'
  · subst escape
    have afterEscape : d ∈ traceless := all d (List.Mem.tail _ (List.Mem.head _))
    cases text with
    | nil =>
        have stays : ∀ d ∈ traceless, usual.takes ['\x1b', d] = false :=
          forall_traceless (by decide +kernel)
        exact stays d afterEscape
    | cons e text =>
        by_cases bracket : d = '['
        · subst bracket
          have behind : ∀ f ∈ e :: text, f ∈ traceless := fun f member =>
            all f (List.Mem.tail _ (List.Mem.tail _ member))
          have keys := controlSequence?_of_traceless behind
          simp only [List.mem_cons, List.not_mem_nil, or_false] at keys
          rcases keys with unknown | home | insert
          · exact takes_of_parse?_none unknown
          · have same :
                Key.parse? ('\x1b' :: '[' :: e :: text) =
                  Key.parse? (Text.ofString "\x1b[1~") := home
            have stays : usual.takes (Text.ofString "\x1b[1~") = false := by decide
            exact (takes_congr same).trans stays
          · have same :
                Key.parse? ('\x1b' :: '[' :: e :: text) =
                  Key.parse? (Text.ofString "\x1b[2~") := insert
            have stays : usual.takes (Text.ofString "\x1b[2~") = false := by decide
            exact (takes_congr same).trans stays
        · have noShift : d ≠ 'O' := by
            intro same
            subst same
            revert afterEscape
            decide
          exact takes_of_parse?_none (parse?_escape_of_ne bracket noShift e text)
  · exact takes_of_parse?_none (parse?_of_ne_escape escape d text)

/-- A key that is taken ends the session, or holds a character that leaves a
trace. -/
theorem triggers_quit_of_takes_usual
    {data : Text} (taken : usual.takes data = true) (all : ∀ c ∈ data, c ∈ traceless) :
    usual.triggers data .quit = true := by
  match data with
  | [] => cases taken
  | [c] =>
      have quits :
          ∀ c ∈ traceless, usual.takes [c] = true → usual.triggers [c] .quit = true :=
        forall_traceless (by decide +kernel)
      exact quits c (all c (List.Mem.head _)) taken
  | c :: d :: text =>
      rw [takes_usual_of_traceless all] at taken
      cases taken

end Bindings

end Keychart
