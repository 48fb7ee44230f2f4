import Keychart.Text.Basic
import Mathlib.Data.List.Basic

/-!
# Lines that are joined again

Lines without a boundary of their own, written one below the other, are the
lines of the text that they make.
-/

namespace Keychart.Text

/-- Whether no character of a text ends a line. -/
def OneLine (text : Text) : Prop := ∀ c ∈ text, isLineBoundary c = false

instance (text : Text) : Decidable (OneLine text) :=
  List.decidableBAll _ text

theorem oneLine_append_iff {front back : Text} :
    OneLine (front ++ back) ↔ OneLine front ∧ OneLine back :=
  List.forall_mem_append

theorem oneLine_cons_iff {c : Char} {text : Text} :
    OneLine (c :: text) ↔ isLineBoundary c = false ∧ OneLine text :=
  List.forall_mem_cons

theorem OneLine.space_cons {text : Text} (oneLine : OneLine text) :
    OneLine (' ' :: text) :=
  oneLine_cons_iff.mpr ⟨by decide, oneLine⟩

theorem OneLine.of_subset {part whole : Text} (oneLine : OneLine whole)
    (subset : part ⊆ whole) : OneLine part :=
  fun c member => oneLine c (subset member)

theorem OneLine.not_mem_lineFeed {text : Text} (oneLine : OneLine text) :
    '\n' ∉ text := by
  intro member
  have boundary := oneLine '\n' member
  cases boundary

private theorem lines_cons_of_not_isLineBoundary {c : Char}
    (inside : isLineBoundary c = false) (text : Text) :
    lines (c :: text) =
      match lines text with
      | [] => [[c]]
      | line :: rest => (c :: line) :: rest := by
  rw [lines.eq_def]
  split
  next same => cases same
  next same =>
    injection same with isReturn _
    subst isReturn
    cases inside
  next same =>
    injection same with headSame tailSame
    subst headSame tailSame
    have stays : ¬ isLineBoundary c = true := by
      simp [inside]
    cases lines text <;> exact if_neg stays

theorem lines_cons_of_isLineBoundary {c : Char} {text : Text}
    (boundary : isLineBoundary c = true) (apart : ¬ (c = '\r' ∧ text.head? = some '\n')) :
    lines (c :: text) = [] :: lines text := by
  rw [lines.eq_def]
  split
  next same => cases same
  next same =>
    injection same with isReturn behind
    exact absurd ⟨isReturn, by rw [behind]; rfl⟩ apart
  next same =>
    injection same with headSame tailSame
    subst headSame tailSame
    cases lines text <;> exact if_pos boundary

theorem lines_lineFeed_cons (text : Text) :
    lines ('\n' :: text) = [] :: lines text := rfl

/-- A line ends where a new one starts. -/
theorem lines_append_of_lines_eq
    {line text : Text} {rest : List Text} (oneLine : OneLine line)
    (starts : lines text = [] :: rest) :
    lines (line ++ text) = line :: rest := by
  induction line with
  | nil => exact starts
  | cons c line inductionHypothesis =>
      obtain ⟨inside, behind⟩ := oneLine_cons_iff.mp oneLine
      rw [List.cons_append, lines_cons_of_not_isLineBoundary inside, inductionHypothesis behind]

theorem lines_append_lineFeed {line : Text} (oneLine : OneLine line)
    (text : Text) :
    lines (line ++ '\n' :: text) = line :: lines text :=
  lines_append_of_lines_eq oneLine (lines_lineFeed_cons text)

theorem lines_of_oneLine {line : Text} (oneLine : OneLine line)
    (nonempty : line ≠ []) :
    lines line = [line] := by
  induction line with
  | nil => exact absurd rfl nonempty
  | cons c line inductionHypothesis =>
      obtain ⟨inside, rest⟩ := oneLine_cons_iff.mp oneLine
      rw [lines_cons_of_not_isLineBoundary inside]
      cases line with
      | nil => rfl
      | cons d line =>
          rw [inductionHypothesis rest (List.cons_ne_nil d line)]

theorem join_lineFeed_cons (line : Text) {lines : List Text} (more : lines ≠ []) :
    join ['\n'] (line :: lines) = line ++ '\n' :: join ['\n'] lines := by
  cases lines with
  | nil => exact absurd rfl more
  | cons next lines => simp [join]

/-- Joined by line feeds, lines with others below are read back in front of these. -/
theorem lines_join_append
    {front back : List Text} (frontLines : ∀ line ∈ front, OneLine line)
    (below : back ≠ []) :
    lines (join ['\n'] (front ++ back)) = front ++ lines (join ['\n'] back) := by
  induction front with
  | nil => rfl
  | cons line front inductionHypothesis =>
      have rest :=
        inductionHypothesis fun l member =>
          frontLines l (List.Mem.tail line member)
      have more : front ++ back ≠ [] := by
        intro empty
        exact below (List.append_eq_nil_iff.mp empty).2
      rw [List.cons_append, join_lineFeed_cons line more,
        lines_append_lineFeed (frontLines line (List.Mem.head front)), rest,
        List.cons_append]

/-- Joined by line feeds, lines are read back as they were, if the last is not
empty: an empty last line leaves no trace. -/
theorem lines_join_concat
    {front : List Text} {last : Text} (frontLines : ∀ line ∈ front, OneLine line)
    (lastLine : OneLine last) (nonempty : last ≠ []) :
    lines (join ['\n'] (front ++ [last])) = front ++ [last] := by
  have below : [last] ≠ [] := List.cons_ne_nil last []
  rw [lines_join_append frontLines below]
  exact congrArg (front ++ ·) (lines_of_oneLine lastLine nonempty)

/-- Joined without their boundaries, the lines hold all else. -/
theorem flatten_lines (text : Text) :
    (lines text).flatten = text.filter fun c => !isLineBoundary c := by
  fun_induction lines text with
  | case1 => rfl
  | case2 text inductionHypothesis =>
      exact inductionHypothesis
  | case3 c text notReturn boundary inductionHypothesis =>
      rw [List.filter_cons_of_neg (by simp [boundary])]
      exact inductionHypothesis
  | case4 c text notReturn inside empty inductionHypothesis =>
      rw [List.filter_cons_of_pos (by simp [inside]), ← inductionHypothesis, empty]
      rfl
  | case5 c text notReturn inside line rest more inductionHypothesis =>
      rw [List.filter_cons_of_pos (by simp [inside]), ← inductionHypothesis, more]
      rfl

theorem oneLine_of_mem_lines {text line : Text} (member : line ∈ lines text) :
    OneLine line := by
  intro c inLine
  have kept : c ∈ text.filter fun c => !isLineBoundary c := by
    rw [← flatten_lines]
    exact List.mem_flatten.mpr ⟨line, member, inLine⟩
  simpa using (List.mem_filter.mp kept).2

/-- The text of one line is itself. -/
theorem onlyLine?_of_not_mem {text : Text} (noFeed : '\n' ∉ text) :
    onlyLine? text = some text := by
  induction text with
  | nil => rfl
  | cons c text inductionHypothesis =>
      have different : c ≠ '\n' := by
        rintro rfl
        exact noFeed (List.Mem.head text)
      have rest :=
        inductionHypothesis fun member => noFeed (List.Mem.tail c member)
      cases text with
      | nil => rw [onlyLine?, if_neg different]
      | cons d text =>
          rw [onlyLine?, if_neg different, rest]
          · rfl
          · intro same
            cases same

theorem not_mem_universalNewlines (text : Text) : '\r' ∉ universalNewlines text := by
  fun_induction universalNewlines text with
  | case1 => exact List.not_mem_nil
  | case2 text inductionHypothesis =>
      exact List.not_mem_cons_of_ne_of_not_mem (by decide) inductionHypothesis
  | case3 c text _ inductionHypothesis =>
      refine List.not_mem_cons_of_ne_of_not_mem ?_ inductionHypothesis
      by_cases carriageReturn : c = '\r'
      · rw [if_pos carriageReturn]
        decide
      · rw [if_neg carriageReturn]
        exact Ne.symm carriageReturn

end Keychart.Text
