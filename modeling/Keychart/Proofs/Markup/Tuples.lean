import Keychart.Proofs.Markup.WrittenLine

/-!
# The first tuple of a line

A tuple opens at a parenthesis with nothing but white space between it and a text in
quotes.  A line of code holds the binding of the first tuple that opens in it, and
none if the keys of that one are blank.  Its action is cut out of what stands behind
the keys: commas and white space are left out around it, and one parenthesis at most.
-/

namespace Keychart.Markup

open Text Unicode

/-- The texts that open a tuple, with what stands in its quotes and behind them. -/
inductive OpensTuple : Text → Text → Text → Prop
  | intro {gap quoted : Text} (blank : ∀ c ∈ gap, isBlank c = true) (unquoted : '"' ∉ quoted)
      (tail : Text) :
      OpensTuple ('(' :: (gap ++ '"' :: (quoted ++ '"' :: tail))) quoted tail

/-- The first place of a line at which a tuple opens. -/
structure FirstTuple (line : Text) (place : Nat) (quoted tail : Text) : Prop where
  opens : OpensTuple (line.drop place) quoted tail
  first : ∀ earlier < place, ∀ quoted tail, ¬ OpensTuple (line.drop earlier) quoted tail

section Lines

variable {line quoted tail : Text}

theorem quotedPrefix?_eq_some_iff {text : Text} (noFeed : '\n' ∉ text) :
    quotedPrefix? text = some (quoted, tail) ↔
      text = '"' :: (quoted ++ '"' :: tail) ∧ '"' ∉ quoted := by
  constructor
  · intro found
    unfold quotedPrefix? at found
    split at found
    next rest =>
      split at found
      next => cases found
      next quote behind closed =>
        obtain ⟨whole, unquoted⟩ := eq_append_of_dropWhile_quoted closed
        have inside : '\n' ∉ behind := by
          intro member
          apply noFeed
          rw [whole]
          simp [member]
        rw [onlyLine?_of_not_mem inside, Option.map_some] at found
        cases found
        exact ⟨congrArg ('"' :: ·) whole, unquoted⟩
    next => cases found
  · rintro ⟨rfl, unquoted⟩
    apply quotedPrefix?_quoted unquoted
    intro member
    exact noFeed (by simp [member])

theorem opensTuple_parenthesis_iff {rest : Text} (noFeed : '\n' ∉ rest) :
    OpensTuple ('(' :: rest) quoted tail ↔
      quotedPrefix? (trimStart rest) = some (quoted, tail) := by
  have inside : '\n' ∉ trimStart rest := fun member => noFeed (trimFront_subset _ rest member)
  rw [quotedPrefix?_eq_some_iff inside]
  constructor
  · intro opens
    cases opens with
    | @intro gap quoted blank unquoted tail =>
        exact ⟨trimStart_append_cons blank (by decide) (quoted ++ '"' :: tail), unquoted⟩
  · rintro ⟨start, unquoted⟩
    obtain ⟨gap, whole, blank⟩ := exists_trimStart rest
    rw [whole, start]
    exact .intro blank unquoted tail

private theorem exists_firstTuple_iff_of_opensTuple
    {otherQuoted otherTail : Text} (opens : OpensTuple line otherQuoted otherTail) :
    (∃ place, FirstTuple line place quoted tail) ↔ OpensTuple line quoted tail := by
  constructor
  · rintro ⟨place, found⟩
    cases place with
    | zero => exact found.opens
    | succ place => exact absurd opens (found.first 0 (Nat.succ_pos place) _ _)
  · intro opensHere
    exact ⟨0, opensHere, fun earlier before => absurd before (Nat.not_lt_zero earlier)⟩

theorem firstTuple_succ_iff
    {c : Char} (closed : ∀ quoted tail, ¬ OpensTuple (c :: line) quoted tail) {place : Nat} :
    FirstTuple (c :: line) (place + 1) quoted tail ↔ FirstTuple line place quoted tail := by
  constructor
  · intro found
    refine ⟨found.opens, ?_⟩
    intro earlier before
    exact found.first (earlier + 1) (Nat.succ_lt_succ before)
  · intro found
    refine ⟨found.opens, ?_⟩
    intro earlier before
    cases earlier with
    | zero => exact closed
    | succ earlier => exact found.first earlier (Nat.lt_of_succ_lt_succ before)

theorem exists_firstTuple_cons_iff
    {c : Char} (closed : ∀ quoted tail, ¬ OpensTuple (c :: line) quoted tail) :
    (∃ place, FirstTuple (c :: line) place quoted tail) ↔
      ∃ place, FirstTuple line place quoted tail := by
  constructor
  · rintro ⟨place, found⟩
    cases place with
    | zero => exact absurd found.opens (closed quoted tail)
    | succ place => exact ⟨place, (firstTuple_succ_iff closed).mp found⟩
  · rintro ⟨place, found⟩
    exact ⟨place + 1, (firstTuple_succ_iff closed).mpr found⟩

theorem tupleStart?_eq_some_iff (noFeed : '\n' ∉ line) :
    tupleStart? line = some (quoted, tail) ↔ ∃ place, FirstTuple line place quoted tail := by
  -- Along the line: at a parenthesis a tuple opens or none does, and where none does the
  -- first one is the first of the rest, one place further on.
  induction line with
  | nil =>
      constructor
      · intro found
        cases found
      · rintro ⟨place, found⟩
        have opens := found.opens
        rw [List.drop_nil] at opens
        cases opens
  | cons c line inductionHypothesis =>
      have behind : '\n' ∉ line := fun member => noFeed (List.mem_cons_of_mem c member)
      rw [tupleStart?]
      by_cases parenthesis : c = '('
      · subst parenthesis
        rw [if_pos rfl]
        cases read : quotedPrefix? (trimStart line) with
        | some found =>
            have opens : OpensTuple ('(' :: line) found.1 found.2 :=
              (opensTuple_parenthesis_iff behind).mpr read
            rw [exists_firstTuple_iff_of_opensTuple opens, opensTuple_parenthesis_iff behind, read]
        | none =>
            have closed : ∀ quoted tail, ¬ OpensTuple ('(' :: line) quoted tail := by
              intro quoted tail opens
              rw [opensTuple_parenthesis_iff behind, read] at opens
              cases opens
            rw [exists_firstTuple_cons_iff closed]
            exact inductionHypothesis behind
      · have closed : ∀ quoted tail, ¬ OpensTuple (c :: line) quoted tail := by
          intro quoted tail opens
          cases opens
          exact parenthesis rfl
        rw [if_neg parenthesis, exists_firstTuple_cons_iff closed]
        exact inductionHypothesis behind

/-- If any tuple opens, one is the first. -/
theorem exists_firstTuple_of_opensTuple {place : Nat}
    (opens : OpensTuple (line.drop place) quoted tail) :
    ∃ first quoted tail, FirstTuple line first quoted tail := by
  induction place using Nat.strong_induction_on generalizing quoted tail with
  | _ place inductionHypothesis =>
      by_cases sooner : ∃ earlier < place, ∃ quoted tail, OpensTuple (line.drop earlier) quoted tail
      · obtain ⟨earlier, before, quoted, tail, opensThere⟩ := sooner
        exact inductionHypothesis earlier before opensThere
      · refine ⟨place, quoted, tail, opens, ?_⟩
        intro earlier before quoted tail opensThere
        exact sooner ⟨earlier, before, quoted, tail, opensThere⟩

theorem tupleStart?_eq_none_iff (noFeed : '\n' ∉ line) :
    tupleStart? line = none ↔ ∀ place quoted tail, ¬ OpensTuple (line.drop place) quoted tail := by
  constructor
  · intro missing place quoted tail opens
    obtain ⟨first, quoted, tail, found⟩ := exists_firstTuple_of_opensTuple opens
    have some := (tupleStart?_eq_some_iff noFeed).mpr ⟨first, found⟩
    rw [missing] at some
    cases some
  · intro closed
    cases read : tupleStart? line with
    | none => rfl
    | some found =>
        obtain ⟨place, first⟩ := (tupleStart?_eq_some_iff noFeed).mp read
        exact absurd first.opens (closed place _ _)

end Lines

/-- The texts that an action is cut out of: commas and white space stand in front of it,
white space behind it, and there a parenthesis that closes more than was opened. -/
inductive CutOut (action : Text) : Text → Prop
  | whole {front back : Text} (spaced : ∀ c ∈ front, isBlank c = true ∨ c = ',')
      (blank : ∀ c ∈ back, isBlank c = true)
      (balanced : action.getLast? = some ')' → action.count ')' ≤ action.count '(') :
      CutOut action (front ++ action ++ back)
  | closed {front gap back : Text} (spaced : ∀ c ∈ front, isBlank c = true ∨ c = ',')
      (gapBlank : ∀ c ∈ gap, isBlank c = true) (blank : ∀ c ∈ back, isBlank c = true)
      (closes : action.count '(' ≤ action.count ')') :
      CutOut action (front ++ action ++ gap ++ ')' :: back)

private theorem count_eq_zero_of_blank
    {text : Text} (blank : ∀ c ∈ text, isBlank c = true) {c : Char} (visible : isBlank c = false) :
    text.count c = 0 := by
  apply List.count_eq_zero_of_not_mem
  intro member
  exact ne_of_isBlank (blank c member) visible rfl

private theorem exists_body (tail : Text) :
    ∃ front back, tail = front ++ trim (trimFront (· = ',') (trim tail)) ++ back ∧
      (∀ c ∈ front, isBlank c = true ∨ c = ',') ∧ ∀ c ∈ back, isBlank c = true := by
  obtain ⟨outerFront, outerBack, whole, outerFrontBlank, outerBackBlank⟩ := exists_trim tail
  obtain ⟨innerFront, innerBack, inner, innerFrontBlank, innerBackBlank⟩ :=
    exists_trim (trimFront (· = ',') (trim tail))
  have commas :
      trim tail = (trim tail).takeWhile (· = ',') ++ trimFront (· = ',') (trim tail) :=
    List.takeWhile_append_dropWhile.symm
  refine ⟨outerFront ++ (trim tail).takeWhile (· = ',') ++ innerFront, innerBack ++ outerBack,
    ?_, ?_, ?_⟩
  · conv_lhs => rw [whole, commas, inner]
    simp only [List.append_assoc]
  · intro c member
    rcases List.mem_append.mp member with front | innerMember
    · rcases List.mem_append.mp front with outerMember | comma
      · exact Or.inl (outerFrontBlank c outerMember)
      · exact Or.inr (by simpa using List.mem_takeWhile_imp comma)
    · exact Or.inl (innerFrontBlank c innerMember)
  · exact List.forall_mem_append.mpr ⟨innerBackBlank, outerBackBlank⟩

private theorem trimmed_actionOfTail (tail : Text) : Trimmed (actionOfTail tail) := by
  unfold actionOfTail
  dsimp only
  split
  · exact (trimmed_trim _).trimEnd_of_begins (List.dropLast_prefix _)
  · exact trimmed_trim _

private theorem cutOut_actionOfTail (tail : Text) : CutOut (actionOfTail tail) tail := by
  obtain ⟨front, back, whole, spaced, blank⟩ := exists_body tail
  unfold actionOfTail
  dsimp only
  generalize trim (trimFront (· = ',') (trim tail)) = body at whole
  split
  next closes =>
    rw [Bool.and_eq_true, decide_eq_true_eq, decide_eq_true_eq] at closes
    obtain ⟨last, more⟩ := closes
    obtain ⟨inner, rfl⟩ := List.getLast?_eq_some_iff.mp last
    rw [List.dropLast_concat]
    obtain ⟨gap, same, gapBlank⟩ := exists_trimEnd inner
    have noOpening : gap.count '(' = 0 := count_eq_zero_of_blank gapBlank (by decide)
    have noClosing : gap.count ')' = 0 := count_eq_zero_of_blank gapBlank (by decide)
    have shape :
        tail = front ++ trimEnd inner ++ gap ++ ')' :: back := by
      rw [whole]
      conv_lhs => rw [same]
      simp only [List.append_assoc, List.singleton_append]
    have opens : (inner ++ [')']).count '(' = (trimEnd inner).count '(' := by
      conv_lhs => rw [same]
      simp [noOpening]
    have ends : (inner ++ [')']).count ')' = (trimEnd inner).count ')' + 1 := by
      conv_lhs => rw [same]
      simp [noClosing]
    rw [opens, ends] at more
    rw [shape]
    exact .closed spaced gapBlank blank (Nat.le_of_lt_succ more)
  next stays =>
    rw [Bool.and_eq_true, decide_eq_true_eq, decide_eq_true_eq] at stays
    rw [whole]
    refine .whole spaced blank ?_
    intro last
    exact Nat.le_of_not_lt fun more => stays ⟨last, more⟩

/-! ## The binding of a line -/

theorem binding?_of_tupleStart?_eq_some
    {line quoted tail : Text} (found : tupleStart? line = some (quoted, tail)) :
    binding? line =
      if trim quoted = [] then none else some (trim quoted, actionOfTail tail) := by
  rw [binding?, found]
  dsimp only
  split
  next blank => rw [if_pos blank]
  next visible => rw [if_neg visible]

theorem binding?_eq_none_iff {line : Text} (noFeed : '\n' ∉ line) :
    binding? line = none ↔
      (∀ place quoted tail, ¬ OpensTuple (line.drop place) quoted tail) ∨
        ∃ place quoted tail, FirstTuple line place quoted tail ∧ ∀ c ∈ quoted, isBlank c = true := by
  cases read : tupleStart? line with
  | none =>
      have closed := (tupleStart?_eq_none_iff noFeed).mp read
      have missing : binding? line = none := by
        rw [binding?, read]
      exact ⟨fun _ => Or.inl closed, fun _ => missing⟩
  | some found =>
      obtain ⟨quoted, tail⟩ := found
      rw [binding?_of_tupleStart?_eq_some read]
      constructor
      · intro missing
        obtain ⟨place, first⟩ := (tupleStart?_eq_some_iff noFeed).mp read
        have empty : trim quoted = [] := by
          by_contra kept
          rw [if_neg kept] at missing
          cases missing
        exact Or.inr ⟨place, quoted, tail, first, trim_eq_nil_iff.mp empty⟩
      · rintro (closed | ⟨place, otherQuoted, otherTail, first, blank⟩)
        · obtain ⟨place, first⟩ := (tupleStart?_eq_some_iff noFeed).mp read
          exact absurd first.opens (closed place quoted tail)
        · have again := (tupleStart?_eq_some_iff noFeed).mpr ⟨place, first⟩
          rw [read] at again
          cases again
          exact if_pos (trim_eq_nil_iff.mpr blank)

/-- A line without line feeds holds no binding exactly if no tuple opens in it or the first
that opens has blank keys.  Otherwise it holds the keys of that one without the white
space around them, and a trimmed action that is cut out of what stands behind. -/
theorem binding?_of_first_tuple {line : Text} (noFeed : '\n' ∉ line) :
    (binding? line = none ↔
        (∀ place quoted tail, ¬ OpensTuple (line.drop place) quoted tail) ∨
          ∃ place quoted tail, FirstTuple line place quoted tail ∧
            ∀ c ∈ quoted, isBlank c = true) ∧
      ∀ place quoted tail, FirstTuple line place quoted tail →
        (∃ c ∈ quoted, isBlank c = false) →
          ∃ action, binding? line = some (trim quoted, action) ∧ Trimmed action ∧
            CutOut action tail := by
  refine ⟨binding?_eq_none_iff noFeed, ?_⟩
  rintro place quoted tail first ⟨c, member, visible⟩
  have read := (tupleStart?_eq_some_iff noFeed).mpr ⟨place, first⟩
  have kept := trim_ne_nil_of_mem member visible
  refine ⟨actionOfTail tail, ?_, trimmed_actionOfTail tail, cutOut_actionOfTail tail⟩
  rw [binding?_of_tupleStart?_eq_some read, if_neg kept]

/-- A quote that opens no tuple, a parenthesis that opens none, and wide spaces. -/
def wideTuple : Text := Text.ofString "a \" (f (\u2003\" M-b \"\u00a0,,\u2003g (h) )"

theorem binding?_of_first_tuple_wide :
    ∃ place tail, FirstTuple wideTuple place (Text.ofString " M-b ") tail ∧
      binding? wideTuple = some (Text.ofString "M-b", Text.ofString "g (h)") ∧
      CutOut (Text.ofString "g (h)") tail := by
  have noFeed : '\n' ∉ wideTuple := by
    decide
  have read : tupleStart? wideTuple =
      some (Text.ofString " M-b ", Text.ofString "\u00a0,,\u2003g (h) )") := by
    decide
  have known : binding? wideTuple = some (Text.ofString "M-b", Text.ofString "g (h)") := by
    decide
  obtain ⟨place, first⟩ := (tupleStart?_eq_some_iff noFeed).mp read
  obtain ⟨action, found, -, cut⟩ :=
    (binding?_of_first_tuple noFeed).2 place _ _ first ⟨'M', by decide, by decide⟩
  rw [known] at found
  have same : Text.ofString "g (h)" = action := (Prod.mk.inj (Option.some.inj found)).2
  rw [← same] at cut
  exact ⟨place, _, first, known, cut⟩

end Keychart.Markup
