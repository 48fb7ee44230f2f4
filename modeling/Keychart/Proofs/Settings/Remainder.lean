import Keychart.Proofs.Text.Marks
import Keychart.Settings.Toml.Parse
import Mathlib.Data.List.Basic

/-!
# What readers leave

A reader of a TOML document takes something from the front of a text and leaves the
rest.  What it leaves is always the end of what it was given, so no character is
read that does not stand in the document, and none is read twice.
-/

namespace Keychart.Settings.Toml

variable {text rest : Text}

theorem skipSpace_suffix (text : Text) : skipSpace text <:+ text :=
  List.dropWhile_suffix _

private theorem hexChar?_suffix
    {places : Nat} {c : Char} (read : hexChar? places text = some (c, rest)) :
    rest <:+ text := by
  unfold hexChar? at read
  dsimp only at read
  by_cases digits : ((text.take places).length = places && (text.take places).all isHexDigit) = true
  · rw [if_pos digits] at read
    cases number : hexNatural? (text.take places) with
    | none =>
        rw [number] at read
        cases read
    | some code =>
        rw [number] at read
        dsimp only at read
        by_cases valid : code.isValidChar
        · rw [dif_pos valid] at read
          cases read
          exact List.drop_suffix places text
        · rw [dif_neg valid] at read
          cases read
  · rw [if_neg digits] at read
    cases read

private theorem escape?_suffix
    {c : Char} (read : escape? text = some (c, rest)) : rest <:+ text := by
  unfold escape? at read
  split at read
  case h_8 => exact (hexChar?_suffix read).trans (List.suffix_cons _ _)
  case h_9 => exact (hexChar?_suffix read).trans (List.suffix_cons _ _)
  case h_10 => cases read
  all_goals
    cases read
    exact List.suffix_cons _ _

private theorem lineContinuation?_suffix
    (read : lineContinuation? text = some rest) : rest <:+ text := by
  fun_cases lineContinuation? text with
  | case1 behind =>
      cases read
      exact (List.dropWhile_suffix _).trans (List.suffix_cons _ _)
  | case2 c behind different space found =>
      rw [lineContinuation?, if_pos space, found] at read
      · cases read
        exact List.nil_suffix
      · exact different
  | case3 c behind different space more found =>
      rw [lineContinuation?, if_pos space, found] at read
      · cases read
        have inside : '\n' :: more <:+ behind := found ▸ skipSpace_suffix behind
        exact (List.dropWhile_suffix _).trans <|
          (List.suffix_cons _ _).trans <| inside.trans (List.suffix_cons c behind)
      · exact different
  | case4 c behind different space shown notNewline =>
      simp only [lineContinuation?, if_pos space] at read
      cases read
  | case5 c behind different visible =>
      rw [lineContinuation?, if_neg visible] at read
      · cases read
      · exact different
  | case6 => cases read

/-- What is left does not depend on what is put in front of what was taken. -/
theorem exists_of_map_cons
    {c : Char} {found : Option (Text × Text)} {body : Text}
    (read : (found.map fun (body, rest) => (c :: body, rest)) = some (body, rest)) :
    ∃ more, found = some (more, rest) := by
  obtain ⟨⟨more, left⟩, inside, same⟩ := Option.map_eq_some_iff.mp read
  cases same
  exact ⟨more, inside⟩

private theorem basicString?_suffix
    {fuel : Nat} {body : Text} (read : basicString? fuel text = some (body, rest)) :
    rest <:+ text := by
  fun_induction basicString? fuel text generalizing body with
  | case3 fuel behind =>
      cases read
      exact List.suffix_cons _ _
  | case4 fuel behind c left found _ inductionHypothesis =>
      obtain ⟨more, inside⟩ := exists_of_map_cons read
      exact (inductionHypothesis inside).trans <|
        (escape?_suffix found).trans (List.suffix_cons _ _)
  | case7 fuel c behind _ _ _ inductionHypothesis =>
      obtain ⟨more, inside⟩ := exists_of_map_cons read
      exact (inductionHypothesis inside).trans (List.suffix_cons c behind)
  | case1 => cases read
  | case2 => cases read
  | case5 => cases read
  | case6 => cases read

private theorem longBasicString?_suffix
    {fuel : Nat} {body : Text} (read : longBasicString? fuel text = some (body, rest)) :
    rest <:+ text := by
  fun_induction longBasicString? fuel text generalizing body with
  | case3 fuel behind =>
      cases read
      exact ⟨['"', '"', '"'], rfl⟩
  | case4 fuel behind left found _ inductionHypothesis =>
      exact (inductionHypothesis read).trans <|
        (lineContinuation?_suffix found).trans (List.suffix_cons _ _)
  | case5 fuel behind _ c left found _ inductionHypothesis =>
      obtain ⟨more, inside⟩ := exists_of_map_cons read
      exact (inductionHypothesis inside).trans <|
        (escape?_suffix found).trans (List.suffix_cons _ _)
  | case8 fuel c behind _ _ _ inductionHypothesis =>
      obtain ⟨more, inside⟩ := exists_of_map_cons read
      exact (inductionHypothesis inside).trans (List.suffix_cons c behind)
  | case1 => cases read
  | case2 => cases read
  | case6 => cases read
  | case7 => cases read

private theorem literalString?_suffix
    {body : Text} (read : literalString? text = some (body, rest)) : rest <:+ text := by
  simp only [literalString?] at read
  split at read
  · next found =>
      split at read
      · cases read
      · cases read
        have inside : _ :: rest <:+ text := found ▸ List.drop_suffix _ _
        exact (List.suffix_cons _ _).trans inside
  · cases read

private theorem longLiteralString?_suffix
    {body : Text} (read : longLiteralString? text = some (body, rest)) : rest <:+ text := by
  rw [longLiteralString?] at read
  split at read
  · next front behind found =>
      split at read
      · cases read
      · cases read
        rw [Text.eq_append_of_splitAtMark? found]
        exact List.suffix_append _ _
  · cases read

private theorem takeClosingQuotes_suffix (quote : Char) (body text : Text) :
    (takeClosingQuotes quote (body, text)).2 <:+ text := by
  unfold takeClosingQuotes
  split
  · next same =>
      cases same
      split
      · exact ⟨[_, _], rfl⟩
      · split
        · exact List.suffix_cons _ _
        · exact List.suffix_rfl
  · next same =>
      cases same
      split
      · exact List.nil_suffix
      · exact List.suffix_rfl
  · next same =>
      cases same
      exact List.suffix_rfl

private theorem dropFirstNewline_suffix (text : Text) : dropFirstNewline text <:+ text := by
  unfold dropFirstNewline
  split
  · exact List.suffix_cons _ _
  · exact List.suffix_rfl

private theorem shortString?_suffix
    {body : Text} (read : shortString? text = some (body, rest)) : rest <:+ text := by
  unfold shortString? at read
  split at read
  · exact (basicString?_suffix read).trans (List.suffix_cons _ _)
  · exact (literalString?_suffix read).trans (List.suffix_cons _ _)
  · cases read

private theorem string?_suffix {body : Text} (read : string? text = some (body, rest)) :
    rest <:+ text := by
  unfold string? at read
  split at read
  · next behind =>
      obtain ⟨⟨inner, left⟩, inside, same⟩ := Option.map_eq_some_iff.mp read
      have closing := takeClosingQuotes_suffix '"' inner left
      rw [same] at closing
      exact closing.trans <| (longBasicString?_suffix inside).trans <|
        (dropFirstNewline_suffix behind).trans ⟨['"', '"', '"'], rfl⟩
  · next behind =>
      obtain ⟨⟨inner, left⟩, inside, same⟩ := Option.map_eq_some_iff.mp read
      have closing := takeClosingQuotes_suffix '\'' inner left
      rw [same] at closing
      exact closing.trans <| (longLiteralString?_suffix inside).trans <|
        (dropFirstNewline_suffix behind).trans ⟨['\'', '\'', '\''], rfl⟩
  · exact shortString?_suffix read

/-- A run of digits and what is left of the text.  Nothing but underscores is left out
of the run. -/
theorem exists_run_of_digitsAfter (isDigit : Char → Bool) (begun : Bool) (text : Text) :
    ∃ run, text = run ++ (digitsAfter isDigit begun text).2 ∧
      (∀ c ∈ run, isDigit c = true ∨ c = '_') ∧
      (digitsAfter isDigit begun text).1.Sublist (run.filter isDigit) := by
  induction text generalizing begun with
  | nil => exact ⟨[], by cases begun <;> rfl, by simp, by cases begun <;> exact List.Sublist.slnil⟩
  | cons c text inductionHypothesis =>
      obtain ⟨run, whole, known, digits⟩ := inductionHypothesis true
      unfold digitsAfter
      by_cases digit : isDigit c = true
      · rw [if_pos digit]
        refine ⟨c :: run, ?_, ?_, ?_⟩
        · exact congrArg (c :: ·) whole
        · exact List.forall_mem_cons.mpr ⟨Or.inl digit, known⟩
        · rw [List.filter_cons_of_pos digit]
          exact digits.cons_cons c
      · rw [if_neg digit]
        by_cases underscore : (begun && c = '_' && text.head?.any isDigit) = true
        · rw [if_pos underscore]
          have mark : c = '_' := by
            simp only [Bool.and_eq_true, decide_eq_true_eq] at underscore
            exact underscore.1.2
          refine ⟨c :: run, congrArg (c :: ·) whole, ?_, ?_⟩
          · exact List.forall_mem_cons.mpr ⟨Or.inr mark, known⟩
          · rw [List.filter_cons_of_neg digit]
            exact digits
        · rw [if_neg underscore]
          exact ⟨[], rfl, by simp, List.nil_sublist _⟩

private theorem digitRun_suffix (isDigit : Char → Bool) (text : Text) :
    (digitRun isDigit text).2 <:+ text := by
  obtain ⟨run, whole, -, -⟩ := exists_run_of_digitsAfter isDigit false text
  exact ⟨run, whole.symm⟩

theorem takeSign_suffix (text : Text) : (takeSign text).2 <:+ text := by
  unfold takeSign
  split
  · exact List.suffix_cons _ _
  · exact List.suffix_cons _ _
  · exact List.suffix_rfl

private theorem basedInteger?_suffix
    {found : Value} (read : basedInteger? text = some (found, rest)) : rest <:+ text := by
  unfold basedInteger? at read
  split at read
  · next letter behind =>
      split at read
      · next base isDigit _ =>
          have inside := digitRun_suffix isDigit behind
          split at read
          · cases read
          · next run =>
              cases read
              rw [run] at inside
              exact inside.trans ⟨['0', letter], rfl⟩
      · cases read
  · cases read

private theorem wholeDigits_suffix (text : Text) : (wholeDigits text).2 <:+ text := by
  unfold wholeDigits
  split
  · exact List.suffix_cons _ _
  · exact digitRun_suffix _ _

private theorem fraction?_suffix {places : Text} (read : fraction? text = some (places, rest)) :
    rest <:+ text := by
  unfold fraction? at read
  split at read
  · next behind =>
      have inside := digitRun_suffix isAsciiDigit behind
      split at read
      · cases read
      · rw [Option.some.inj read] at inside
        exact inside.trans (List.suffix_cons _ _)
  · cases read

private theorem exponent?_suffix {power : Int} (read : exponent? text = some (power, rest)) :
    rest <:+ text := by
  unfold exponent? at read
  split at read
  · next c behind =>
      have sign := takeSign_suffix behind
      have inside := digitRun_suffix isAsciiDigit (takeSign behind).2
      split at read
      · simp only at read
        split at read
        · cases read
        · next run =>
            cases read
            rw [run] at inside
            exact inside.trans (sign.trans (List.suffix_cons c behind))
      · cases read
  · cases read

/-- What is left behind a whole number, be there places or a power of ten or not. -/
theorem decimalNumber?_suffix
    {found : Value} (read : decimalNumber? text = some (found, rest)) : rest <:+ text := by
  have front : (wholeDigits (takeSign text).2).2 <:+ text :=
    (wholeDigits_suffix _).trans (takeSign_suffix text)
  simp only [decimalNumber?] at read
  split at read
  · cases read
  · next whole behind _ digits =>
      rw [digits] at front
      have places : ∀ {left : Text}, ((fraction? behind).elim behind Prod.snd) = left →
          left <:+ behind := by
        rintro left rfl
        cases fraction : fraction? behind with
        | none => exact List.suffix_rfl
        | some found => exact fraction?_suffix fraction
      split at read
      · cases read
        exact front
      · cases power : exponent? ((fraction? behind).elim behind Prod.snd) with
        | none =>
            rw [power] at read
            cases read
            exact (places rfl).trans front
        | some found =>
            rw [power] at read
            cases read
            exact (exponent?_suffix power).trans ((places rfl).trans front)

private theorem namedFloat?_suffix
    {found : Value} (read : namedFloat? text = some (found, rest)) : rest <:+ text := by
  have sign := takeSign_suffix text
  simp only [namedFloat?] at read
  split at read
  · next left behind =>
      cases read
      rw [behind] at sign
      exact (List.suffix_append ['i', 'n', 'f'] rest).trans sign
  · next left behind =>
      cases read
      rw [behind] at sign
      exact (List.suffix_append ['n', 'a', 'n'] rest).trans sign
  · cases read

private theorem twoDigits?_suffix
    {low high n : Nat} (read : twoDigits? low high text = some (n, rest)) : rest <:+ text := by
  unfold twoDigits? at read
  split at read
  · next a b behind =>
      split at read
      · simp only at read
        split at read
        · cases read
          exact ⟨[a, b], rfl⟩
        · cases read
      · cases read
  · cases read

private theorem marked?_suffix
    {mark : Char} {low high n : Nat} (read : marked? mark low high text = some (n, rest)) :
    rest <:+ text := by
  unfold marked? at read
  split at read
  · split at read
    · exact (twoDigits?_suffix read).trans (List.suffix_cons _ _)
    · cases read
  · cases read

private theorem afterTime?_suffix (read : afterTime? text = some rest) : rest <:+ text := by
  simp only [afterTime?, Option.bind_eq_bind, Option.bind_eq_some_iff] at read
  obtain ⟨⟨_, first⟩, hour, ⟨_, second⟩, minute, ⟨_, third⟩, sec, read⟩ := read
  have behind : third <:+ text :=
    (marked?_suffix sec).trans ((marked?_suffix minute).trans (twoDigits?_suffix hour))
  split at read
  · next d more found =>
      split at read
      · cases read
        change third = '.' :: d :: more at found
        have inside : more <:+ third := found ▸ ⟨['.', d], rfl⟩
        exact (List.dropWhile_suffix _).trans (inside.trans behind)
      · cases read
        exact behind
  · cases read
    exact behind

private theorem afterOffset_suffix (text : Text) : afterOffset text <:+ text := by
  unfold afterOffset
  split
  · next c behind =>
      split
      · exact List.suffix_cons c behind
      · split
        · split
          · next hours =>
              split
              · next minutes =>
                  exact (marked?_suffix minutes).trans <|
                    (twoDigits?_suffix hours).trans (List.suffix_cons c behind)
              · exact List.suffix_rfl
          · exact List.suffix_rfl
        · exact List.suffix_rfl
  · exact List.suffix_rfl

private theorem date?_suffix {date : Nat × Nat × Nat} (read : date? text = some (date, rest)) :
    rest <:+ text := by
  unfold date? at read
  split at read
  · next a b c d behind =>
      split at read
      · simp only [Option.bind_eq_bind, Option.bind_eq_some_iff] at read
        obtain ⟨⟨_, first⟩, month, ⟨_, second⟩, day, read⟩ := read
        cases read
        exact (marked?_suffix day).trans <| (marked?_suffix month).trans ⟨[a, b, c, d], rfl⟩
      · cases read
  · cases read

private theorem afterDate_suffix (text : Text) : afterDate text <:+ text := by
  unfold afterDate
  split
  · next c behind =>
      split
      · split
        · next found =>
            exact (afterOffset_suffix _).trans <|
              (afterTime?_suffix found).trans (List.suffix_cons c behind)
        · exact List.suffix_rfl
      · exact List.suffix_rfl
  · exact List.suffix_rfl

private theorem moment?_suffix (read : moment? text = some (some rest)) : rest <:+ text := by
  unfold moment? at read
  split at read
  · next date behind found =>
      by_cases calendar : isCalendarDate date = true
      · rw [if_pos calendar] at read
        rw [← Option.some.inj (Option.some.inj read)]
        exact (afterDate_suffix behind).trans (date?_suffix found)
      · rw [if_neg calendar] at read
        cases read
  · obtain ⟨left, found, same⟩ := Option.map_eq_some_iff.mp read
    cases same
    exact afterTime?_suffix found

/-! ## Values -/

variable {found : Value}

private theorem orMalformed_eq_ok {α : Type} {found : Option α} {a : α}
    (read : orMalformed found = .ok a) : found = some a := by
  cases found with
  | none => cases read
  | some found => exact congrArg some (Except.ok.inj read)

private theorem number_suffix (read : number text = .ok (found, rest)) : rest <:+ text := by
  unfold number at read
  split at read
  · next based =>
      cases read
      exact basedInteger?_suffix based
  · split at read
    · next decimal =>
        simp only at read
        split at read
        · cases read
        · cases read
          exact decimalNumber?_suffix decimal
    · next decimal =>
        cases read
        exact decimalNumber?_suffix decimal
    · exact namedFloat?_suffix (orMalformed_eq_ok read)

private theorem scalar_suffix (read : scalar text = .ok (found, rest)) : rest <:+ text := by
  unfold scalar at read
  split at read
  · next string =>
      cases read
      exact string?_suffix string
  · split at read
    · cases read
    · cases read
    · cases read
      exact ⟨['t', 'r', 'u', 'e'], rfl⟩
    · cases read
      exact ⟨['f', 'a', 'l', 's', 'e'], rfl⟩
    · split at read
      · next moment =>
          cases read
          exact moment?_suffix moment
      · cases read
      · exact number_suffix read

private theorem skipComment?_suffix (read : skipComment? text = some rest) : rest <:+ text := by
  unfold skipComment? at read
  split at read
  · simp only at read
    split at read
    · cases read
    · cases read
      exact (List.drop_suffix _ _).trans (List.suffix_cons _ _)
  · cases read
    exact List.suffix_rfl

theorem skipFiller?_suffix {fuel : Nat} (read : skipFiller? fuel text = some rest) :
    rest <:+ text := by
  induction fuel generalizing text with
  | zero =>
      cases read
      exact List.suffix_rfl
  | succ fuel inductionHypothesis =>
      have visible := List.dropWhile_suffix isSpaceOrNewline (l := text)
      rw [skipFiller?] at read
      split at read
      · next behind comment =>
          obtain ⟨left, skipped, inside⟩ := Option.bind_eq_some_iff.mp read
          rw [comment] at visible
          exact (inductionHypothesis inside).trans ((skipComment?_suffix skipped).trans visible)
      · cases read
        exact visible

private theorem keyName?_suffix {name : Text} (read : keyName? text = some (name, rest)) :
    rest <:+ text := by
  simp only [keyName?] at read
  split at read
  · exact shortString?_suffix read
  · cases read
    exact List.drop_suffix _ _

theorem key?_suffix {fuel : Nat} {path : List Text} {name : Text}
    (read : key? fuel text = some (path, name, rest)) : rest <:+ text := by
  induction fuel generalizing text path with
  | zero => cases read
  | succ fuel inductionHypothesis =>
      rw [key?] at read
      split at read
      · cases read
      · next first behind named =>
          have space : skipSpace behind <:+ text :=
            (skipSpace_suffix behind).trans (keyName?_suffix named)
          split at read
          · next more point =>
              obtain ⟨⟨others, last, left⟩, inside, same⟩ := Option.map_eq_some_iff.mp read
              cases same
              rw [point] at space
              exact (inductionHypothesis inside).trans <|
                (skipSpace_suffix more).trans ((List.suffix_cons _ _).trans space)
          · cases read
            exact space

private theorem exists_of_map_ok {ε α β : Type} {f : α → β} {read : Except ε α} {b : β}
    (done : read.map f = .ok b) : ∃ a, read = .ok a ∧ f a = b := by
  cases read with
  | error e => cases done
  | ok a => exact ⟨a, rfl, Except.ok.inj done⟩

section FirstCharacter

variable {fuel room : Nat}

theorem value_bracket (fuel room : Nat) (rest : Text) :
    value (fuel + 1) (room + 2) ('[' :: rest) =
      (items fuel room rest).map fun (items, rest) => (.list items, rest) := by
  rw [value]

private theorem value_bracket_of_lt (small : room < 2) (rest : Text) :
    value (fuel + 1) room ('[' :: rest) = .error (.beyond .depth) := by
  rw [value]
  omega

theorem value_brace_cases (fuel room : Nat) (rest : Text) :
    (∃ behind, skipSpace rest = '\x7d' :: behind ∧
        value (fuel + 1) (room + 3) ('\x7b' :: rest) = .ok (.table [], behind)) ∨
      value (fuel + 1) (room + 3) ('\x7b' :: rest) =
        (pairs fuel room [] (skipSpace rest)).map fun (members, rest) =>
          (.table (membersValue members), rest) := by
  rw [value]
  split
  · next behind closed => exact Or.inl ⟨behind, closed, rfl⟩
  · exact Or.inr rfl

private theorem value_brace_of_lt (small : room < 3) (rest : Text) :
    value (fuel + 1) room ('\x7b' :: rest) = .error (.beyond .depth) := by
  rw [value]
  omega

theorem value_scalar (noList : text.head? ≠ some '[') (noTable : text.head? ≠ some '\x7b') :
    value (fuel + 1) room text = scalar text := by
  rw [value.eq_def]
  split
  next same => cases same
  next => exact absurd rfl noList
  next => exact absurd rfl noList
  next => exact absurd rfl noTable
  next => exact absurd rfl noTable
  next => rfl

/-- A value is a list, a table or a scalar by its first character. -/
theorem front_cases (text : Text) :
    (∃ behind, text = '[' :: behind) ∨ (∃ behind, text = '\x7b' :: behind) ∨
      (text.head? ≠ some '[' ∧ text.head? ≠ some '\x7b') := by
  cases text with
  | nil => exact Or.inr (Or.inr ⟨nofun, nofun⟩)
  | cons c behind =>
      by_cases list : c = '['
      · exact Or.inl ⟨behind, by rw [list]⟩
      · by_cases table : c = '\x7b'
        · exact Or.inr (Or.inl ⟨behind, by rw [table]⟩)
        · exact Or.inr (Or.inr ⟨by simpa using list, by simpa using table⟩)

end FirstCharacter

/-- With some fuel the readers of values leave the end of what they are given. -/
structure LeaveEnds (fuel : Nat) : Prop where
  value : ∀ {room text found rest},
    Toml.value fuel room text = .ok (found, rest) → rest <:+ text
  items : ∀ {room text found rest},
    Toml.items fuel room text = .ok (found, rest) → rest <:+ text
  pairs : ∀ {room members text found rest},
    Toml.pairs fuel room members text = .ok (found, rest) → rest <:+ text
  pair : ∀ {room text found rest},
    Toml.pair fuel room text = .ok (found, rest) → rest <:+ text

namespace LeaveEnds

variable {fuel : Nat} (ends : LeaveEnds fuel)

include ends

theorem value_succ {room : Nat} {found : Value}
    (read : Toml.value (fuel + 1) room text = .ok (found, rest)) : rest <:+ text := by
  rcases front_cases text with ⟨behind, rfl⟩ | ⟨behind, rfl⟩ | ⟨noList, noTable⟩
  · by_cases small : room < 2
    · rw [value_bracket_of_lt small] at read
      cases read
    · obtain ⟨room, rfl⟩ := Nat.exists_eq_add_of_le' (Nat.le_of_not_lt small)
      rw [value_bracket] at read
      obtain ⟨⟨inner, left⟩, inside, same⟩ := exists_of_map_ok read
      cases same
      exact (ends.items inside).trans (List.suffix_cons _ _)
  · by_cases small : room < 3
    · rw [value_brace_of_lt small] at read
      cases read
    · obtain ⟨room, rfl⟩ := Nat.exists_eq_add_of_le' (Nat.le_of_not_lt small)
      have space := (skipSpace_suffix behind).trans (List.suffix_cons '\x7b' behind)
      rcases value_brace_cases fuel room behind with ⟨left, closed, empty⟩ | some
      · rw [empty] at read
        cases read
        rw [closed] at space
        exact (List.suffix_cons _ _).trans space
      · rw [some] at read
        obtain ⟨⟨inner, left⟩, inside, same⟩ := exists_of_map_ok read
        cases same
        exact (ends.pairs inside).trans space
  · rw [value_scalar noList noTable] at read
    exact scalar_suffix read

theorem items_succ {room : Nat} {found : List Value}
    (read : Toml.items (fuel + 1) room text = .ok (found, rest)) : rest <:+ text := by
  rw [Toml.items] at read
  split at read
  · cases read
  · next closed =>
      cases read
      exact (List.suffix_cons _ _).trans (skipFiller?_suffix closed)
  · next first _ filler =>
      have start := skipFiller?_suffix filler
      split at read
      · cases read
      · next item behind inside =>
          have front := (ends.value inside).trans start
          split at read
          · next closed =>
              cases read
              exact (List.suffix_cons _ _).trans ((skipFiller?_suffix closed).trans front)
          · next more comma =>
              obtain ⟨⟨inner, left⟩, others, same⟩ := exists_of_map_ok read
              cases same
              exact (ends.items others).trans <|
                (List.suffix_cons _ _).trans ((skipFiller?_suffix comma).trans front)
          · cases read

theorem pairs_succ {room : Nat} {members found : Members}
    (read : Toml.pairs (fuel + 1) room members text = .ok (found, rest)) : rest <:+ text := by
  rw [Toml.pairs] at read
  split at read
  · cases read
  · next path name value behind inside =>
      have front := (skipSpace_suffix behind).trans (ends.pair inside)
      split at read
      · cases read
      · split at read
        · next closed =>
            cases read
            rw [closed] at front
            exact (List.suffix_cons _ _).trans front
        · next more comma =>
            rw [comma] at front
            exact (ends.pairs read).trans <|
              (skipSpace_suffix more).trans ((List.suffix_cons _ _).trans front)
        · cases read

theorem pair_succ {room : Nat} {found : List Text × Text × Value}
    (read : Toml.pair (fuel + 1) room text = .ok (found, rest)) : rest <:+ text := by
  rw [Toml.pair] at read
  split at read
  · next path name behind key =>
      obtain ⟨⟨inner, left⟩, inside, same⟩ := exists_of_map_ok read
      cases same
      exact (ends.value inside).trans <|
        (skipSpace_suffix behind).trans ((List.suffix_cons _ _).trans (key?_suffix key))
  · cases read

end LeaveEnds

/-- Each reader is told by the others, one step further into the value. -/
theorem leaveEnds (fuel : Nat) : LeaveEnds fuel := by
  induction fuel with
  | zero =>
      constructor
      · intro room text found rest read
        rw [value] at read
        cases read
      · intro room text found rest read
        rw [items] at read
        cases read
      · intro room members text found rest read
        rw [pairs] at read
        cases read
      · intro room text found rest read
        rw [pair] at read
        cases read
  | succ fuel ends => exact ⟨ends.value_succ, ends.items_succ, ends.pairs_succ, ends.pair_succ⟩

/-! ## Statements -/

private theorem arrayHeader?_suffix {header : Statement}
    (read : arrayHeader? text = some (header, rest)) : rest <:+ text := by
  unfold arrayHeader? at read
  split at read
  · next key =>
      cases read
      have inside : rest <:+ ']' :: ']' :: rest := ⟨[']', ']'], rfl⟩
      exact inside.trans ((key?_suffix key).trans (skipSpace_suffix text))
  · cases read

private theorem tableHeader?_suffix {header : Statement}
    (read : tableHeader? text = some (header, rest)) : rest <:+ text := by
  unfold tableHeader? at read
  split at read
  · next key =>
      cases read
      exact (List.suffix_cons _ _).trans ((key?_suffix key).trans (skipSpace_suffix text))
  · cases read

theorem statement_suffix {found : Statement} (read : statement text = .ok (found, rest)) :
    rest <:+ text := by
  unfold statement at read
  split at read
  · exact (arrayHeader?_suffix (orMalformed_eq_ok read)).trans ⟨['[', '['], rfl⟩
  · exact (tableHeader?_suffix (orMalformed_eq_ok read)).trans (List.suffix_cons _ _)
  · obtain ⟨⟨inner, left⟩, inside, same⟩ := exists_of_map_ok read
    cases same
    exact (leaveEnds _).pair inside

theorem endOfLine?_suffix (read : endOfLine? text = some rest) : rest <:+ text := by
  unfold endOfLine? at read
  split at read
  · cases read
    exact List.nil_suffix
  · next skipped =>
      cases read
      exact (List.suffix_cons _ _).trans <|
        (skipComment?_suffix skipped).trans (skipSpace_suffix text)
  · cases read

end Keychart.Settings.Toml
