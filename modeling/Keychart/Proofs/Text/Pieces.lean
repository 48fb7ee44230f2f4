import Keychart.Text.Width
import Mathlib.Data.List.Basic
import Mathlib.Data.List.TakeWhile

/-!
# The runs of a text

An escape sequence is known by its own characters, whatever stands behind it.  So
the runs of a text can be cut off behind any of them, or inside a plain one, and
what is left is read as the same runs again.
-/

namespace Keychart.Text

inductive IsSequence : Text → Prop
  | control (parameters : Text) (final : Char)
      (known : ∀ c ∈ parameters, isParameter c = true) (ends : isStyleFinal final = true) :
      IsSequence ('\x1b' :: '[' :: (parameters ++ [final]))
  | bell (body : Text) (inside : ∀ c ∈ body, c ≠ '\x07' ∧ c ≠ '\x1b') :
      IsSequence ('\x1b' :: '_' :: (body ++ ['\x07']))
  | terminator (body : Text) (inside : ∀ c ∈ body, c ≠ '\x07' ∧ c ≠ '\x1b') :
      IsSequence ('\x1b' :: '_' :: (body ++ ['\x1b', '\\']))

private theorem isParameter_of_isStyleFinal {c : Char} (ends : isStyleFinal c = true) :
    isParameter c = false := by
  simp only [isStyleFinal, Bool.or_eq_true, decide_eq_true_eq] at ends
  rcases ends with (((rfl | rfl) | rfl) | rfl) | rfl <;> decide

/-- A run of characters that a further one ends. -/
theorem takeWhile_append_cons
    {p : Char → Bool} {front : Text} (all : ∀ c ∈ front, p c = true) {c : Char}
    (stops : p c = false) (back : Text) :
    (front ++ c :: back).takeWhile p = front ∧ (front ++ c :: back).dropWhile p = c :: back := by
  rw [List.takeWhile_append_of_pos all, List.dropWhile_append_of_pos all,
    List.takeWhile_cons_of_neg (by simp [stops]), List.dropWhile_cons_of_neg (by simp [stops]),
    List.append_nil]
  exact ⟨rfl, rfl⟩

theorem escapeLength_append
    {code : Text} (sequence : IsSequence code) (rest : Text) :
    escapeLength (code ++ rest) = code.length := by
  cases sequence with
  | control parameters final known ends =>
      obtain ⟨taken, dropped⟩ :=
        takeWhile_append_cons known (isParameter_of_isStyleFinal ends) rest
      simp only [List.cons_append, List.append_assoc, List.nil_append, escapeLength, taken,
        dropped, ends, if_true, List.length_cons, List.length_append, List.length_nil]
  | bell body inside =>
      have plain : ∀ c ∈ body, (c ≠ '\x07' && c ≠ '\x1b') = true := by simpa using inside
      obtain ⟨taken, -⟩ := @takeWhile_append_cons _ body plain '\x07' (by decide) rest
      simp only [List.cons_append, List.append_assoc, List.nil_append, escapeLength, taken,
        List.drop_left, List.length_cons, List.length_append, List.length_nil]
  | terminator body inside =>
      have plain : ∀ c ∈ body, (c ≠ '\x07' && c ≠ '\x1b') = true := by simpa using inside
      obtain ⟨taken, -⟩ :=
        @takeWhile_append_cons _ body plain '\x1b' (by decide) ('\\' :: rest)
      simp only [List.cons_append, List.append_assoc, List.nil_append, escapeLength, taken,
        List.drop_left, List.length_cons, List.length_append, List.length_nil]

theorem exists_sequence_of_escapeLength_ne_zero
    {text : Text} (begun : escapeLength text ≠ 0) :
    ∃ code rest, text = code ++ rest ∧ IsSequence code := by
  unfold escapeLength at begun
  split at begun
  · next rest =>
      split at begun
      · exact absurd rfl begun
      · next final back dropped =>
          split at begun
          · next ends =>
              refine ⟨_, back, ?_, .control (rest.takeWhile isParameter) final ?_ ends⟩
              · have whole := List.takeWhile_append_dropWhile (p := isParameter) (l := rest)
                rw [dropped] at whole
                simp only [List.cons_append, List.append_assoc, List.nil_append, whole]
              · exact fun c member => List.mem_takeWhile_imp member
          · exact absurd rfl begun
  · next rest =>
      have inside : ∀ c ∈ rest.takeWhile (fun c => c ≠ '\x07' && c ≠ '\x1b'),
          c ≠ '\x07' ∧ c ≠ '\x1b' := fun c member => by
        simpa using List.mem_takeWhile_imp member
      have whole := List.prefix_iff_eq_append.mp
        (@List.takeWhile_prefix _ rest fun c => c ≠ '\x07' && c ≠ '\x1b')
      dsimp only at begun
      split at begun
      · next back dropped =>
          rw [dropped] at whole
          refine ⟨_, back, ?_, .bell _ inside⟩
          simp only [List.cons_append, List.append_assoc, List.nil_append, whole]
      · next back dropped =>
          rw [dropped] at whole
          refine ⟨_, back, ?_, .terminator _ inside⟩
          simp only [List.cons_append, List.append_assoc, List.nil_append, whole]
      · exact absurd rfl begun
  · exact absurd rfl begun

/-- What stands behind a sequence does not change it. -/
theorem escapeLength_append_of_ne_zero
    {text : Text} (begun : escapeLength text ≠ 0) (rest : Text) :
    escapeLength (text ++ rest) = escapeLength text := by
  obtain ⟨code, back, rfl, sequence⟩ := exists_sequence_of_escapeLength_ne_zero begun
  rw [List.append_assoc, escapeLength_append sequence, escapeLength_append sequence]

private theorem escapeLength_eq_zero_of_front
    {front text : Text} (part : front <+: text) (plain : escapeLength text = 0) :
    escapeLength front = 0 := by
  obtain ⟨rest, rfl⟩ := part
  by_cases begun : escapeLength front = 0
  · exact begun
  · rw [escapeLength_append_of_ne_zero begun] at plain
    exact plain

private theorem getLast?_ne_space {code : Text} (sequence : IsSequence code) :
    code.getLast? ≠ some ' ' := by
  cases sequence with
  | control parameters final known ends =>
      rw [← List.cons_append, ← List.cons_append, List.getLast?_concat]
      intro same
      rw [Option.some.inj same] at ends
      exact absurd ends (by decide)
  | bell body inside =>
      rw [← List.cons_append, ← List.cons_append, List.getLast?_concat]
      decide
  | terminator body inside =>
      have last : body ++ ['\x1b', '\\'] = body ++ ['\x1b'] ++ ['\\'] := by simp
      rw [last, ← List.cons_append, ← List.cons_append, List.getLast?_concat]
      decide

/-- Spaces end no sequence. -/
theorem escapeLength_append_spaces (text : Text) (n : Nat) :
    escapeLength (text ++ spaces n) = escapeLength text := by
  by_cases begun : escapeLength (text ++ spaces n) = 0
  · rw [begun, escapeLength_eq_zero_of_front (List.prefix_append _ _) begun]
  · obtain ⟨code, rest, same, sequence⟩ := exists_sequence_of_escapeLength_ne_zero begun
    rcases List.append_eq_append_iff.mp same with ⟨more, rfl, inside⟩ | ⟨more, rfl, -⟩
    · -- The sequence would have to end in a space.
      rcases List.eq_nil_or_concat more with rfl | ⟨front, last, rfl⟩
      · rw [List.append_nil] at sequence
        have alone := escapeLength_append sequence []
        rw [List.append_nil] at alone
        rw [escapeLength_append sequence, alone]
      · have space : last = ' ' := List.eq_of_mem_replicate (n := n) (by
          change last ∈ spaces n
          rw [inside]
          simp)
        have ends := getLast?_ne_space sequence
        rw [List.concat_eq_append, ← List.append_assoc, List.getLast?_concat, space] at ends
        exact absurd rfl ends
    · rw [List.append_assoc, escapeLength_append sequence, escapeLength_append sequence]

theorem piecesFrom_append
    {code : Text} (nonempty : code ≠ []) (text : Text) :
    piecesFrom code.length (code ++ text) = .escape code :: pieces text := by
  induction code with
  | nil => exact absurd rfl nonempty
  | cons c code inductionHypothesis =>
      cases code with
      | nil => rfl
      | cons second code =>
          have rest := inductionHypothesis (List.cons_ne_nil _ _)
          rw [List.cons_append, List.length_cons, List.length_cons, piecesFrom]
          rw [List.length_cons] at rest
          rw [rest]
          rfl

theorem stripFrom_append (code text : Text) :
    stripFrom code.length (code ++ text) = stripEscapes text := by
  induction code with
  | nil => rfl
  | cons c code inductionHypothesis =>
      rw [List.cons_append, List.length_cons, stripFrom, inductionHypothesis]

theorem exists_cons_of_sequence {code : Text} (sequence : IsSequence code) :
    ∃ first second rest, code = first :: second :: rest := by
  cases sequence <;> exact ⟨_, _, _, rfl⟩

theorem pieces_sequence {code : Text} (sequence : IsSequence code) (text : Text) :
    pieces (code ++ text) = .escape code :: pieces text := by
  have length := escapeLength_append sequence text
  obtain ⟨first, second, rest, rfl⟩ := exists_cons_of_sequence sequence
  rw [List.cons_append, List.length_cons, List.length_cons] at length
  have behind := piecesFrom_append (List.cons_ne_nil second rest) text
  rw [List.length_cons] at behind
  rw [pieces, List.cons_append, piecesFrom, length]
  simp only [behind, consEscape]

theorem stripEscapes_sequence {code : Text} (sequence : IsSequence code) (text : Text) :
    stripEscapes (code ++ text) = stripEscapes text := by
  have length := escapeLength_append sequence text
  obtain ⟨first, second, rest, rfl⟩ := exists_cons_of_sequence sequence
  rw [List.cons_append, List.length_cons] at length
  rw [stripEscapes, List.cons_append, stripFrom, length]
  exact stripFrom_append (second :: rest) text

theorem pieces_plain {c : Char} {text : Text} (plain : escapeLength (c :: text) = 0) :
    pieces (c :: text) = consPlain c (pieces text) := by
  rw [pieces, piecesFrom, plain]
  rfl

theorem stripEscapes_plain {c : Char} {text : Text} (plain : escapeLength (c :: text) = 0) :
    stripEscapes (c :: text) = c :: stripEscapes text := by
  rw [stripEscapes, stripFrom, plain]
  rfl

/-- A text is read by plain characters and escape sequences. -/
@[elab_as_elim]
theorem reading_induction
    {motive : Text → Prop} (nil : motive [])
    (plain : ∀ c text, escapeLength (c :: text) = 0 → motive text → motive (c :: text))
    (sequence : ∀ code text, IsSequence code → motive text → motive (code ++ text))
    (text : Text) :
    motive text := by
  induction length : text.length using Nat.strongRecOn generalizing text with
  | ind n inductionHypothesis =>
      cases text with
      | nil => exact nil
      | cons c text =>
          rw [List.length_cons] at length
          by_cases begun : escapeLength (c :: text) = 0
          · exact plain c text begun (inductionHypothesis _ (by omega) text rfl)
          · obtain ⟨code, rest, same, known⟩ := exists_sequence_of_escapeLength_ne_zero begun
            obtain ⟨first, second, others, rfl⟩ := exists_cons_of_sequence known
            have lengths := congrArg List.length same
            simp only [List.length_cons, List.length_append] at lengths
            rw [same]
            exact sequence _ rest known (inductionHypothesis _ (by omega) rest rfl)

def Piece.text : Piece → Text
  | .plain text => text
  | .escape code => code

def spelled (pieces : List Piece) : Text := pieces.flatMap Piece.text

def plainRuns : List Piece → List Text
  | [] => []
  | .plain text :: pieces => text :: plainRuns pieces
  | .escape _ :: pieces => plainRuns pieces

theorem spelled_consPlain (c : Char) (pieces : List Piece) :
    spelled (consPlain c pieces) = c :: spelled pieces := by
  rcases pieces with _ | ⟨piece, pieces⟩
  · rfl
  · cases piece <;> rfl

theorem spelled_append (front back : List Piece) :
    spelled (front ++ back) = spelled front ++ spelled back :=
  List.flatMap_append

theorem spelled_cons (piece : Piece) (pieces : List Piece) :
    spelled (piece :: pieces) = piece.text ++ spelled pieces :=
  List.flatMap_cons

private theorem flatten_plainRuns_consPlain (c : Char) (pieces : List Piece) :
    (plainRuns (consPlain c pieces)).flatten = c :: (plainRuns pieces).flatten := by
  rcases pieces with _ | ⟨piece, pieces⟩
  · rfl
  · cases piece <;> rfl

theorem spelled_pieces (text : Text) : spelled (pieces text) = text := by
  induction text using reading_induction with
  | nil => rfl
  | plain c text begun inductionHypothesis =>
      rw [pieces_plain begun, spelled_consPlain, inductionHypothesis]
  | sequence code text known inductionHypothesis =>
      rw [pieces_sequence known, spelled, List.flatMap_cons, Piece.text]
      exact congrArg _ inductionHypothesis

/-- Without its escape sequences a text is what its plain runs spell. -/
theorem stripEscapes_eq_flatten_plainRuns (text : Text) :
    stripEscapes text = (plainRuns (pieces text)).flatten := by
  induction text using reading_induction with
  | nil => rfl
  | plain c text begun inductionHypothesis =>
      rw [pieces_plain begun, flatten_plainRuns_consPlain, stripEscapes_plain begun,
        inductionHypothesis]
  | sequence code text known inductionHypothesis =>
      rw [pieces_sequence known, plainRuns, stripEscapes_sequence known, inductionHypothesis]

/-- Whether some runs are the first of others, the last of them cut short if it is a
plain one. -/
inductive Front : List Piece → List Piece → Prop
  | nil (pieces : List Piece) : Front [] pieces
  | cut {front text : Text} (part : front <+: text) (nonempty : front ≠ [])
      (pieces : List Piece) :
      Front [.plain front] (.plain text :: pieces)
  | cons (piece : Piece) {front pieces : List Piece} (rest : Front front pieces) :
      Front (piece :: front) (piece :: pieces)

theorem Front.append (front : List Piece) {kept pieces : List Piece} (h : Front kept pieces) :
    Front (front ++ kept) (front ++ pieces) := by
  induction front with
  | nil => exact h
  | cons piece front inductionHypothesis => exact .cons piece inductionHypothesis

theorem Front.spelled_begins {front pieces : List Piece} (h : Front front pieces) :
    spelled front <+: spelled pieces := by
  induction h with
  | nil pieces => exact List.nil_prefix
  | cut part nonempty pieces =>
      simp only [spelled, List.flatMap_cons, List.flatMap_nil, Piece.text, List.append_nil]
      exact part.trans (List.prefix_append _ _)
  | cons piece rest inductionHypothesis =>
      simp only [spelled, List.flatMap_cons]
      exact (List.prefix_append_right_inj _).mpr inductionHypothesis

/-- Behind its first character a front of the runs is a front of what is left. -/
theorem Front.exists_consPlain
    {c : Char} {front pieces : List Piece} (h : Front front (consPlain c pieces)) :
    front = [] ∨ ∃ rest, Front rest pieces ∧ front = consPlain c rest := by
  have alone {front : Text} (part : front <+: [c]) (nonempty : front ≠ []) : front = [c] := by
    rcases List.prefix_cons_iff.mp part with rfl | ⟨rest, rfl, nothing⟩
    · exact absurd rfl nonempty
    · rw [List.prefix_nil.mp nothing]
  rcases pieces with _ | ⟨⟨text⟩ | ⟨code⟩, pieces⟩
  · cases h with
    | nil => exact .inl rfl
    | cut part nonempty => exact .inr ⟨[], .nil _, by rw [alone part nonempty]; rfl⟩
    | cons piece rest =>
        cases rest
        exact .inr ⟨[], .nil _, rfl⟩
  · cases h with
    | nil => exact .inl rfl
    | cut part nonempty =>
        rcases List.prefix_cons_iff.mp part with rfl | ⟨front, rfl, inside⟩
        · exact absurd rfl nonempty
        · by_cases empty : front = []
          · subst empty
            exact .inr ⟨[], .nil _, rfl⟩
          · exact .inr ⟨[.plain front], .cut inside empty _, rfl⟩
    | @cons _ front _ rest => exact .inr ⟨.plain text :: front, .cons _ rest, rfl⟩
  · cases h with
    | nil => exact .inl rfl
    | cut part nonempty => exact .inr ⟨[], .nil _, by rw [alone part nonempty]; rfl⟩
    | @cons _ front _ rest => exact .inr ⟨front, rest, by cases rest <;> rfl⟩

/-- A front of the runs of a text is read as the same runs. -/
theorem pieces_spelled_of_front
    {text : Text} {front : List Piece} (h : Front front (pieces text)) :
    pieces (spelled front) = front := by
  induction text using reading_induction generalizing front with
  | nil =>
      cases h
      rfl
  | plain c text begun inductionHypothesis =>
      rw [pieces_plain begun] at h
      rcases h.exists_consPlain with rfl | ⟨rest, shorter, rfl⟩
      · rfl
      · have part : c :: spelled rest <+: c :: text := by
          have prefixed := shorter.spelled_begins
          rw [spelled_pieces] at prefixed
          exact (List.prefix_cons_inj c).mpr prefixed
        rw [spelled_consPlain, pieces_plain (escapeLength_eq_zero_of_front part begun),
          inductionHypothesis shorter]
  | sequence code text known inductionHypothesis =>
      rw [pieces_sequence known] at h
      cases h with
      | nil => rfl
      | cons _ rest =>
          rw [spelled, List.flatMap_cons, Piece.text, pieces_sequence known]
          exact congrArg _ (inductionHypothesis rest)

/-! ## What is measured -/

theorem escapeLength_cons_of_ne {c : Char} (different : c ≠ '\x1b') (text : Text) :
    escapeLength (c :: text) = 0 := by
  unfold escapeLength
  split
  · next same => exact absurd (List.cons.inj same).1 different
  · next same => exact absurd (List.cons.inj same).1 different
  · rfl

theorem stripEscapes_append_of_plain
    {text : Text} (plain : ∀ c ∈ text, c ≠ '\x1b') (rest : Text) :
    stripEscapes (text ++ rest) = text ++ stripEscapes rest := by
  induction text with
  | nil => rfl
  | cons c text inductionHypothesis =>
      have first := escapeLength_cons_of_ne (plain c List.mem_cons_self) (text ++ rest)
      rw [List.cons_append, stripEscapes_plain first,
        inductionHypothesis fun other member => plain other (List.mem_cons_of_mem c member)]
      rfl

theorem stripEscapes_eq_self {text : Text} (plain : ∀ c ∈ text, c ≠ '\x1b') :
    stripEscapes text = text := by
  have nothing : stripEscapes [] = [] := rfl
  simpa only [List.append_nil, nothing] using stripEscapes_append_of_plain plain []

/-- A text without escape characters is a single run. -/
theorem pieces_of_plain
    {text : Text} (nonempty : text ≠ []) (plain : ∀ c ∈ text, c ≠ '\x1b') :
    pieces text = [.plain text] := by
  induction text with
  | nil => exact absurd rfl nonempty
  | cons c text inductionHypothesis =>
      rw [pieces_plain (escapeLength_cons_of_ne (plain c List.mem_cons_self) text)]
      by_cases last : text = []
      · subst last
        rfl
      · rw [inductionHypothesis last fun other member =>
          plain other (List.mem_cons_of_mem c member)]
        rfl

theorem expandTabs_append (front back : Text) :
    expandTabs (front ++ back) = expandTabs front ++ expandTabs back :=
  List.flatMap_append

theorem expandTabs_eq_self {text : Text} (plain : ∀ c ∈ text, c ≠ '\t') :
    expandTabs text = text := by
  induction text with
  | nil => rfl
  | cons c text inductionHypothesis =>
      have rest := inductionHypothesis fun other member =>
        plain other (List.mem_cons_of_mem c member)
      rw [expandTabs, List.flatMap_cons, if_neg (plain c List.mem_cons_self)]
      exact congrArg (c :: ·) rest

theorem measured_eq_self {text : Text} (plain : ∀ c ∈ text, c ≠ '\x1b' ∧ c ≠ '\t') :
    measured text = text := by
  rw [measured, stripEscapes_eq_self fun c member => (plain c member).1,
    expandTabs_eq_self fun c member => (plain c member).2]

theorem measured_append_of_plain
    {front : Text} (plain : ∀ c ∈ front, c ≠ '\x1b') (back : Text) :
    measured (front ++ back) = measured front ++ measured back := by
  rw [measured, stripEscapes_append_of_plain plain, expandTabs_append, measured,
    stripEscapes_eq_self plain, measured]

theorem measured_sequence {code : Text} (sequence : IsSequence code) (text : Text) :
    measured (code ++ text) = measured text := by
  rw [measured, stripEscapes_sequence sequence, measured]

private theorem plain_of_mem_spaces {n : Nat} {c : Char} (member : c ∈ spaces n) :
    c ≠ '\x1b' ∧ c ≠ '\t' := by
  rw [List.eq_of_mem_replicate member]
  decide

private theorem stripEscapes_append_spaces (text : Text) (n : Nat) :
    stripEscapes (text ++ spaces n) = stripEscapes text ++ spaces n := by
  induction text using reading_induction with
  | nil => exact stripEscapes_eq_self fun c member => (plain_of_mem_spaces member).1
  | plain c text begun inductionHypothesis =>
      have still : escapeLength (c :: (text ++ spaces n)) = 0 := by
        rw [← List.cons_append, escapeLength_append_spaces, begun]
      rw [List.cons_append, stripEscapes_plain still, stripEscapes_plain begun,
        inductionHypothesis, List.cons_append]
  | sequence code text known inductionHypothesis =>
      rw [List.append_assoc, stripEscapes_sequence known, stripEscapes_sequence known,
        inductionHypothesis]

theorem measured_append_spaces (text : Text) (n : Nat) :
    measured (text ++ spaces n) = measured text ++ spaces n := by
  rw [measured, stripEscapes_append_spaces, expandTabs_append, measured,
    expandTabs_eq_self fun c member => (plain_of_mem_spaces member).2]

end Keychart.Text
