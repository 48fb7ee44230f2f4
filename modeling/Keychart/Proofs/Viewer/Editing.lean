import Keychart.Proofs.Text.Clusters
import Keychart.Proofs.Viewer.Arrivals
import Mathlib.Data.List.Flatten

/-!
# Editing on one side of the cursor

An editor here holds the whole text and a place in it, a number that nothing but its own
steps keeps within the text.  All its distances are lengths of pieces of the text on one
side of the place, however texts are parted into pieces.  So none of them reaches past an
end, and each edit leaves the other side alone.  With clusters for pieces it is the editor
of the query.
-/

namespace Keychart.Text

/-- A way to part texts into pieces, none of them empty. -/
structure Segmentation where
  pieces : Text → List Text
  joined : ∀ text, (pieces text).flatten = text
  nonempty : ∀ text, ∀ piece ∈ pieces text, piece ≠ []

def Segmentation.clusters : Segmentation where
  pieces := Text.clusters
  joined := flatten_clusters
  nonempty _ _ := ne_nil_of_mem_clusters

/-- The number of characters in front of a place.  Below nought a place is counted from the
end, and none lies outside of the text. -/
def placeOf (text : Text) (place : Int) : Nat :=
  (if place < 0 then place + text.length else place).toNat

def upTo (text : Text) (place : Int) : Text := text.take (placeOf text place)

def onFrom (text : Text) (place : Int) : Text := text.drop (placeOf text place)

private theorem placeOf_natCast (text : Text) (n : Nat) : placeOf text n = n := by
  rw [placeOf, if_neg (Int.not_lt.mpr (Int.natCast_nonneg n)), Int.toNat_natCast]

theorem upTo_append (front back : Text) : upTo (front ++ back) front.length = front := by
  rw [upTo, placeOf_natCast, List.take_left]

theorem onFrom_append (front back : Text) : onFrom (front ++ back) front.length = back := by
  rw [onFrom, placeOf_natCast, List.drop_left]

theorem upTo_zero (text : Text) : upTo text 0 = [] := upTo_append [] text

private theorem firstWord_begins (pieces : List Text) : firstWord pieces <+: pieces := by
  have parts := @List.takeWhile_append_dropWhile _ (fun g => wordClass g = .space) pieces
  have rest :
      pieces.drop (pieces.takeWhile fun g => wordClass g = .space).length =
        pieces.dropWhile fun g => wordClass g = .space := by
    have dropped := congrArg (List.drop
      (pieces.takeWhile fun g => wordClass g = .space).length) parts
    rw [List.drop_left] at dropped
    exact dropped.symm
  rw [firstWord, rest]
  split
  next => exact List.takeWhile_prefix _
  next g others begun =>
    rw [begun] at parts
    have word : (others.takeWhile fun h => wordClass h = wordClass g) <+: others :=
      List.takeWhile_prefix _
    have longer := (List.prefix_append_right_inj
      (pieces.takeWhile fun g => wordClass g = .space)).mpr
        ((List.prefix_cons_inj g).mpr word)
    rwa [parts] at longer

namespace Segmentation

variable (s : Segmentation) (text : Text)

/-- The first word of a text begins it. -/
theorem exists_firstWord :
    ∃ word rest, text = word ++ rest ∧ firstWordLength (s.pieces text) = word.length := by
  obtain ⟨rest, parts⟩ := firstWord_begins (s.pieces text)
  refine ⟨_, rest.flatten, ?_, rfl⟩
  rw [← List.flatten_append, parts, s.joined]

/-- Read from its end, the first word of a text ends it. -/
theorem exists_lastWord :
    ∃ kept word, text = kept ++ word ∧
      firstWordLength (s.pieces text).reverse = word.length := by
  obtain ⟨rest, parts⟩ := firstWord_begins (s.pieces text).reverse
  have turned := congrArg List.reverse parts
  rw [List.reverse_append, List.reverse_reverse] at turned
  refine ⟨rest.reverse.flatten, (firstWord (s.pieces text).reverse).reverse.flatten, ?_, ?_⟩
  · rw [← List.flatten_append, turned, s.joined]
  · exact (List.reverse_perm _).flatten.length_eq.symm

variable {text} {piece : Text}

private theorem eq_append_of_getLast? (last : (s.pieces text).getLast? = some piece) :
    text = (s.pieces text).dropLast.flatten ++ piece := by
  obtain ⟨front, parts⟩ := List.getLast?_eq_some_iff.mp last
  have spelled := s.joined text
  rw [parts, List.flatten_append, List.flatten_singleton] at spelled
  rw [parts, List.dropLast_concat, spelled]

private theorem eq_append_of_head? (first : (s.pieces text).head? = some piece) :
    text = piece ++ (s.pieces text).tail.flatten := by
  obtain ⟨rest, parts⟩ := List.head?_eq_some_iff.mp first
  have spelled := s.joined text
  rw [parts, List.flatten_cons] at spelled
  rw [parts, List.tail_cons, spelled]

private theorem eq_nil_of_pieces (nothing : s.pieces text = []) : text = [] := by
  rw [← s.joined text, nothing, List.flatten_nil]

variable (text)

/-- A text is empty and has no pieces, or its last piece ends it. -/
private theorem getLast?_cases :
    (text = [] ∧ s.pieces text = []) ∨
      ∃ piece, (s.pieces text).getLast? = some piece ∧
        text = (s.pieces text).dropLast.flatten ++ piece := by
  cases last : (s.pieces text).getLast? with
  | none =>
      have nothing := List.getLast?_eq_none_iff.mp last
      exact .inl ⟨s.eq_nil_of_pieces nothing, nothing⟩
  | some piece => exact .inr ⟨piece, rfl, s.eq_append_of_getLast? last⟩

/-- A text is empty and has no pieces, or its first piece begins it. -/
private theorem head?_cases :
    (text = [] ∧ s.pieces text = []) ∨
      ∃ piece, (s.pieces text).head? = some piece ∧
        text = piece ++ (s.pieces text).tail.flatten := by
  cases first : (s.pieces text).head? with
  | none =>
      have nothing := List.head?_eq_none_iff.mp first
      exact .inl ⟨s.eq_nil_of_pieces nothing, nothing⟩
  | some piece => exact .inr ⟨piece, rfl, s.eq_append_of_head? first⟩

private theorem dropLast_append_getLast? :
    (s.pieces text).dropLast.flatten ++ (s.pieces text).getLast?.getD [] = text := by
  rcases s.getLast?_cases text with ⟨rfl, nothing⟩ | ⟨piece, last, parts⟩
  · rw [nothing]
    rfl
  · rw [last]
    exact parts.symm

private theorem head?_append_tail :
    (s.pieces text).head?.getD [] ++ (s.pieces text).tail.flatten = text := by
  rcases s.head?_cases text with ⟨rfl, nothing⟩ | ⟨piece, first, parts⟩
  · rw [nothing]
    rfl
  · rw [first]
    exact parts.symm

private theorem dropLast_begins : (s.pieces text).dropLast.flatten <+: text := by
  have front := (List.dropLast_prefix (s.pieces text)).flatten
  rwa [s.joined] at front

private theorem tail_ends : (s.pieces text).tail.flatten <:+ text := by
  have back := (List.tail_suffix (s.pieces text)).flatten
  rwa [s.joined] at back

variable {text}

private theorem length_dropLast_lt (some : text ≠ []) :
    (s.pieces text).dropLast.flatten.length < text.length := by
  rcases s.getLast?_cases text with ⟨none, -⟩ | ⟨piece, last, parts⟩
  · exact absurd none some
  · have lengths := congrArg List.length parts
    have full := List.length_pos_of_ne_nil (s.nonempty text piece (List.mem_of_getLast? last))
    rw [List.length_append] at lengths
    omega

private theorem length_tail_lt (some : text ≠ []) :
    (s.pieces text).tail.flatten.length < text.length := by
  rcases s.head?_cases text with ⟨none, -⟩ | ⟨piece, first, parts⟩
  · exact absurd none some
  · have lengths := congrArg List.length parts
    have full := List.length_pos_of_ne_nil (s.nonempty text piece (List.mem_of_head? first))
    rw [List.length_append] at lengths
    omega

end Segmentation

end Keychart.Text

namespace Keychart.Viewer

open Text

/-- The editor as a text, a place in it, and the paste that is still open. -/
structure Editor where
  value : Text := []
  cursor : Int := 0
  paste : Option Text := none
deriving DecidableEq, Repr

namespace Editor

def setValue (e : Editor) (value : Text) : Editor :=
  { e with value := value, cursor := min e.cursor value.length }

def insert (e : Editor) (text : Text) : Editor :=
  { e with
    value := upTo e.value e.cursor ++ text ++ onFrom e.value e.cursor
    cursor := e.cursor + text.length }

/-- Takes the text between two places away and goes to the first one. -/
def cut (e : Editor) (first last : Int) : Editor :=
  { e with value := upTo e.value first ++ onFrom e.value last, cursor := first }

def goTo (e : Editor) (place : Int) : Editor := { e with cursor := place }

section Steps

variable (s : Segmentation)

def piecesBefore (e : Editor) : List Text := s.pieces (upTo e.value e.cursor)

def piecesAfter (e : Editor) : List Text := s.pieces (onFrom e.value e.cursor)

def wordStart (e : Editor) : Int := e.cursor - firstWordLength (e.piecesBefore s).reverse

def wordEnd (e : Editor) : Int := e.cursor + firstWordLength (e.piecesAfter s)

def perform (e : Editor) : Action → Editor
  | .deleteCharBackward =>
    match (e.piecesBefore s).getLast? with
    | some piece => e.cut (e.cursor - piece.length) e.cursor
    | none => e
  | .deleteCharForward =>
    match (e.piecesAfter s).head? with
    | some piece => e.cut e.cursor (e.cursor + piece.length)
    | none => e
  | .deleteWordBackward => e.cut (e.wordStart s) e.cursor
  | .deleteToLineStart => e.cut 0 e.cursor
  | .deleteToLineEnd => { e with value := upTo e.value e.cursor }
  | .cursorLeft =>
    match (e.piecesBefore s).getLast? with
    | some piece => e.goTo (e.cursor - piece.length)
    | none => e
  | .cursorRight =>
    match (e.piecesAfter s).head? with
    | some piece => e.goTo (e.cursor + piece.length)
    | none => e
  | .cursorLineStart => e.goTo 0
  | .cursorLineEnd => e.goTo e.value.length
  | .cursorWordLeft => e.goTo (e.wordStart s)
  | .cursorWordRight => e.goTo (e.wordEnd s)
  | _ => e

variable (bindings : Bindings)

def pressKey (e : Editor) (data : Text) : Editor :=
  match Query.editingActions.find? fun a => bindings.triggers data a with
  | some action => e.perform s action
  | none => if data.any Unicode.isControl then e else e.insert data

def take (e : Editor) : Arrival → Editor
  | .key data => e.pressKey s bindings data
  | .paste text => e.insert (Text.lines text).flatten

def read (e : Editor) (data : Text) : Editor :=
  { (arrivals e.paste data).1.foldl (take s bindings) e with
    paste := (arrivals e.paste data).2 }

/-- What is asked of an editor: to read input, or to take another text. -/
inductive Call where
  | input (data : Text)
  | setValue (value : Text)
deriving DecidableEq, Repr

def answer (e : Editor) : Call → Editor
  | .input data => e.read s bindings data
  | .setValue value => e.setValue value

def run (e : Editor) (calls : List Call) : Editor := calls.foldl (answer s bindings) e

end Steps

def between (left right : Text) (paste : Option Text) : Editor :=
  { value := left ++ right, cursor := left.length, paste := paste }

def Inside (e : Editor) : Prop := 0 ≤ e.cursor ∧ e.cursor ≤ e.value.length

theorem inside_iff {e : Editor} :
    e.Inside ↔ ∃ left right, e = between left right e.paste := by
  constructor
  · intro inside
    obtain ⟨least, most⟩ := inside
    obtain ⟨n, place⟩ := Int.eq_ofNat_of_zero_le least
    rw [place] at most
    refine ⟨e.value.take n, e.value.drop n, ?_⟩
    have front : (e.value.take n).length = n :=
      List.length_take_of_le (Int.ofNat_le.mp most)
    rw [between, List.take_append_drop, front, ← place]
  · intro parted
    obtain ⟨left, right, same⟩ := parted
    rw [same, Inside, between]
    simp only [List.length_append]
    omega

section Between

variable (s : Segmentation) (left right kept gone : Text) (paste : Option Text)

private theorem piecesBefore_between :
    (between left right paste).piecesBefore s = s.pieces left :=
  congrArg s.pieces (upTo_append left right)

private theorem piecesAfter_between :
    (between left right paste).piecesAfter s = s.pieces right :=
  congrArg s.pieces (onFrom_append left right)

private theorem insert_between (text : Text) :
    (between left right paste).insert text = between (left ++ text) right paste := by
  rw [insert, between, between, upTo_append, onFrom_append]
  simp only [List.length_append, Int.natCast_add]

private theorem back_eq : ((kept ++ gone).length : Int) - gone.length = kept.length := by
  rw [List.length_append]
  omega

/-- To take away what ends in front of the cursor leaves the rest of that side. -/
theorem cut_back :
    (between (kept ++ gone) right paste).cut ((kept ++ gone).length - gone.length)
        (kept ++ gone).length =
      between kept right paste := by
  have front : upTo (kept ++ gone ++ right) kept.length = kept := by
    rw [List.append_assoc, upTo_append]
  have back : onFrom (kept ++ gone ++ right) (kept ++ gone).length = right :=
    onFrom_append _ right
  simp only [cut, between, back_eq, front, back]

private theorem goTo_back :
    (between (kept ++ gone) right paste).goTo ((kept ++ gone).length - gone.length) =
      between kept (gone ++ right) paste := by
  rw [goTo, back_eq, between, between, List.append_assoc]

private theorem ahead_eq : (left.length : Int) + gone.length = (left ++ gone).length := by
  rw [List.length_append, Int.natCast_add]

/-- To take away what begins behind the cursor leaves the rest of that side. -/
theorem cut_ahead :
    (between left (gone ++ kept) paste).cut left.length (left.length + gone.length) =
      between left kept paste := by
  have front : upTo (left ++ (gone ++ kept)) left.length = left := upTo_append left _
  have back : onFrom (left ++ (gone ++ kept)) (left ++ gone).length = kept := by
    rw [← List.append_assoc, onFrom_append]
  simp only [cut, between, ahead_eq, front, back]

private theorem goTo_ahead :
    (between left (gone ++ kept) paste).goTo (left.length + gone.length) =
      between (left ++ gone) kept paste := by
  rw [goTo, ahead_eq, between, between, List.append_assoc]

end Between

/-! ## One edit -/

section Edits

variable (s : Segmentation) (left right : Text) (paste : Option Text)

private theorem perform_deleteCharBackward :
    (between left right paste).perform s .deleteCharBackward =
      between (s.pieces left).dropLast.flatten right paste := by
  unfold perform
  dsimp only
  rw [piecesBefore_between]
  rcases s.getLast?_cases left with ⟨rfl, nothing⟩ | ⟨piece, found, parts⟩
  · rw [nothing]
    rfl
  · rw [found]
    generalize (s.pieces left).dropLast.flatten = kept at parts ⊢
    subst parts
    exact cut_back right kept piece paste

private theorem perform_cursorLeft :
    (between left right paste).perform s .cursorLeft =
      between (s.pieces left).dropLast.flatten
        ((s.pieces left).getLast?.getD [] ++ right) paste := by
  unfold perform
  dsimp only
  rw [piecesBefore_between]
  rcases s.getLast?_cases left with ⟨rfl, nothing⟩ | ⟨piece, found, parts⟩
  · rw [nothing]
    rfl
  · rw [found]
    generalize (s.pieces left).dropLast.flatten = kept at parts ⊢
    subst parts
    exact goTo_back right kept piece paste

private theorem perform_deleteCharForward :
    (between left right paste).perform s .deleteCharForward =
      between left (s.pieces right).tail.flatten paste := by
  unfold perform
  dsimp only
  rw [piecesAfter_between]
  rcases s.head?_cases right with ⟨rfl, nothing⟩ | ⟨piece, found, parts⟩
  · rw [nothing]
    rfl
  · rw [found]
    generalize (s.pieces right).tail.flatten = kept at parts ⊢
    subst parts
    exact cut_ahead left kept piece paste

private theorem perform_cursorRight :
    (between left right paste).perform s .cursorRight =
      between (left ++ (s.pieces right).head?.getD [])
        (s.pieces right).tail.flatten paste := by
  unfold perform
  dsimp only
  rw [piecesAfter_between]
  rcases s.head?_cases right with ⟨rfl, nothing⟩ | ⟨piece, found, parts⟩
  · rw [nothing, List.head?_nil, Option.getD_none, List.append_nil]
    rfl
  · rw [found]
    generalize (s.pieces right).tail.flatten = kept at parts ⊢
    subst parts
    exact goTo_ahead left kept piece paste

/-- A word in front of the cursor is taken away exactly as far as the cursor would go. -/
theorem exists_perform_wordBack :
    ∃ kept word, left = kept ++ word ∧
      firstWordLength (s.pieces left).reverse = word.length ∧
      (between left right paste).perform s .cursorWordLeft = between kept (word ++ right) paste ∧
      (between left right paste).perform s .deleteWordBackward = between kept right paste := by
  obtain ⟨kept, word, parts, length⟩ := s.exists_lastWord left
  have start : (between left right paste).wordStart s = left.length - word.length := by
    rw [wordStart, piecesBefore_between, length]
    rfl
  refine ⟨kept, word, parts, length, ?_, ?_⟩
  · change (between left right paste).goTo _ = _
    rw [start]
    subst parts
    exact goTo_back right kept word paste
  · change (between left right paste).cut _ _ = _
    rw [start]
    subst parts
    exact cut_back right kept word paste

private theorem exists_perform_wordAhead :
    ∃ word rest, right = word ++ rest ∧
      firstWordLength (s.pieces right) = word.length ∧
      (between left right paste).perform s .cursorWordRight = between (left ++ word) rest paste := by
  obtain ⟨word, rest, parts, length⟩ := s.exists_firstWord right
  have ends : (between left right paste).wordEnd s = left.length + word.length := by
    rw [wordEnd, piecesAfter_between, length]
    rfl
  refine ⟨word, rest, parts, length, ?_⟩
  change (between left right paste).goTo _ = _
  rw [ends]
  subst parts
  exact goTo_ahead left rest word paste

private theorem perform_deleteToLineStart :
    (between left right paste).perform s .deleteToLineStart = between [] right paste := by
  have back : onFrom (left ++ right) left.length = right := onFrom_append left right
  change (between left right paste).cut 0 _ = _
  simp only [cut, between, upTo_zero, back, List.length_nil, Int.natCast_zero]

private theorem perform_deleteToLineEnd :
    (between left right paste).perform s .deleteToLineEnd = between left [] paste := by
  have front : upTo (left ++ right) left.length = left := upTo_append left right
  change { between left right paste with value := upTo (left ++ right) left.length } = _
  rw [front, between, between, List.append_nil]

private theorem perform_cursorLineStart :
    (between left right paste).perform s .cursorLineStart = between [] (left ++ right) paste :=
  rfl

private theorem perform_cursorLineEnd :
    (between left right paste).perform s .cursorLineEnd = between (left ++ right) [] paste := by
  change (between left right paste).goTo (left ++ right).length = _
  rw [goTo, between, between, List.append_nil]

end Edits

/-- What the edits leave of a text with the cursor between two parts of it: each touches
one side of the cursor only. -/
structure KeepsSides (s : Segmentation) (left right : Text) (paste : Option Text) : Prop where
  inserts : ∀ text,
    (between left right paste).insert text = between (left ++ text) right paste
  deletesBack : ∀ action ∈ [Action.deleteCharBackward, .deleteWordBackward, .deleteToLineStart],
    ∃ kept, kept <+: left ∧
      (between left right paste).perform s action = between kept right paste
  deletesAhead : ∀ action ∈ [Action.deleteCharForward, .deleteToLineEnd],
    ∃ kept, kept <:+ right ∧
      (between left right paste).perform s action = between left kept paste
  moves : ∀ action ∈ [Action.cursorLeft, .cursorRight, .cursorLineStart, .cursorLineEnd,
      .cursorWordLeft, .cursorWordRight],
    ∃ front back, front ++ back = left ++ right ∧
      (between left right paste).perform s action = between front back paste
  deletesWord : ∃ kept word, left = kept ++ word ∧
    (between left right paste).perform s .cursorWordLeft = between kept (word ++ right) paste ∧
    (between left right paste).perform s .deleteWordBackward = between kept right paste
  deletesPiece :
    (left ≠ [] → (between left right paste).perform s .deleteCharBackward ≠
      between left right paste) ∧
    (right ≠ [] → (between left right paste).perform s .deleteCharForward ≠
      between left right paste)
  deletesLine :
    (between left right paste).perform s .deleteToLineStart = between [] right paste ∧
    (between left right paste).perform s .deleteToLineEnd = between left [] paste

section Laws

variable (s : Segmentation) (left right : Text) (paste : Option Text)

private theorem exists_perform_back {action : Action}
    (back : action ∈ [Action.deleteCharBackward, .deleteWordBackward, .deleteToLineStart]) :
    ∃ kept, kept <+: left ∧
      (between left right paste).perform s action = between kept right paste := by
  simp only [List.mem_cons, List.not_mem_nil, or_false] at back
  rcases back with rfl | rfl | rfl
  · exact ⟨_, s.dropLast_begins left, perform_deleteCharBackward s left right paste⟩
  · obtain ⟨kept, word, parts, -, -, deleted⟩ := exists_perform_wordBack s left right paste
    exact ⟨kept, ⟨word, parts.symm⟩, deleted⟩
  · exact ⟨[], List.nil_prefix, perform_deleteToLineStart s left right paste⟩

private theorem exists_perform_ahead {action : Action}
    (ahead : action ∈ [Action.deleteCharForward, .deleteToLineEnd]) :
    ∃ kept, kept <:+ right ∧
      (between left right paste).perform s action = between left kept paste := by
  simp only [List.mem_cons, List.not_mem_nil, or_false] at ahead
  rcases ahead with rfl | rfl
  · exact ⟨_, s.tail_ends right, perform_deleteCharForward s left right paste⟩
  · exact ⟨[], List.nil_suffix, perform_deleteToLineEnd s left right paste⟩

private theorem exists_perform_move {action : Action}
    (move : action ∈ [Action.cursorLeft, .cursorRight, .cursorLineStart, .cursorLineEnd,
      .cursorWordLeft, .cursorWordRight]) :
    ∃ front back, front ++ back = left ++ right ∧
      (between left right paste).perform s action = between front back paste := by
  simp only [List.mem_cons, List.not_mem_nil, or_false] at move
  rcases move with rfl | rfl | rfl | rfl | rfl | rfl
  · refine ⟨_, _, ?_, perform_cursorLeft s left right paste⟩
    rw [← List.append_assoc, s.dropLast_append_getLast?]
  · refine ⟨_, _, ?_, perform_cursorRight s left right paste⟩
    rw [List.append_assoc, s.head?_append_tail]
  · exact ⟨[], left ++ right, rfl, perform_cursorLineStart s left right paste⟩
  · exact ⟨left ++ right, [], List.append_nil _, perform_cursorLineEnd s left right paste⟩
  · obtain ⟨kept, word, rfl, -, moved, -⟩ := exists_perform_wordBack s left right paste
    exact ⟨kept, word ++ right, (List.append_assoc ..).symm, moved⟩
  · obtain ⟨word, rest, rfl, -, moved⟩ := exists_perform_wordAhead s left right paste
    exact ⟨left ++ word, rest, List.append_assoc .., moved⟩

private theorem keepsSides : KeepsSides s left right paste where
  inserts := insert_between left right paste
  deletesBack _ := exists_perform_back s left right paste
  deletesAhead _ := exists_perform_ahead s left right paste
  moves _ := exists_perform_move s left right paste
  deletesWord := by
    obtain ⟨kept, word, parts, -, moved, deleted⟩ := exists_perform_wordBack s left right paste
    exact ⟨kept, word, parts, moved, deleted⟩
  deletesPiece := by
    rw [perform_deleteCharBackward, perform_deleteCharForward]
    constructor
    · intro some same
      have places : ((s.pieces left).dropLast.flatten.length : Int) = left.length :=
        congrArg cursor same
      have fewer := s.length_dropLast_lt some
      omega
    · intro some same
      have values : left ++ (s.pieces right).tail.flatten = left ++ right :=
        congrArg value same
      have fewer := s.length_tail_lt some
      rw [List.append_cancel_left values] at fewer
      exact absurd fewer (Nat.lt_irrefl _)
  deletesLine :=
    ⟨perform_deleteToLineStart s left right paste, perform_deleteToLineEnd s left right paste⟩

/-- No action puts the cursor outside of the text. -/
theorem exists_between_perform (action : Action) :
    ∃ front back, (between left right paste).perform s action = between front back paste := by
  cases action with
  | quit | reload | scrollUp | scrollDown | pageUp | pageDown | scrollTop | scrollBottom =>
      exact ⟨left, right, rfl⟩
  | deleteCharBackward => exact ⟨_, _, perform_deleteCharBackward s left right paste⟩
  | deleteCharForward => exact ⟨_, _, perform_deleteCharForward s left right paste⟩
  | deleteToLineStart => exact ⟨_, _, perform_deleteToLineStart s left right paste⟩
  | deleteToLineEnd => exact ⟨_, _, perform_deleteToLineEnd s left right paste⟩
  | cursorLeft => exact ⟨_, _, perform_cursorLeft s left right paste⟩
  | cursorRight => exact ⟨_, _, perform_cursorRight s left right paste⟩
  | cursorLineStart => exact ⟨_, _, perform_cursorLineStart s left right paste⟩
  | cursorLineEnd => exact ⟨_, _, perform_cursorLineEnd s left right paste⟩
  | deleteWordBackward =>
      obtain ⟨kept, _, -, -, -, deleted⟩ := exists_perform_wordBack s left right paste
      exact ⟨kept, right, deleted⟩
  | cursorWordLeft =>
      obtain ⟨kept, word, -, -, moved, -⟩ := exists_perform_wordBack s left right paste
      exact ⟨kept, word ++ right, moved⟩
  | cursorWordRight =>
      obtain ⟨word, rest, -, -, moved⟩ := exists_perform_wordAhead s left right paste
      exact ⟨left ++ word, rest, moved⟩

end Laws

section Calls

variable (s : Segmentation) (bindings : Bindings)

/-- An arrival is nothing to the editor, or an insertion, or an editing action. -/
theorem take_eq_edit (e : Editor) (arrival : Arrival) :
    e.take s bindings arrival = e ∨ (∃ text, e.take s bindings arrival = e.insert text) ∨
      ∃ action ∈ Query.editingActions, e.take s bindings arrival = e.perform s action := by
  cases arrival with
  | paste text => exact .inr (.inl ⟨_, rfl⟩)
  | key data =>
      rw [take, pressKey]
      split
      next action triggered =>
        exact .inr (.inr ⟨action, List.mem_of_find?_eq_some triggered, rfl⟩)
      next =>
        split
        · exact .inl rfl
        · exact .inr (.inl ⟨data, rfl⟩)

private theorem inside_between (left right : Text) (paste : Option Text) :
    (between left right paste).Inside :=
  inside_iff.mpr ⟨left, right, rfl⟩

theorem Inside.take {e : Editor} (inside : e.Inside) (arrival : Arrival) :
    (e.take s bindings arrival).Inside := by
  obtain ⟨left, right, parted⟩ := inside_iff.mp inside
  rcases take_eq_edit s bindings e arrival with same | ⟨text, same⟩ | ⟨action, -, same⟩
  · rwa [same]
  · rw [same, parted, insert_between]
    exact inside_between _ _ _
  · obtain ⟨front, back, edited⟩ := exists_between_perform s left right e.paste action
    rw [same, parted, edited]
    exact inside_between _ _ _

private theorem Inside.foldl_take {e : Editor} (inside : e.Inside) (arrived : List Arrival) :
    (arrived.foldl (Editor.take s bindings) e).Inside := by
  induction arrived generalizing e with
  | nil => exact inside
  | cons arrival arrived inductionHypothesis =>
      exact inductionHypothesis (inside.take s bindings arrival)

private theorem inside_setValue {e : Editor} (inside : e.Inside) (value : Text) :
    (e.setValue value).Inside := by
  obtain ⟨least, -⟩ := inside
  exact ⟨Int.le_min.mpr ⟨least, Int.natCast_nonneg _⟩, Int.min_le_right _ _⟩

/-- The cursor stays in the text, call by call. -/
theorem Inside.answer {e : Editor} (inside : e.Inside) (call : Call) :
    (e.answer s bindings call).Inside := by
  cases call with
  | input data => exact inside.foldl_take s bindings (arrivals e.paste data).1
  | setValue value => exact inside_setValue inside value

theorem Inside.run {e : Editor} (inside : e.Inside) (calls : List Call) :
    (e.run s bindings calls).Inside := by
  induction calls generalizing e with
  | nil => exact inside
  | cons call calls inductionHypothesis =>
      exact inductionHypothesis (inside.answer s bindings call)

end Calls

/-! ## The query -/

/-- The text of an editor in front of its cursor and behind it. -/
def toQuery (e : Editor) : Query where
  before := upTo e.value e.cursor
  after := onFrom e.value e.cursor
  paste := e.paste

private theorem toQuery_between (left right : Text) (paste : Option Text) :
    (between left right paste).toQuery = { before := left, after := right, paste := paste } := by
  have front : upTo (left ++ right) left.length = left := upTo_append left right
  have back : onFrom (left ++ right) left.length = right := onFrom_append left right
  simp only [toQuery, between, front, back]

section Query

variable (left right : Text) (paste : Option Text) {kept gone : Text}

private theorem splitBack_of_append (parts : left = kept ++ gone) {q : Query}
    (same : q.before = left) :
    q.splitBack gone.length = (kept, gone) := by
  rw [Query.splitBack, same, parts, List.length_append, Nat.add_sub_cancel, List.take_left,
    List.drop_left]

private theorem deleteBack_of_append (parts : left = kept ++ gone) :
    ({ before := left, after := right, paste := paste } : Query).deleteBack gone.length =
      { before := kept, after := right, paste := paste } := by
  rw [Query.deleteBack, splitBack_of_append left parts rfl]

private theorem moveBack_of_append (parts : left = kept ++ gone) :
    ({ before := left, after := right, paste := paste } : Query).moveBack gone.length =
      { before := kept, after := gone ++ right, paste := paste } := by
  rw [Query.moveBack, splitBack_of_append left parts rfl]

private theorem deleteAhead_of_append (parts : right = gone ++ kept) :
    ({ before := left, after := right, paste := paste } : Query).deleteAhead gone.length =
      { before := left, after := kept, paste := paste } := by
  rw [Query.deleteAhead, parts, List.drop_left]

private theorem moveAhead_of_append (parts : right = gone ++ kept) :
    ({ before := left, after := right, paste := paste } : Query).moveAhead gone.length =
      { before := left ++ gone, after := kept, paste := paste } := by
  rw [Query.moveAhead, parts, List.drop_left, List.take_left]

/-- With clusters for pieces each action does to the query what it does to the editor. -/
theorem toQuery_perform (action : Action) :
    ((between left right paste).perform .clusters action).toQuery =
      (between left right paste).toQuery.perform action := by
  have front := Segmentation.clusters.dropLast_append_getLast? left
  have back := Segmentation.clusters.head?_append_tail right
  rw [toQuery_between]
  cases action with
  | quit | reload | scrollUp | scrollDown | pageUp | pageDown | scrollTop | scrollBottom =>
      exact toQuery_between left right paste
  | deleteCharBackward =>
      rw [perform_deleteCharBackward, toQuery_between]
      exact (deleteBack_of_append left right paste front.symm).symm
  | deleteCharForward =>
      rw [perform_deleteCharForward, toQuery_between]
      exact (deleteAhead_of_append left right paste back.symm).symm
  | cursorLeft =>
      rw [perform_cursorLeft, toQuery_between]
      exact (moveBack_of_append left right paste front.symm).symm
  | cursorRight =>
      rw [perform_cursorRight, toQuery_between]
      exact (moveAhead_of_append left right paste back.symm).symm
  | deleteToLineStart =>
      rw [perform_deleteToLineStart]
      exact toQuery_between [] right paste
  | deleteToLineEnd =>
      rw [perform_deleteToLineEnd]
      exact toQuery_between left [] paste
  | cursorLineStart =>
      rw [perform_cursorLineStart]
      exact toQuery_between [] (left ++ right) paste
  | cursorLineEnd =>
      rw [perform_cursorLineEnd]
      exact toQuery_between (left ++ right) [] paste
  | deleteWordBackward =>
      obtain ⟨kept, word, parts, length, -, deleted⟩ :=
        exists_perform_wordBack .clusters left right paste
      rw [deleted, toQuery_between]
      have same := deleteBack_of_append left right paste parts
      rw [← length] at same
      exact same.symm
  | cursorWordLeft =>
      obtain ⟨kept, word, parts, length, moved, -⟩ :=
        exists_perform_wordBack .clusters left right paste
      rw [moved, toQuery_between]
      have same := moveBack_of_append left right paste parts
      rw [← length] at same
      exact same.symm
  | cursorWordRight =>
      obtain ⟨word, rest, parts, length, moved⟩ :=
        exists_perform_wordAhead .clusters left right paste
      rw [moved, toQuery_between]
      have same := moveAhead_of_append left right paste parts
      rw [← length] at same
      exact same.symm

private theorem toQuery_insert (text : Text) :
    ((between left right paste).insert text).toQuery =
      (between left right paste).toQuery.insert text := by
  rw [insert_between, toQuery_between, toQuery_between, Query.insert]

end Query

section Runs

variable (bindings : Bindings)

private theorem Inside.toQuery_take {e : Editor} (inside : e.Inside) (arrival : Arrival) :
    (e.take .clusters bindings arrival).toQuery = e.toQuery.take bindings arrival := by
  obtain ⟨left, right, parted⟩ := inside_iff.mp inside
  rw [parted]
  cases arrival with
  | paste text => exact toQuery_insert left right e.paste _
  | key data =>
      rw [Editor.take, Editor.pressKey, Query.take, Query.pressKey]
      cases Query.editingActions.find? fun a => bindings.triggers data a with
      | some action => exact toQuery_perform left right e.paste action
      | none =>
          dsimp only
          split
          · rfl
          · exact toQuery_insert left right e.paste data

private theorem Inside.toQuery_foldl_take
    {e : Editor} (inside : e.Inside) (arrived : List Arrival) :
    (arrived.foldl (Editor.take .clusters bindings) e).toQuery =
      arrived.foldl (Query.take bindings) e.toQuery := by
  induction arrived generalizing e with
  | nil => rfl
  | cons arrival arrived inductionHypothesis =>
      rw [List.foldl_cons, List.foldl_cons, inductionHypothesis (inside.take .clusters bindings _),
        inside.toQuery_take]

def answerQuery (q : Query) : Call → Query
  | .input data => q.read bindings data
  | .setValue value => q.setValue value

private theorem Inside.toQuery_setValue {e : Editor} (inside : e.Inside) (value : Text) :
    (e.setValue value).toQuery = e.toQuery.setValue value := by
  obtain ⟨left, right, parted⟩ := inside_iff.mp inside
  have place : min (left.length : Int) value.length = (min left.length value.length : Nat) := by
    omega
  have front : upTo value (min (left.length : Int) value.length) = value.take left.length := by
    rw [place, upTo, placeOf_natCast, ← List.take_eq_take_min]
  have back : onFrom value (min (left.length : Int) value.length) = value.drop left.length := by
    rw [place, onFrom, placeOf_natCast]
    rcases Nat.le_total left.length value.length with within | beyond
    · rw [Nat.min_eq_left within]
    · rw [Nat.min_eq_right beyond, List.drop_length, List.drop_eq_nil_of_le beyond]
  rw [parted, toQuery_between, toQuery, setValue, between, Query.setValue, Query.cursor, front,
    back]

private theorem Inside.toQuery_answer {e : Editor} (inside : e.Inside) (call : Call) :
    (e.answer .clusters bindings call).toQuery = answerQuery bindings e.toQuery call := by
  cases call with
  | input data =>
      have taken := inside.toQuery_foldl_take bindings (arrivals e.paste data).1
      rw [answerQuery, Query.read_eq_foldl_take]
      exact congrArg (Query.withPaste · (arrivals e.paste data).2) taken
  | setValue value => exact inside.toQuery_setValue value

private theorem Inside.toQuery_run {e : Editor} (inside : e.Inside) (calls : List Call) :
    (e.run .clusters bindings calls).toQuery = calls.foldl (answerQuery bindings) e.toQuery := by
  induction calls generalizing e with
  | nil => rfl
  | cons call calls inductionHypothesis =>
      rw [List.foldl_cons, ← inside.toQuery_answer]
      exact inductionHypothesis (inside.answer .clusters bindings call)

private theorem Inside.value_toQuery {e : Editor} (inside : e.Inside) :
    e.toQuery.value = e.value ∧ (e.toQuery.cursor : Int) = e.cursor := by
  obtain ⟨left, right, parted⟩ := inside_iff.mp inside
  rw [parted, toQuery_between]
  exact ⟨rfl, rfl⟩

end Runs

/-- However texts are parted into pieces, the cursor is in the text behind any calls.  Each
arrival of input is an edit or nothing, and each edit of a text with the cursor between two
parts touches one of them only.  With clusters for pieces the text and the cursor are those
of the query. -/
theorem edits_keep_sides (s : Segmentation) (bindings : Bindings) :
    (∀ calls, (run s bindings {} calls).Inside) ∧
      (∀ (e : Editor) (arrival : Arrival),
        e.take s bindings arrival = e ∨ (∃ text, e.take s bindings arrival = e.insert text) ∨
          ∃ action ∈ Query.editingActions, e.take s bindings arrival = e.perform s action) ∧
      (∀ e : Editor, e.Inside ↔ ∃ left right, e = between left right e.paste) ∧
      (∀ left right paste, KeepsSides s left right paste) ∧
      ∀ calls,
        let q := calls.foldl (answerQuery bindings) {}
        (run .clusters bindings {} calls).toQuery = q ∧
          q.value = (run .clusters bindings {} calls).value ∧
          (q.cursor : Int) = (run .clusters bindings {} calls).cursor := by
  have empty : Inside {} := ⟨Int.le_refl 0, Int.le_refl 0⟩
  refine ⟨empty.run s bindings, take_eq_edit s bindings, @inside_iff, keepsSides s, ?_⟩
  intro calls q
  have same : (run .clusters bindings {} calls).toQuery = q := empty.toQuery_run bindings calls
  have inside := empty.run .clusters bindings calls
  rw [← same]
  exact ⟨rfl, inside.value_toQuery⟩

end Editor

end Keychart.Viewer
