import Keychart.Key.Parse
import Keychart.Key.Reads
import Keychart.Proofs.Key.Items
import Keychart.Proofs.Text.Streamed

/-!
# Input cut into reads

What is typed reaches the program in reads that end anywhere, also within a character.
Without an escape each character is an item of its own, so the items of all reads are
those of one read that brings all the bytes.
-/

namespace Keychart.Key

private theorem itemLength_of_ne_escape {c : Char} (plain : c ≠ '\x1b') (text : Text) :
    itemLength (c :: text) = 1 := by
  have noPaste : ¬ pasteStart <+: c :: text := by
    intro begins
    have spelled : pasteStart = '\x1b' :: ['[', '2', '0', '0', '~'] := by decide
    rw [spelled, List.cons_prefix_cons] at begins
    exact plain begins.1.symm
  rw [itemLength_of_no_paste noPaste, if_neg plain]

/-- Without an escape each character is an item. -/
theorem splitInput_of_no_escape {data : Text} (noEscape : '\x1b' ∉ data) :
    splitInput data = data.map fun c => [c] := by
  induction data with
  | nil => rfl
  | cons c data inductionHypothesis =>
      have plain : c ≠ '\x1b' := fun escape => noEscape (escape ▸ List.mem_cons_self)
      have rest := inductionHypothesis fun member => noEscape (List.mem_cons_of_mem c member)
      rw [splitInput, selfDelimiting_itemLength.cutBy_eq (List.cons_ne_nil c data),
        itemLength_of_ne_escape plain]
      exact congrArg ([c] :: ·) rest

namespace Reads

def readEach (r : Reads) (reads : List (List UInt8)) : Reads :=
  reads.foldl (fun r bytes => (r.read bytes).2) r

def Waits (r : Reads) : Prop := Text.decodeRead r.unfinished [] = ([], r.unfinished)

theorem read_eq (r : Reads) (bytes : List UInt8) :
    r.read bytes =
      (splitInput (Text.decodeRead r.unfinished bytes).1,
        ⟨(Text.decodeRead r.unfinished bytes).2⟩) := rfl

private theorem waits_read (r : Reads) (bytes : List UInt8) : (r.read bytes).2.Waits :=
  Text.decodeRead_waiting r.unfinished bytes

theorem readAll_cons (r : Reads) (bytes : List UInt8) (rest : List (List UInt8)) :
    r.readAll (bytes :: rest) = (r.read bytes).1 :: (r.read bytes).2.readAll rest := rfl

/-- Some reads leave unfinished what one read of all their bytes leaves. -/
theorem readEach_eq_read {r : Reads} (waits : r.Waits) (reads : List (List UInt8)) :
    r.readEach reads = (r.read reads.flatten).2 := by
  induction reads generalizing r with
  | nil => rw [readEach, List.foldl_nil, List.flatten_nil, read_eq, waits]
  | cons bytes reads inductionHypothesis =>
      have rest := inductionHypothesis (waits_read r bytes)
      rw [readEach] at rest ⊢
      rw [List.foldl_cons, rest, List.flatten_cons, read_eq r (bytes ++ reads.flatten),
        Text.decodeRead_append]
      rfl

/-- The items of some reads that bring no escape are the characters that their bytes are
decoded to. -/
theorem flatten_readAll_of_no_escape {r : Reads} (waits : r.Waits) {reads : List (List UInt8)}
    (noEscape : '\x1b' ∉ (Text.decodeRead r.unfinished reads.flatten).1) :
    (r.readAll reads).flatten =
      (Text.decodeRead r.unfinished reads.flatten).1.map fun c => [c] := by
  induction reads generalizing r with
  | nil => rw [readAll, List.flatten_nil, List.flatten_nil, waits, List.map_nil]
  | cons bytes reads inductionHypothesis =>
      rw [List.flatten_cons, Text.decodeRead_append, List.mem_append, not_or] at noEscape
      have rest := inductionHypothesis (waits_read r bytes) noEscape.2
      rw [readAll_cons, List.flatten_cons, rest, read_eq, splitInput_of_no_escape noEscape.1,
        List.flatten_cons, Text.decodeRead_append, List.map_append]

/-- However a stream without escapes is cut into reads, their items are those of one read
that brings it all, one for each character, and the same bytes stay unfinished.  Wherever
the bytes of a character stand in it, behind bytes that leave nothing unfinished, that
character is delivered between what is in front of it and what is behind it; so the bytes
of a text are delivered as its characters. -/
theorem readAll_delivers_as_one_read (reads : List (List UInt8))
    (noEscape : '\x1b' ∉ (Text.decodeRead [] reads.flatten).1) :
    (({} : Reads).readAll reads).flatten = (({} : Reads).read reads.flatten).1 ∧
      (({} : Reads).readAll reads).flatten =
        ((Text.decodeRead [] reads.flatten).1.map fun c => [c]) ∧
      ({} : Reads).readEach reads = (({} : Reads).read reads.flatten).2 ∧
      (∀ front c back text, reads.flatten = front ++ (Text.encodeChar c ++ back) →
        Text.decodeRead [] front = (text, []) →
          (({} : Reads).readAll reads).flatten =
            (text.map fun c => [c]) ++
              [c] :: (Text.decodeRead [] back).1.map fun c => [c]) ∧
      ∀ text, reads.flatten = Text.encode text →
        (({} : Reads).readAll reads).flatten = text.map fun c => [c] := by
  have waits : ({} : Reads).Waits := rfl
  have delivered : (({} : Reads).readAll reads).flatten =
      (Text.decodeRead [] reads.flatten).1.map fun c => [c] :=
    flatten_readAll_of_no_escape waits noEscape
  refine ⟨?_, delivered, readEach_eq_read waits reads, ?_, ?_⟩
  · rw [delivered, read_eq]
    exact (splitInput_of_no_escape noEscape).symm
  · intro front c back text parts ahead
    rw [delivered, parts, Text.decodeRead_append, ahead, Text.decodeRead_encodeChar_append,
      List.map_append, List.map_cons]
  · intro text whole
    rw [delivered, whole, Text.decodeRead_encode]

/-- A stream in which a letter, a picture and broken bytes are each cut by the end of a
read. -/
def cutStream : List (List UInt8) :=
  [[0x61, 0xC3], [0xA9, 0xE2, 0x28], [0xED, 0xA0], [0x41, 0xF0], [0x9F, 0x98, 0x80]]

theorem readAll_delivers_as_one_read_cut :
    '\x1b' ∉ (Text.decodeRead [] cutStream.flatten).1 ∧
      (({} : Reads).readAll cutStream).flatten =
        [['a'], ['é'], ['\uFFFD'], ['('], ['\uFFFD'], ['\uFFFD'], ['A'], ['😀']] := by
  have noEscape : '\x1b' ∉ (Text.decodeRead [] cutStream.flatten).1 := by decide
  refine ⟨noEscape, (readAll_delivers_as_one_read _ noEscape).2.1.trans ?_⟩
  decide

private theorem modifierDigits_le_length (data : Text) : modifierDigits data ≤ data.length := by
  unfold modifierDigits
  split
  · next digit rest =>
      split
      · have digits := (List.takeWhile_prefix Unicode.isDigit (l := rest)).length_le
        simp only [List.length_cons]
        omega
      · exact Nat.zero_le _
  · exact Nat.zero_le _

private theorem length_le_of_mem_read {r : Reads} {bytes : List UInt8} {item : Text}
    (member : item ∈ (r.read bytes).1) :
    item.length ≤ r.unfinished.length + bytes.length := by
  have whole := flatten_splitInput (Text.decodeRead r.unfinished bytes).1
  have inside := (List.sublist_flatten_of_mem member).length_le
  have most := (Text.length_decodeLossyFrom_le 0 (r.unfinished ++ bytes)).1
  rw [List.length_append] at most
  rw [read_eq, whole] at inside
  exact Nat.le_trans inside most

/-- Reads of the usual size bring no number that is too long, so every item is read. -/
theorem parse_of_mem_readAll {r : Reads} (few : r.unfinished.length ≤ 3)
    {reads : List (List UInt8)} (short : ∀ bytes ∈ reads, bytes.length ≤ size) {item : Text}
    (member : item ∈ (r.readAll reads).flatten) :
    parse item = .ok (parse? item) := by
  induction reads generalizing r with
  | nil => cases member
  | cons bytes reads inductionHypothesis =>
      obtain ⟨first, rest⟩ := List.forall_mem_cons.mp short
      rw [readAll_cons, List.flatten_cons, List.mem_append] at member
      rcases member with here | later
      · have digits := modifierDigits_le_length item
        have length := length_le_of_mem_read here
        rw [size] at first
        rw [parse, if_neg]
        rw [maxDigits]
        omega
      · refine inductionHypothesis ?_ rest later
        exact (Text.length_decodeLossyFrom_le 0 (r.unfinished ++ bytes)).2

end Reads

end Keychart.Key
