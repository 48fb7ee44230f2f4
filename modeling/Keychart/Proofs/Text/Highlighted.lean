import Keychart.Text.Highlight
import Mathlib.Data.List.Chain

/-!
# Highlighted characters

A highlighted text is a sequence of parts, each in the highlight style or not.
The characters in that style are those at the positions.

The characters are taken with the places that they come from, so that what is
highlighted can be compared with another text than the one that is shown.  The
parts are as long as can be: those in the style and those without it take turns.
-/

namespace Keychart.Text

section Positions

variable {α : Type}

theorem filterMap_getElem?_cons
    {positions : List Nat} {first : Nat} (item : α) (items : List α)
    (behind : ∀ p ∈ positions, first < p) :
    positions.filterMap (fun p => (item :: items)[p - first]?) =
      positions.filterMap fun p => items[p - (first + 1)]? := by
  apply List.filterMap_congr
  intro p member
  have later := behind p member
  have step : p - first = p - (first + 1) + 1 := by
    omega
  rw [step, List.getElem?_cons_succ]

/-- Picking by increasing positions is keeping what stands at one of them. -/
theorem filterMap_getElem?_eq_filter
    {marked : Nat → Bool} {positions : List Nat} {first : Nat}
    (items : List α) (increasing : positions.Pairwise (· < ·))
    (chosen : ∀ i, first ≤ i → (marked i = true ↔ i ∈ positions))
    (behind : ∀ p ∈ positions, first ≤ p) :
    positions.filterMap (fun p => items[p - first]?) =
      ((items.zipIdx first).filter fun entry => marked entry.2).map Prod.fst := by
  induction items generalizing first positions with
  | nil => simp
  | cons item items inductionHypothesis =>
      rw [List.zipIdx_cons]
      by_cases here : first ∈ positions
      · -- Increasing positions meet the first item with their own first.
        obtain ⟨p, rest, rfl⟩ := List.exists_cons_of_ne_nil (List.ne_nil_of_mem here)
        obtain ⟨after, increasingRest⟩ := List.pairwise_cons.mp increasing
        obtain rfl : p = first := by
          rcases List.mem_cons.mp here with same | later
          · exact same.symm
          · have less := after first later
            have least := behind p (List.mem_cons_self)
            omega
        have chosenRest : ∀ i, p + 1 ≤ i → (marked i = true ↔ i ∈ rest) := by
          intro i less
          rw [chosen i (by omega), List.mem_cons, or_iff_right (by omega)]
        have yes : marked p = true := (chosen p (Nat.le_refl p)).mpr here
        have picked : (item :: items)[p - p]? = some item := by
          rw [Nat.sub_self]
          rfl
        rw [List.filterMap_cons, picked, List.filter_cons, if_pos yes, List.map_cons,
          filterMap_getElem?_cons item items after,
          inductionHypothesis increasingRest chosenRest after]
      · have later : ∀ p ∈ positions, first < p := by
          intro p member
          have least := behind p member
          have other : p ≠ first := by
            intro same
            rw [same] at member
            exact here member
          omega
        have no : ¬ marked first = true := by
          rw [chosen first (Nat.le_refl first)]
          exact here
        have chosenRest : ∀ i, first + 1 ≤ i → (marked i = true ↔ i ∈ positions) := by
          intro i less
          exact chosen i (by omega)
        rw [filterMap_getElem?_cons item items later,
          inductionHypothesis increasing chosenRest later, List.filter_cons, if_neg no]

/-- Two ways of picking by the same positions give one list exactly if they agree
at each position, where the second finds something everywhere. -/
theorem filterMap_eq_filterMap_iff
    {f g : Nat → Option α} {positions : List Nat}
    (found : ∀ p ∈ positions, (g p).isSome) :
    positions.filterMap f = positions.filterMap g ↔ ∀ p ∈ positions, f p = g p := by
  constructor
  · intro same
    induction positions with
    | nil => simp
    | cons p positions inductionHypothesis =>
        obtain ⟨here, later⟩ := List.forall_mem_cons.mp found
        obtain ⟨y, picked⟩ := Option.isSome_iff_exists.mp here
        rw [List.filterMap_cons_some picked] at same
        cases tried : f p with
        | none =>
            -- Then the first list is too short.
            rw [List.filterMap_cons_none tried] at same
            have lengths := congrArg List.length same
            rw [List.length_cons, List.filterMap_length_eq_length.mpr later] at lengths
            have atMost := List.length_filterMap_le f positions
            omega
        | some x =>
            rw [List.filterMap_cons_some tried] at same
            obtain ⟨rfl, rest⟩ := List.cons.inj same
            rw [List.forall_mem_cons]
            exact ⟨tried.trans picked.symm, inductionHypothesis later rest⟩
  · exact List.filterMap_congr

end Positions

/-- A part of a shown text, in the highlight style or not: its characters with the
places that they come from. -/
structure Part where
  highlighted : Bool
  characters : List (Char × Nat)
deriving DecidableEq, Repr

namespace Part

def shown (part : Part) : Text := part.characters.map Prod.fst

def draw (mark : Text → Text) (part : Part) : Text :=
  if part.highlighted then mark part.shown else part.shown

def marked (parts : List Part) : List (Char × Nat) :=
  (parts.filter highlighted).flatMap characters

theorem marked_cons (part : Part) (parts : List Part) :
    marked (part :: parts) =
      (if part.highlighted then part.characters else []) ++ marked parts := by
  rw [marked, List.filter_cons]
  split
  · rw [List.flatMap_cons]
    rfl
  · rfl

end Part

/-- The runs of a text with places are parts of it, and the highlighted ones hold
what stands at the marked positions. -/
theorem exists_parts_of_runs
    (chosen : Nat → Bool) (first : Nat) (placed : List (Char × Nat)) :
    ∃ parts : List Part,
      runs chosen first (placed.map Prod.fst) =
        parts.map (fun part => (part.highlighted, part.shown)) ∧
      parts.flatMap Part.characters = placed ∧
      Part.marked parts =
        ((placed.zipIdx first).filter fun entry => chosen entry.2).map Prod.fst := by
  induction placed generalizing first with
  | nil => exact ⟨[], rfl, rfl, rfl⟩
  | cons entry placed inductionHypothesis =>
      obtain ⟨parts, drawn, rfl, picked⟩ := inductionHypothesis (first + 1)
      have added :
          (((entry :: parts.flatMap Part.characters).zipIdx first).filter
              fun entry => chosen entry.2).map Prod.fst =
            (if chosen first then [entry] else []) ++ Part.marked parts := by
        rw [List.zipIdx_cons, List.filter_cons, picked]
        split
        · rfl
        · rfl
      rw [added, List.map_cons, runs, drawn]
      cases parts with
      | nil =>
          refine ⟨[⟨chosen first, [entry]⟩], rfl, rfl, ?_⟩
          exact Part.marked_cons _ _
      | cons part parts =>
          by_cases same : part.highlighted = chosen first
          · refine ⟨⟨part.highlighted, entry :: part.characters⟩ :: parts, ?_, rfl, ?_⟩
            · exact if_pos same
            · rw [Part.marked_cons, Part.marked_cons, ← same]
              dsimp only
              split
              · rfl
              · rfl
          · refine ⟨⟨chosen first, [entry]⟩ :: part :: parts, ?_, rfl, ?_⟩
            · exact if_neg same
            · exact Part.marked_cons _ _

/-- A highlighted text is drawn from parts, and the highlighted ones hold what
stands at the positions. -/
theorem exists_parts_of_highlight
    {positions : List Nat} (increasing : positions.Pairwise (· < ·))
    (placed : List (Char × Nat)) :
    ∃ parts : List Part,
      (∀ base mark : Text → Text,
        highlight base mark positions (placed.map Prod.fst) =
          base (parts.flatMap (Part.draw mark))) ∧
      parts.flatMap Part.characters = placed ∧
      Part.marked parts = positions.filterMap fun p => placed[p]? := by
  cases positions with
  | nil =>
      refine ⟨[⟨false, placed⟩], ?_, ?_, rfl⟩
      · intro base mark
        rw [List.flatMap_singleton]
        rfl
      · rw [List.flatMap_singleton]
  | cons p rest =>
      obtain ⟨parts, drawn, whole, picked⟩ :=
        exists_parts_of_runs (fun i => (p :: rest).contains i) 0 placed
      have chosen : ∀ i, 0 ≤ i →
          ((p :: rest).contains i = true ↔ i ∈ p :: rest) := by
        intro i _
        exact List.contains_iff_mem
      refine ⟨parts, ?_, whole, ?_⟩
      · intro base mark
        rw [highlight, drawn, List.flatMap_map]
        · rfl
        · exact List.cons_ne_nil p rest
      · rw [picked, ← filterMap_getElem?_eq_filter placed increasing chosen
          fun p _ => Nat.zero_le p]
        rfl

/-! ## Segments that take turns -/

/-- Whether segments, each marked or not, spell a text, none of them empty and marked
and unmarked ones by turns. -/
structure TakeTurns (text : Text) (segments : List (Bool × Text)) : Prop where
  spelled : segments.flatMap Prod.snd = text
  nonempty : ∀ segment ∈ segments, segment.2 ≠ []
  alternate : segments.IsChain fun segment next => segment.1 ≠ next.1

/-- For each character of the segments whether it lies in a marked one. -/
def flags (segments : List (Bool × Text)) : List Bool :=
  segments.flatMap fun segment => List.replicate segment.2.length segment.1

def drawSegments (mark : Text → Text) (segments : List (Bool × Text)) : Text :=
  segments.flatMap fun segment => if segment.1 then mark segment.2 else segment.2

section Runs

variable (marked : Nat → Bool)

theorem runs_takeTurns (first : Nat) (text : Text) :
    TakeTurns text (runs marked first text) := by
  induction text generalizing first with
  | nil => exact ⟨rfl, fun _ member => absurd member List.not_mem_nil, List.IsChain.nil⟩
  | cons c text inductionHypothesis =>
      obtain ⟨spelled, nonempty, alternate⟩ := inductionHypothesis (first + 1)
      rw [runs]
      cases rest : runs marked (first + 1) text with
      | nil =>
          rw [rest] at spelled
          refine ⟨congrArg (c :: ·) spelled, ?_, List.isChain_singleton _⟩
          exact List.forall_mem_singleton.mpr (List.cons_ne_nil c [])
      | cons run rest =>
          obtain ⟨flag, run⟩ := run
          simp only [rest] at spelled nonempty alternate
          obtain ⟨-, nonemptyRest⟩ := List.forall_mem_cons.mp nonempty
          dsimp only
          split
          · refine ⟨congrArg (c :: ·) spelled, ?_, ?_⟩
            · exact List.forall_mem_cons.mpr ⟨List.cons_ne_nil c run, nonemptyRest⟩
            · rw [List.isChain_cons] at alternate ⊢
              exact alternate
          · next different =>
              refine ⟨congrArg (c :: ·) spelled, ?_, ?_⟩
              · exact List.forall_mem_cons.mpr ⟨List.cons_ne_nil c [], nonempty⟩
              · exact List.isChain_cons_cons.mpr ⟨Ne.symm different, alternate⟩

private theorem flags_runs (first : Nat) (text : Text) :
    flags (runs marked first text) = (List.range' first text.length).map marked := by
  induction text generalizing first with
  | nil => rfl
  | cons c text inductionHypothesis =>
      have behind := inductionHypothesis (first + 1)
      rw [List.length_cons, List.range'_succ, List.map_cons, ← behind, runs]
      cases runs marked (first + 1) text with
      | nil => rfl
      | cons run rest =>
          dsimp only
          split
          · next same =>
              rw [← same]
              rfl
          · rfl

/-- A character lies in a marked run exactly if its place is marked. -/
theorem getElem?_flags_runs {text : Text} {i : Nat} (within : i < text.length) :
    (flags (runs marked 0 text))[i]? = some (marked i) := by
  rw [flags_runs, List.getElem?_map, List.getElem?_range' within]
  simp

end Runs

/-- A text without marked places is one run. -/
theorem runs_of_none {text : Text} (nonempty : text ≠ []) (first : Nat) :
    runs (fun _ => false) first text = [(false, text)] := by
  induction text generalizing first with
  | nil => exact absurd rfl nonempty
  | cons c text inductionHypothesis =>
      rw [runs]
      by_cases last : text = []
      · subst last
        rfl
      · rw [inductionHypothesis last]
        rfl

/-- Without positions the whole text is one run, which is not marked. -/
theorem highlight_eq_drawSegments (base mark : Text → Text) (positions : List Nat) (text : Text) :
    highlight base mark positions text =
      base (drawSegments mark (runs (fun i => positions.contains i) 0 text)) := by
  cases positions with
  | cons p rest => rfl
  | nil =>
      by_cases empty : text = []
      · subst empty
        rfl
      · have whole : runs (fun i => [].contains i) 0 text = [(false, text)] :=
          runs_of_none empty 0
        rw [whole, drawSegments, List.flatMap_singleton]
        rfl

/-- The whole numbers that can be places of a text. -/
def places (positions : List Int) : List Nat :=
  (positions.filter fun p => 0 ≤ p).map Int.toNat

theorem contains_places_iff {positions : List Int} {i : Nat} :
    (places positions).contains i = true ↔ (i : Int) ∈ positions := by
  rw [List.contains_iff_mem, places, List.mem_map]
  constructor
  · intro found
    obtain ⟨p, member, same⟩ := found
    obtain ⟨inside, natural⟩ := List.mem_filter.mp member
    rwa [← same, Int.toNat_of_nonneg (of_decide_eq_true natural)]
  · intro member
    refine ⟨i, List.mem_filter.mpr ⟨member, ?_⟩, Int.toNat_natCast i⟩
    exact decide_eq_true (Int.natCast_nonneg i)

/-- A text is highlighted segment by segment: they spell it, marked and unmarked ones take
turns, and a character lies in a marked one exactly if its place is one of the positions.
The positions may stand in any order, be repeated, and be out of range, also below
nought. -/
theorem highlighted_segments_take_turns (text : Text) :
    (∀ positions : List Nat, ∃ segments : List (Bool × Text),
      (∀ base mark, highlight base mark positions text = base (drawSegments mark segments)) ∧
        TakeTurns text segments ∧
        ∀ i < text.length, (flags segments)[i]? = some true ↔ i ∈ positions) ∧
      ∀ positions : List Int, ∃ segments : List (Bool × Text),
        (∀ base mark,
          highlight base mark (places positions) text = base (drawSegments mark segments)) ∧
          TakeTurns text segments ∧
          ∀ i < text.length, (flags segments)[i]? = some true ↔ (i : Int) ∈ positions := by
  have each (positions : List Nat) : ∃ segments : List (Bool × Text),
      (∀ base mark, highlight base mark positions text = base (drawSegments mark segments)) ∧
        TakeTurns text segments ∧
        ∀ i < text.length, (flags segments)[i]? = some true ↔ positions.contains i = true := by
    refine ⟨runs (fun i => positions.contains i) 0 text, ?_, runs_takeTurns _ 0 text, ?_⟩
    · intro base mark
      exact highlight_eq_drawSegments base mark positions text
    · intro i within
      rw [getElem?_flags_runs _ within, Option.some.injEq]
  refine ⟨fun positions => ?_, fun positions => ?_⟩
  · simpa only [List.contains_iff_mem] using each positions
  · simpa only [contains_places_iff] using each (places positions)

end Keychart.Text
