import Keychart.Proofs.Search.Ranking
import Keychart.Proofs.Text.Trim

/-!
# Longer queries

A query keeps no keybind that it did not keep before characters were inserted
into it, wherever they stand.  White space that was trimmed away at an end of the
query may come to stand inside it; what was left of the query still occurs in
order in what is left of the longer one.
-/

namespace Keychart

namespace Text

open Unicode

private theorem trimStart_sublist {text longer : Text} (inserted : text.Sublist longer) :
    (trimStart text).Sublist (trimStart longer) := by
  induction inserted with
  | slnil => exact List.Sublist.refl _
  | @cons text longer c inserted inductionHypothesis =>
      cases blank : isBlank c with
      | true =>
          rw [trimStart_cons_of_isBlank blank]
          exact inductionHypothesis
      | false =>
          rw [trimStart_cons_of_not_isBlank blank]
          exact (List.dropWhile_sublist isBlank).trans (inserted.cons c)
  | @cons_cons text longer c inserted inductionHypothesis =>
      cases blank : isBlank c with
      | true =>
          rw [trimStart_cons_of_isBlank blank, trimStart_cons_of_isBlank blank]
          exact inductionHypothesis
      | false =>
          rw [trimStart_cons_of_not_isBlank blank, trimStart_cons_of_not_isBlank blank]
          exact inserted.cons_cons c

private theorem trimEnd_eq_reverse (text : Text) :
    trimEnd text = (trimStart text.reverse).reverse := rfl

private theorem trim_sublist {text longer : Text} (inserted : text.Sublist longer) :
    (trim text).Sublist (trim longer) := by
  rw [trim, trim, trimEnd_eq_reverse, trimEnd_eq_reverse, List.reverse_sublist]
  apply trimStart_sublist
  rw [List.reverse_sublist]
  exact trimStart_sublist inserted

end Text

namespace Search

open Unicode

/-- A field that a query matches was matched before characters were inserted. -/
theorem isSome_fuzzyMatch_of_sublist
    {query longer : Text} (inserted : query.Sublist longer) {field : Text}
    (matched : (fuzzyMatch longer field).isSome) :
    (fuzzyMatch query field).isSome := by
  rw [isSome_fuzzyMatch_iff_sublist] at matched ⊢
  exact (inserted.map fold).trans matched

/-- The empty text matches every field, so a blank query keeps by its trimmed text
like any other. -/
theorem mem_search_iff
    {query : Text} {keybinds : List Keybind} {index : Nat} {keybind : Keybind} :
    (∃ result ∈ search query keybinds,
        result.index = index ∧ result.keybind = keybind) ↔
      keybinds[index]? = some keybind ∧ MatchesField (Text.trim query) keybind := by
  by_cases blank : Text.trim query = []
  · have all : MatchesField (Text.trim query) keybind := by
      rw [blank]
      exact Or.inl rfl
    rw [search_of_blank blank]
    constructor
    · rintro ⟨result, member, rfl, rfl⟩
      obtain ⟨index, inside, rfl⟩ := List.mem_mapIdx.mp member
      exact ⟨List.getElem?_eq_getElem inside, all⟩
    · rintro ⟨place, -⟩
      obtain ⟨inside, rfl⟩ := List.getElem?_eq_some_iff.mp place
      exact ⟨_, List.mem_mapIdx.mpr ⟨index, inside, rfl⟩, rfl, rfl⟩
  · rw [← exists_mem_resultsFrom_iff blank, search_of_not_blank blank]
    simp only [(perm_rank _).mem_iff]

/-- A result gives positions for exactly the fields that the query matches. -/
theorem isSome_positions_of_mem_search
    {query : Text} (asked : Text.trim query ≠ []) {keybinds : List Keybind}
    {result : SearchResult} (member : result ∈ search query keybinds) :
    (result.keyPositions.isSome ↔
        (fuzzyMatch (Text.trim query) result.keybind.keys).isSome) ∧
      (result.descriptionPositions.isSome ↔
        (fuzzyMatch (Text.trim query) result.keybind.description).isSome) := by
  rw [search_of_not_blank asked, (perm_rank _).mem_iff] at member
  obtain ⟨index, keybind, -, kept⟩ := mem_resultsFrom_iff.mp member
  obtain ⟨-, -, rates⟩ := rates_of_resultFor asked kept
  rw [rates.keyPositions, rates.descriptionPositions, Option.isSome_map,
    Option.isSome_map]
  exact ⟨Iff.rfl, Iff.rfl⟩

end Search

open Search

/-- Characters inserted into a query, anywhere, take away results and add none.  A
field with positions for the longer query had positions for the shorter one, unless
that was blank and kept everything as it is. -/
theorem search_narrows
    {query longer : Text} (inserted : query.Sublist longer)
    (keybinds : List Keybind) :
    (∀ index ∈ (search longer keybinds).map SearchResult.index,
      index ∈ (search query keybinds).map SearchResult.index) ∧
    ∀ narrow ∈ search longer keybinds,
      ∃ wide ∈ search query keybinds,
        wide.index = narrow.index ∧ wide.keybind = narrow.keybind ∧
        (Text.trim query ≠ [] →
          (narrow.keyPositions.isSome → wide.keyPositions.isSome) ∧
          (narrow.descriptionPositions.isSome → wide.descriptionPositions.isSome)) := by
  have trimmed := Text.trim_sublist inserted
  have each : ∀ narrow ∈ search longer keybinds,
      ∃ wide ∈ search query keybinds,
        wide.index = narrow.index ∧ wide.keybind = narrow.keybind := by
    intro narrow member
    obtain ⟨place, matched⟩ := mem_search_iff.mp ⟨narrow, member, rfl, rfl⟩
    have before : MatchesField (Text.trim query) narrow.keybind :=
      matched.imp (isSome_fuzzyMatch_of_sublist trimmed)
        (isSome_fuzzyMatch_of_sublist trimmed)
    exact mem_search_iff.mpr ⟨place, before⟩
  constructor
  · intro index member
    obtain ⟨narrow, narrowMember, rfl⟩ := List.mem_map.mp member
    obtain ⟨wide, wideMember, sameIndex, -⟩ := each narrow narrowMember
    exact List.mem_map.mpr ⟨wide, wideMember, sameIndex⟩
  · intro narrow member
    obtain ⟨wide, wideMember, sameIndex, sameKeybind⟩ := each narrow member
    refine ⟨wide, wideMember, sameIndex, sameKeybind, fun asked => ?_⟩
    have askedLonger : Text.trim longer ≠ [] := by
      intro blank
      rw [blank] at trimmed
      exact asked (List.sublist_nil.mp trimmed)
    obtain ⟨wideKeys, wideDescription⟩ :=
      isSome_positions_of_mem_search asked wideMember
    obtain ⟨narrowKeys, narrowDescription⟩ :=
      isSome_positions_of_mem_search askedLonger member
    rw [wideKeys, wideDescription, narrowKeys, narrowDescription, sameKeybind]
    exact ⟨isSome_fuzzyMatch_of_sublist trimmed, isSome_fuzzyMatch_of_sublist trimmed⟩

def closingKeybinds : List Keybind :=
  [{ keys := Text.ofString "M-c", description := Text.ofString "kill" },
   { keys := Text.ofString "M-S-k", description := Text.ofString "kill window" }]

/-- The space behind a query is trimmed away until a character follows it. -/
theorem search_narrows_behind_space :
    (Text.ofString "k ").Sublist (Text.ofString "k w") ∧
      1 ∈ (search (Text.ofString "k w") closingKeybinds).map SearchResult.index ∧
      1 ∈ (search (Text.ofString "k ") closingKeybinds).map SearchResult.index := by
  have inserted : (Text.ofString "k ").Sublist (Text.ofString "k w") := by decide
  have matched :
      MatchesField (Text.trim (Text.ofString "k w"))
        { keys := Text.ofString "M-S-k", description := Text.ofString "kill window" } := by
    right
    decide
  obtain ⟨result, member, place, -⟩ :=
    (@mem_search_iff _ closingKeybinds 1 _).mpr ⟨rfl, matched⟩
  have narrow := List.mem_map.mpr ⟨result, member, place⟩
  exact ⟨inserted, narrow, (search_narrows inserted closingKeybinds).1 1 narrow⟩

end Keychart
