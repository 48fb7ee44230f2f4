import Keychart.Proofs.Search.Matching
import Keychart.Search.Rank
import Mathlib.Order.Bounds.Basic

/-!
# What a search keeps, and in which order

A query that is not blank keeps the places of the keybinds that it matches in
their keys or their description, each once.  They stand in the order of their
scores, and results of one score in the order of their places.

The sort is stable: what has one score is neither lost nor moved, so the order
of the places in the unsorted results decides between equals.
-/

namespace Keychart

namespace Search

def MatchesField (query : Text) (keybind : Keybind) : Prop :=
  (fuzzyMatch query keybind.keys).isSome ∨
    (fuzzyMatch query keybind.description).isSome

def scoreIn? (query field : Text) : Option Score :=
  (fuzzyMatch query field).bind Match.score

def fieldScores (query : Text) (keybind : Keybind) : Set Int :=
  { units | ∃ score,
      (scoreIn? query keybind.keys = some score ∨
        scoreIn? query keybind.description = some score) ∧
      score.units = units }

/-- What a result says of its keybind: the greatest score of a matching field,
and the positions in each field that matches. -/
structure Rates (query : Text) (result : SearchResult) : Prop where
  score : ∃ score, result.score = some score ∧
    IsGreatest (fieldScores query result.keybind) score.units
  keyPositions :
    result.keyPositions =
      (fuzzyMatch query result.keybind.keys).map Match.positions
  descriptionPositions :
    result.descriptionPositions =
      (fuzzyMatch query result.keybind.description).map Match.positions

theorem scoreIn?_eq_none_iff
    {query : Text} (nonempty : query ≠ []) (field : Text) :
    scoreIn? query field = none ↔ fuzzyMatch query field = none := by
  rw [scoreIn?, fuzzyMatch_eq_map field nonempty]
  cases bestAlignment? query field with
  | none => simp
  | some best => simp

theorem betterScore_eq_none_iff {a b : Option Score} :
    betterScore a b = none ↔ a = none ∧ b = none := by
  cases a with
  | none => simp [betterScore]
  | some a =>
      cases b with
      | none => simp [betterScore]
      | some b => simp [betterScore]

private theorem isGreatest_betterScore
    {a b : Option Score} {best : Score} (found : betterScore a b = some best) :
    IsGreatest { units | ∃ score, (a = some score ∨ b = some score) ∧
      score.units = units } best.units := by
  cases a with
  | none =>
      have single : b = some best := found
      constructor
      · exact ⟨best, Or.inr single, rfl⟩
      · rintro units ⟨score, absent | given, rfl⟩
        · cases absent
        · rw [single] at given
          cases given
          exact le_rfl
  | some a =>
      cases b with
      | none =>
          have single : some a = some best := found
          constructor
          · exact ⟨best, Or.inl single, rfl⟩
          · rintro units ⟨score, given | absent, rfl⟩
            · rw [single] at given
              cases given
              exact le_rfl
            · cases absent
      | some b =>
          have greater : Score.max a b = best := Option.some.inj found
          rw [Score.max] at greater
          by_cases less : a.units < b.units
          · rw [if_pos less] at greater
            subst greater
            constructor
            · exact ⟨b, Or.inr rfl, rfl⟩
            · rintro units ⟨score, given | given, rfl⟩
              · cases given
                exact less.le
              · cases given
                exact le_rfl
          · rw [if_neg less] at greater
            subst greater
            constructor
            · exact ⟨a, Or.inl rfl, rfl⟩
            · rintro units ⟨score, given | given, rfl⟩
              · cases given
                exact le_rfl
              · cases given
                exact not_lt.mp less

theorem matchesField_iff {query : Text} {keybind : Keybind} :
    MatchesField query keybind ↔
      ¬ ((fuzzyMatch query keybind.keys).isNone &&
        (fuzzyMatch query keybind.description).isNone) = true := by
  rw [MatchesField]
  cases fuzzyMatch query keybind.keys with
  | none => cases fuzzyMatch query keybind.description <;> simp
  | some m => simp

theorem isSome_resultFor_iff
    {query : Text} {index : Nat} {keybind : Keybind} :
    (resultFor query index keybind).isSome ↔ MatchesField query keybind := by
  rw [matchesField_iff, resultFor]
  split
  · next neither => simp [neither]
  · next some => simp [some]

/-- A result stands for its own keybind, and rates it. -/
theorem rates_of_resultFor
    {query : Text} (nonempty : query ≠ []) {index : Nat} {keybind : Keybind}
    {result : SearchResult} (kept : resultFor query index keybind = some result) :
    result.index = index ∧ result.keybind = keybind ∧ Rates query result := by
  have matched : MatchesField query keybind :=
    isSome_resultFor_iff.mp (Option.isSome_of_eq_some kept)
  have scored :
      betterScore (scoreIn? query keybind.keys)
        (scoreIn? query keybind.description) ≠ none := by
    rw [Ne, betterScore_eq_none_iff, scoreIn?_eq_none_iff nonempty,
      scoreIn?_eq_none_iff nonempty]
    rintro ⟨noKeys, noDescription⟩
    rw [MatchesField, noKeys, noDescription] at matched
    simp at matched
  obtain ⟨best, found⟩ := Option.ne_none_iff_exists'.mp scored
  rw [resultFor, if_neg (matchesField_iff.mp matched)] at kept
  cases kept
  refine ⟨rfl, rfl, ⟨⟨best, found, ?_⟩, rfl, rfl⟩⟩
  exact isGreatest_betterScore found

private theorem resultsFrom_eq_filterMap
    (query : Text) (index : Nat) (keybinds : List Keybind) :
    resultsFrom query index keybinds =
      (keybinds.zipIdx index).filterMap fun entry =>
        resultFor query entry.2 entry.1 := by
  induction keybinds generalizing index with
  | nil => rfl
  | cons keybind keybinds inductionHypothesis =>
      rw [resultsFrom, List.zipIdx_cons, List.filterMap_cons,
        inductionHypothesis (index + 1)]
      cases resultFor query index keybind with
      | none => rfl
      | some result => rfl

private theorem unranked_eq_map (index : Nat) (keybinds : List Keybind) :
    unranked index keybinds =
      (keybinds.zipIdx index).map fun entry =>
        { index := entry.2, keybind := entry.1 } := by
  induction keybinds generalizing index with
  | nil => rfl
  | cons keybind keybinds inductionHypothesis =>
      rw [unranked, List.zipIdx_cons, List.map_cons,
        inductionHypothesis (index + 1)]

theorem mem_resultsFrom_iff
    {query : Text} {keybinds : List Keybind} {result : SearchResult} :
    result ∈ resultsFrom query 0 keybinds ↔
      ∃ index keybind, keybinds[index]? = some keybind ∧
        resultFor query index keybind = some result := by
  rw [resultsFrom_eq_filterMap, List.mem_filterMap]
  constructor
  · rintro ⟨⟨keybind, index⟩, member, kept⟩
    exact ⟨index, keybind, List.mk_mem_zipIdx_iff_getElem?.mp member, kept⟩
  · rintro ⟨index, keybind, place, kept⟩
    exact ⟨(keybind, index), List.mk_mem_zipIdx_iff_getElem?.mpr place, kept⟩

/-- Results are found for the keybinds that match, each at its place. -/
theorem exists_mem_resultsFrom_iff
    {query : Text} (nonempty : query ≠ []) {keybinds : List Keybind} {index : Nat}
    {keybind : Keybind} :
    (∃ result ∈ resultsFrom query 0 keybinds,
        result.index = index ∧ result.keybind = keybind) ↔
      keybinds[index]? = some keybind ∧ MatchesField query keybind := by
  constructor
  · rintro ⟨result, member, rfl, rfl⟩
    obtain ⟨index, keybind, place, kept⟩ := mem_resultsFrom_iff.mp member
    obtain ⟨sameIndex, sameKeybind, -⟩ := rates_of_resultFor nonempty kept
    rw [sameIndex, sameKeybind]
    exact ⟨place, isSome_resultFor_iff.mp (Option.isSome_of_eq_some kept)⟩
  · rintro ⟨place, matched⟩
    have found : (resultFor query index keybind).isSome :=
      isSome_resultFor_iff.mpr matched
    obtain ⟨result, kept⟩ := Option.isSome_iff_exists.mp found
    obtain ⟨sameIndex, sameKeybind, -⟩ := rates_of_resultFor nonempty kept
    have member := mem_resultsFrom_iff.mpr ⟨index, keybind, place, kept⟩
    exact ⟨result, member, sameIndex, sameKeybind⟩

/-- The places of the results are those of the keybinds that match. -/
theorem mem_index_resultsFrom_iff
    {query : Text} (nonempty : query ≠ []) {keybinds : List Keybind} {index : Nat} :
    index ∈ (resultsFrom query 0 keybinds).map SearchResult.index ↔
      ∃ keybind, keybinds[index]? = some keybind ∧ MatchesField query keybind := by
  simp only [← exists_mem_resultsFrom_iff nonempty, List.mem_map]
  constructor
  · rintro ⟨result, member, same⟩
    exact ⟨result.keybind, result, member, same, rfl⟩
  · rintro ⟨keybind, result, member, same, -⟩
    exact ⟨result, member, same⟩

/-- Results are found in the order of their places. -/
theorem pairwise_index_resultsFrom
    {query : Text} (nonempty : query ≠ []) (keybinds : List Keybind) :
    (resultsFrom query 0 keybinds).Pairwise fun a b => a.index < b.index := by
  have places :
      (keybinds.zipIdx 0).Pairwise fun a b => a.2 < b.2 := by
    have increasing : ((keybinds.zipIdx 0).map Prod.snd).Pairwise (· < ·) := by
      rw [List.zipIdx_map_snd]
      exact List.pairwise_lt_range' 1
    exact List.pairwise_map.mp increasing
  rw [resultsFrom_eq_filterMap]
  apply places.filterMap
  intro a b before first keptFirst second keptSecond
  rw [(rates_of_resultFor nonempty keptFirst).1,
    (rates_of_resultFor nonempty keptSecond).1]
  exact before

/-- Whether one result comes in front of another: by a greater score, or by its
place where the scores are equal. -/
def RanksBefore (a b : SearchResult) : Prop :=
  rankUnits b < rankUnits a ∨ rankUnits a = rankUnits b ∧ a.index < b.index

theorem key_le_trans (key : SearchResult → Int) (a b c : SearchResult)
    (first : decide (key b ≤ key a) = true)
    (second : decide (key c ≤ key b) = true) :
    decide (key c ≤ key a) = true := by
  rw [decide_eq_true_eq] at first second ⊢
  exact second.trans first

theorem key_le_total (key : SearchResult → Int) (a b : SearchResult) :
    (decide (key b ≤ key a) || decide (key a ≤ key b)) = true := by
  rw [Bool.or_eq_true, decide_eq_true_eq, decide_eq_true_eq]
  exact le_total _ _

theorem perm_rank (results : List SearchResult) : (rank results).Perm results :=
  List.mergeSort_perm results _

/-- Results sorted by a key stand in its order, the greatest first. -/
theorem pairwise_mergeSort_key
    (key : SearchResult → Int) (results : List SearchResult) :
    (results.mergeSort fun a b => key b ≤ key a).Pairwise
      fun a b => key b ≤ key a := by
  have sorted :=
    List.pairwise_mergeSort (key_le_trans key) (key_le_total key) results
  apply sorted.imp
  intro a b ordered
  exact of_decide_eq_true ordered

theorem pairwise_rankUnits_rank (results : List SearchResult) :
    (rank results).Pairwise fun a b => rankUnits b ≤ rankUnits a :=
  pairwise_mergeSort_key rankUnits results

/-- The results of one score are the same ones in the same order, sorted or not. -/
theorem filter_rank (results : List SearchResult) (units : Int) :
    (rank results).filter (fun r => rankUnits r = units) =
      results.filter fun r => rankUnits r = units := by
  have alike :
      (results.filter fun r => rankUnits r = units).Pairwise
        fun a b => decide (rankUnits b ≤ rankUnits a) = true := by
    apply List.pairwise_of_forall_mem_list
    intro a memberA b memberB
    have unitsA := of_decide_eq_true (List.mem_filter.mp memberA).2
    have unitsB := of_decide_eq_true (List.mem_filter.mp memberB).2
    rw [decide_eq_true_eq, unitsA, unitsB]
  have kept :
      (results.filter fun r => rankUnits r = units).Sublist (rank results) :=
    List.sublist_mergeSort (key_le_trans rankUnits) (key_le_total rankUnits) alike
      List.filter_sublist
  have within := kept.filter fun r => decide (rankUnits r = units)
  simp only [List.filter_filter, Bool.and_self] at within
  have sameLength :=
    ((perm_rank results).filter
      fun r => decide (rankUnits r = units)).length_eq
  exact (within.eq_of_length sameLength.symm).symm

/-- Sorted, results that stood in the order of their places stand in the order of
their scores, and equal scores in that of their places. -/
theorem pairwise_rank
    {results : List SearchResult}
    (places : results.Pairwise fun a b => a.index < b.index) :
    (rank results).Pairwise RanksBefore := by
  apply List.pairwise_iff_forall_sublist.mpr
  intro a b inOrder
  have notLess : rankUnits b ≤ rankUnits a :=
    List.pairwise_iff_forall_sublist.mp (pairwise_rankUnits_rank results) inOrder
  rcases notLess.lt_or_eq with less | same
  · exact Or.inl less
  · right
    have unsorted : [a, b].Sublist results := by
      have equals := inOrder.filter fun r => decide (rankUnits r = rankUnits a)
      rw [filter_rank] at equals
      simp only [same, List.filter_cons, decide_true, if_true,
        List.filter_nil] at equals
      exact equals.trans List.filter_sublist
    exact ⟨same.symm, List.pairwise_iff_forall_sublist.mp places unsorted⟩

end Search

/-! ## Searching -/

open Search

theorem search_of_blank
    {query : Text} (blank : Text.trim query = []) (keybinds : List Keybind) :
    search query keybinds =
      keybinds.mapIdx fun index keybind =>
        { index := index, keybind := keybind } := by
  rw [search, blank, List.mapIdx_eq_zipIdx_map]
  exact unranked_eq_map 0 keybinds

theorem search_of_not_blank
    {query : Text} (asked : Text.trim query ≠ []) (keybinds : List Keybind) :
    search query keybinds =
      rank (resultsFrom (Text.trim query) 0 keybinds) := by
  rw [search]
  split
  · next blank => exact absurd blank asked
  · rfl

/-- A query that is not blank keeps the places of the keybinds that its trimmed
text matches in a field, each once, best first; a blank one keeps all keybinds as
they are, without score and positions. -/
theorem search_ranks_matching (query : Text) (keybinds : List Keybind) :
    (Text.trim query ≠ [] →
      ((search query keybinds).map SearchResult.index).Nodup ∧
      (∀ index, index ∈ (search query keybinds).map SearchResult.index ↔
        ∃ keybind, keybinds[index]? = some keybind ∧
          MatchesField (Text.trim query) keybind) ∧
      (∀ result ∈ search query keybinds,
        keybinds[result.index]? = some result.keybind ∧
          Rates (Text.trim query) result) ∧
      (search query keybinds).Pairwise RanksBefore) ∧
    (Text.trim query = [] →
      search query keybinds =
        keybinds.mapIdx (fun index keybind =>
          { index := index, keybind := keybind, score := none,
            keyPositions := none, descriptionPositions := none }) ∧
      ∀ result ∈ search query keybinds, rankUnits result = 0) := by
  constructor
  · intro asked
    rw [search_of_not_blank asked]
    have places := pairwise_index_resultsFrom asked keybinds
    have same := perm_rank (resultsFrom (Text.trim query) 0 keybinds)
    refine ⟨?_, ?_, ?_, pairwise_rank places⟩
    · rw [(same.map SearchResult.index).nodup_iff]
      exact List.pairwise_map.mpr (places.imp fun less => Nat.ne_of_lt less)
    · intro index
      rw [(same.map SearchResult.index).mem_iff]
      exact mem_index_resultsFrom_iff asked
    · intro result member
      obtain ⟨index, keybind, place, kept⟩ :=
        mem_resultsFrom_iff.mp (same.mem_iff.mp member)
      obtain ⟨ownIndex, ownKeybind, rates⟩ := rates_of_resultFor asked kept
      rw [ownIndex, ownKeybind]
      exact ⟨place, rates⟩
  · intro blank
    rw [search_of_blank blank]
    refine ⟨rfl, ?_⟩
    intro result member
    obtain ⟨index, _, rfl⟩ := List.mem_mapIdx.mp member
    rfl

/-- Two keybinds that a query matches alike, and one between them that it does not
match. -/
def killKeybinds : List Keybind :=
  [{ keys := Text.ofString "M-c", description := Text.ofString "kill" },
   { keys := Text.ofString "M-x", description := Text.ofString "exit" },
   { keys := Text.ofString "M-d", description := Text.ofString "kill" }]

theorem search_ranks_matching_kill :
    Text.trim (Text.ofString " Kil") ≠ [] ∧
      2 ∈ (search (Text.ofString " Kil") killKeybinds).map SearchResult.index ∧
      (search (Text.ofString " Kil") killKeybinds).Pairwise RanksBefore ∧
      Text.trim (Text.ofString " \t") = [] ∧
      ∀ result ∈ search (Text.ofString " \t") killKeybinds, rankUnits result = 0 := by
  have asked : Text.trim (Text.ofString " Kil") ≠ [] := by
    decide
  have blank : Text.trim (Text.ofString " \t") = [] := by
    decide
  have matched :
      (fuzzyMatch (Text.trim (Text.ofString " Kil")) (Text.ofString "kill")).isSome := by
    decide
  obtain ⟨-, places, -, ranked⟩ :=
    (search_ranks_matching (Text.ofString " Kil") killKeybinds).1 asked
  have plain := (search_ranks_matching (Text.ofString " \t") killKeybinds).2 blank
  exact ⟨asked, (places 2).mpr ⟨_, rfl, Or.inr matched⟩, ranked, blank, plain.2⟩

end Keychart
