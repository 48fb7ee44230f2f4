import Keychart.Proofs.Number.Rounded
import Keychart.Proofs.Search.Points
import Keychart.Proofs.Search.Ranking
import Keychart.Proofs.Text.Trim
import Mathlib.Algebra.Order.BigOperators.Ring.Finset

/-!
# Fields that are the query

No character of a query can be worth more than the start of a word.  Where the
query is the whole text, each of them is: the first stands at the start of the
text, and the others inherit its bonus.

So a field that is the query, capitals or not, has the greatest score that there
is.  Any other field that the query matches is longer and pays for its length, so
keybinds with such a field come first, as long as the cost of a character does not
vanish in rounding.
-/

namespace Keychart

namespace Search

open Unicode

/-- What `n` characters are worth when each has the bonus of the start of a word. -/
def fullScore (n : Nat) : Int := (matchScore + boundaryBonus) * n

private theorem points_le
    (text : Text) {positions : List Nat} (increasing : positions.Pairwise (· < ·))
    {j : Nat} (inside : j < positions.length) :
    points text positions j ≤ matchScore + boundaryBonus := by
  cases j with
  | zero =>
      have bonusLe := bonusAt_le text (placeAt positions 0)
      rw [points]
      omega
  | succ j =>
      have bonusLe := bonusAt_le text (placeAt positions (j + 1))
      have runLe := runBonus_le text positions (j + 1)
      have step : placeAt positions j + (j + 1 - j) ≤ placeAt positions (j + 1) :=
        placeAt_add_le increasing (Nat.le_succ j) inside
      rw [points]
      simp only [boundaryBonus, consecutiveBonus, gapStartPenalty,
        gapExtensionPenalty] at *
      split
      · omega
      · omega

theorem bonusAt_zero {text : Text} (nonempty : text ≠ []) :
    bonusAt text 0 = boundaryBonus := by
  obtain ⟨c, rest, rfl⟩ := List.exists_cons_of_ne_nil nonempty
  rfl

/-- As many increasing positions as a text has are all of them. -/
theorem placeAt_of_full
    {positions : List Nat} (increasing : positions.Pairwise (· < ·))
    (within : ∀ p ∈ positions, p < positions.length) {j : Nat}
    (inside : j < positions.length) :
    placeAt positions j = j := by
  have first : placeAt positions 0 + (j - 0) ≤ placeAt positions j :=
    placeAt_add_le increasing (Nat.zero_le j) inside
  have last :
      placeAt positions j + (positions.length - 1 - j) ≤
        placeAt positions (positions.length - 1) :=
    placeAt_add_le increasing (by omega) (by omega)
  have bound : placeAt positions (positions.length - 1) < positions.length := by
    apply within
    rw [placeAt, List.getD_eq_getElem?_getD,
      List.getElem?_eq_getElem (show positions.length - 1 < positions.length by omega)]
    exact List.getElem_mem _
  omega

private theorem points_of_full
    {text : Text} {positions : List Nat} (increasing : positions.Pairwise (· < ·))
    (within : ∀ p ∈ positions, p < positions.length) (nonempty : text ≠ [])
    {j : Nat} (inside : j < positions.length) :
    points text positions j = matchScore + boundaryBonus := by
  have place : ∀ k, k ≤ j → placeAt positions k = k := fun k le =>
    placeAt_of_full increasing within (by omega)
  cases j with
  | zero => rw [points, place 0 (Nat.le_refl 0), bonusAt_zero nonempty]
  | succ j =>
      have here := place (j + 1) (Nat.le_refl _)
      have before := place j (Nat.le_succ j)
      have start := place 0 (Nat.zero_le _)
      have strongest :=
        @bonusAt_le_runBonus text positions 0 (j + 1) (Nat.zero_le _)
          (by rw [here, start]; omega)
      rw [start, bonusAt_zero nonempty] at strongest
      have runLe := runBonus_le text positions (j + 1)
      rw [points, if_pos (by rw [here, before])]
      simp only [boundaryBonus, consecutiveBonus] at *
      omega

section Scores

variable {query text : Text} {raw : Int}

private theorem exists_aligned_of_rawScore? (scored : rawScore? query text = some raw) :
    ∃ positions, Aligned (query.map fold) (text.map fold) positions ∧
      positions.length = query.length ∧
      raw = ∑ j ∈ Finset.range query.length, points text positions j := by
  obtain ⟨best, found, rfl⟩ := Option.map_eq_some_iff.mp scored
  obtain ⟨aligned, sum⟩ := eq_sum_points_of_bestAlignment found
  exact ⟨_, aligned, by rw [aligned.length_eq, List.length_map], sum⟩

private theorem rawScore?_le (scored : rawScore? query text = some raw) :
    raw ≤ fullScore query.length := by
  obtain ⟨positions, aligned, length, rfl⟩ := exists_aligned_of_rawScore? scored
  have bound :=
    Finset.sum_le_card_nsmul (Finset.range query.length) (points text positions)
      (matchScore + boundaryBonus) (by
        intro j member
        rw [Finset.mem_range, ← length] at member
        exact points_le text aligned.increasing member)
  rw [Finset.card_range, nsmul_eq_mul, mul_comm] at bound
  exact bound

/-- A text as long as the query has the greatest score. -/
theorem rawScore?_of_length_eq
    (scored : rawScore? query text = some raw)
    (sameLength : text.length = query.length) :
    raw = fullScore query.length := by
  obtain ⟨positions, aligned, length, rfl⟩ := exists_aligned_of_rawScore? scored
  have within : ∀ p ∈ positions, p < positions.length := by
    intro p member
    have bound := aligned.lt_length member
    rw [List.length_map] at bound
    omega
  have full : ∀ j ∈ Finset.range query.length,
      points text positions j = matchScore + boundaryBonus := by
    intro j member
    rw [Finset.mem_range] at member
    have nonempty : text ≠ [] := by
      rintro rfl
      rw [List.length_nil] at sameLength
      omega
    exact points_of_full aligned.increasing within nonempty (by omega)
  rw [Finset.sum_congr rfl full, Finset.sum_const, Finset.card_range, nsmul_eq_mul,
    mul_comm]
  rfl

private theorem exists_rawScore?_iff_sublist (nonempty : query ≠ []) :
    (∃ raw, rawScore? query text = some raw) ↔
      (query.map fold).Sublist (text.map fold) := by
  rw [← exists_bestAlignment_iff_sublist nonempty]
  simp only [rawScore?, Option.map_eq_some_iff]
  constructor
  · rintro ⟨raw, best, found, -⟩
    exact ⟨best, found⟩
  · rintro ⟨best, found⟩
    exact ⟨best.score, best, found, rfl⟩

end Scores

section Scoring

variable (scoring : Int → Nat → Int)

/-- A score for a query in a field, made of the raw one and of the number of
characters that are not matched. -/
def fieldScore? (query field : Text) : Option Int :=
  (rawScore? query field).map fun raw => scoring raw (field.length - query.length)

def keybindScore (query : Text) (keybind : Keybind) : Int :=
  ((fieldScore? scoring query keybind.keys).merge max
    (fieldScore? scoring query keybind.description)).getD 0

/-- Whether `n` characters that are all matched score more than any others. -/
def PrefersWhole (n : Nat) : Prop :=
  ∀ raw unmatched, raw ≤ fullScore n → 0 < unmatched →
    scoring raw unmatched < scoring (fullScore n) 0

end Scoring

/-- The score of a result in exact tenths. -/
def tenths (raw : Int) (unmatched : Nat) : Int := 10 * raw - unmatched

def doubles (raw : Int) (unmatched : Nat) : Int := (Score.ofRaw raw unmatched).units

private theorem prefersWhole_tenths (n : Nat) : PrefersWhole tenths n := by
  intro raw unmatched bound positive
  rw [tenths, tenths]
  omega

/-- What a missing character costs is kept in the rounded cost of many. -/
theorem lengthPenalty_le_roundInt {unmatched : Nat} (some : 0 < unmatched) :
    Score.lengthPenalty ≤ Number.roundInt (Score.lengthPenalty * unmatched) := by
  have cost : Score.lengthPenalty ≤ Score.lengthPenalty * unmatched :=
    le_mul_of_one_le_right (by decide) (by omega)
  have near := (Number.roundInt_near (Int.le_trans (by decide) cost)).2
  have all : Number.twoPow Number.precision = 9007199254740992 := rfl
  rw [all] at near
  generalize Score.lengthPenalty * (unmatched : Int) = total at *
  simp only [Score.lengthPenalty] at *
  omega

/-- Rounding moves a score by less than what a character costs as long as the query
has fewer than 2 ^ 43 of them. -/
theorem prefersWhole_doubles {n : Nat} (positive : 0 < n)
    (short : n < Number.twoPow 43) :
    PrefersWhole doubles n := by
  intro raw unmatched bound some
  have cost := lengthPenalty_le_roundInt some
  have place : Number.twoPow Score.unitPlaces = 72057594037927936 := rfl
  have all : Number.twoPow Number.precision = 9007199254740992 := rfl
  have limit : Number.twoPow 43 = 8796093022208 := rfl
  have free : Number.roundInt (Score.lengthPenalty * (0 : Nat)) = 0 := rfl
  have full : fullScore n = 26 * n := rfl
  rw [limit] at short
  rw [full] at bound
  rw [doubles, doubles, full, Score.ofRaw, Score.ofRaw, free, place]
  generalize Number.roundInt (Score.lengthPenalty * (unmatched : Int)) = paid at *
  simp only [Score.lengthPenalty] at cost
  have whole :=
    (@Number.roundInt_near (26 * n * (72057594037927936 : Nat) - 0) (by omega)).2
  rcases Int.le_total (raw * (72057594037927936 : Nat) - paid) 0 with nonpos | natural
  · have others := Number.roundInt_nonpos nonpos
    rw [all] at whole
    dsimp only
    omega
  · have others := (Number.roundInt_near natural).1
    rw [all] at whole others
    dsimp only
    omega

/-! ## Fields that are the query -/

/-- Whether a field is the query, capitals or not. -/
def IsWhole (query field : Text) : Prop := field.map fold = query.map fold

instance (query field : Text) : Decidable (IsWhole query field) :=
  inferInstanceAs (Decidable (field.map fold = query.map fold))

/-- Whether a field of a keybind is the query. -/
def HasWholeField (query : Text) (keybind : Keybind) : Prop :=
  IsWhole query keybind.keys ∨ IsWhole query keybind.description

section Fields

variable {scoring : Int → Nat → Int} {query field : Text}

theorem IsWhole.length_eq (whole : IsWhole query field) :
    field.length = query.length := by
  have lengths := congrArg List.length whole
  rwa [List.length_map, List.length_map] at lengths

private theorem fieldScore?_of_isWhole (nonempty : query ≠ []) (whole : IsWhole query field) :
    fieldScore? scoring query field = some (scoring (fullScore query.length) 0) := by
  have occurs : (query.map fold).Sublist (field.map fold) := by
    rw [show field.map fold = query.map fold from whole]
  obtain ⟨raw, scored⟩ := (exists_rawScore?_iff_sublist nonempty).mpr occurs
  have full := rawScore?_of_length_eq scored whole.length_eq
  rw [fieldScore?, scored, Option.map_some, full, whole.length_eq, Nat.sub_self]

/-- A field that a query matches and that is not the query is longer. -/
theorem length_lt_of_not_isWhole
    (nonempty : query ≠ []) {raw : Int} (scored : rawScore? query field = some raw)
    (other : ¬ IsWhole query field) :
    query.length < field.length := by
  have occurs := (exists_rawScore?_iff_sublist nonempty).mp ⟨raw, scored⟩
  have le := occurs.length_le
  rw [List.length_map, List.length_map] at le
  apply Nat.lt_of_le_of_ne le
  intro sameLength
  exact other (occurs.eq_of_length (by simpa using sameLength)).symm

private theorem fieldScore?_lt
    (prefers : PrefersWhole scoring query.length) (nonempty : query ≠ [])
    (other : ¬ IsWhole query field) {score : Int}
    (found : fieldScore? scoring query field = some score) :
    score < scoring (fullScore query.length) 0 := by
  obtain ⟨raw, scored, rfl⟩ := Option.map_eq_some_iff.mp found
  have longer := length_lt_of_not_isWhole nonempty scored other
  exact prefers raw _ (rawScore?_le scored) (by omega)

variable {keybind : Keybind}

private theorem le_keybindScore
    {score : Int}
    (found : fieldScore? scoring query keybind.keys = some score ∨
      fieldScore? scoring query keybind.description = some score) :
    score ≤ keybindScore scoring query keybind := by
  rw [keybindScore]
  rcases found with found | found
  · rw [found]
    cases fieldScore? scoring query keybind.description with
    | none => exact Int.le_refl score
    | some other => exact Int.le_max_left score other
  · rw [found]
    cases fieldScore? scoring query keybind.keys with
    | none => exact Int.le_refl score
    | some other => exact Int.le_max_right other score

/-- The score of a keybind that a query matches is that of a field. -/
theorem exists_fieldScore?_eq
    (nonempty : query ≠ []) (matched : MatchesField query keybind) :
    fieldScore? scoring query keybind.keys =
        some (keybindScore scoring query keybind) ∨
      fieldScore? scoring query keybind.description =
        some (keybindScore scoring query keybind) := by
  have scored {field : Text} (here : (fuzzyMatch query field).isSome) :
      fieldScore? scoring query field ≠ none := by
    rw [isSome_fuzzyMatch_iff_sublist] at here
    obtain ⟨raw, found⟩ := (exists_rawScore?_iff_sublist nonempty).mpr here
    rw [fieldScore?, found]
    exact Option.some_ne_none _
  have either : fieldScore? scoring query keybind.keys ≠ none ∨
      fieldScore? scoring query keybind.description ≠ none :=
    matched.imp scored scored
  rw [keybindScore]
  cases keys : fieldScore? scoring query keybind.keys with
  | none =>
      cases description : fieldScore? scoring query keybind.description with
      | none => exact absurd keys (either.resolve_right (absurd description))
      | some d => exact Or.inr rfl
  | some k =>
      cases fieldScore? scoring query keybind.description with
      | none => exact Or.inl rfl
      | some d =>
          rcases Int.le_total k d with le | le
          · exact Or.inr (congrArg some (Int.max_eq_right le).symm)
          · exact Or.inl (congrArg some (Int.max_eq_left le).symm)

/-- A keybind with a field that is the query scores more than one without. -/
theorem keybindScore_lt
    (prefers : PrefersWhole scoring query.length) (nonempty : query ≠ [])
    {whole other : Keybind} (hasWhole : HasWholeField query whole)
    (hasNone : ¬ HasWholeField query other) (matched : MatchesField query other) :
    keybindScore scoring query other < keybindScore scoring query whole := by
  have full : scoring (fullScore query.length) 0 ≤ keybindScore scoring query whole :=
    le_keybindScore (hasWhole.imp (fieldScore?_of_isWhole nonempty)
      (fieldScore?_of_isWhole nonempty))
  have less :
      keybindScore scoring query other < scoring (fullScore query.length) 0 := by
    rcases exists_fieldScore?_eq nonempty matched with found | found
    · exact fieldScore?_lt prefers nonempty (fun whole => hasNone (Or.inl whole)) found
    · exact fieldScore?_lt prefers nonempty (fun whole => hasNone (Or.inr whole)) found
  exact Int.lt_of_lt_of_le less full

private theorem matchesField_of_hasWholeField (hasWhole : HasWholeField query keybind) :
    MatchesField query keybind := by
  have here {field : Text} (whole : IsWhole query field) :
      (fuzzyMatch query field).isSome := by
    rw [isSome_fuzzyMatch_iff_sublist, show field.map fold = query.map fold from whole]
  exact hasWhole.imp here here

end Fields

/-- Whether results keep every keybind with a field that is the query, and rank them
strictly above all others. -/
structure WholeFirst (query : Text) (key : SearchResult → Int)
    (keybinds : List Keybind) (results : List SearchResult) : Prop where
  kept : ∀ index keybind, keybinds[index]? = some keybind →
    HasWholeField query keybind → index ∈ results.map SearchResult.index
  above : ∀ whole ∈ results, ∀ other ∈ results,
    HasWholeField query whole.keybind → ¬ HasWholeField query other.keybind →
      key other < key whole
  inFront : results.Pairwise fun before behind =>
    HasWholeField query behind.keybind → HasWholeField query before.keybind

private theorem wholeFirst_of_sorted
    {scoring : Int → Nat → Int} {query : Text} {key : SearchResult → Int}
    {keybinds : List Keybind} {results : List SearchResult}
    (prefers : PrefersWhole scoring query.length) (nonempty : query ≠ [])
    (same : results.Perm (resultsFrom query 0 keybinds))
    (scored : ∀ result ∈ resultsFrom query 0 keybinds,
      key result = keybindScore scoring query result.keybind)
    (sorted : results.Pairwise fun a b => key b ≤ key a) :
    WholeFirst query key keybinds results := by
  have matched : ∀ result ∈ results, MatchesField query result.keybind := by
    intro result member
    obtain ⟨index, keybind, -, kept⟩ := mem_resultsFrom_iff.mp (same.mem_iff.mp member)
    rw [(rates_of_resultFor nonempty kept).2.1]
    exact isSome_resultFor_iff.mp (Option.isSome_of_eq_some kept)
  have above : ∀ whole ∈ results, ∀ other ∈ results,
      HasWholeField query whole.keybind → ¬ HasWholeField query other.keybind →
        key other < key whole := by
    intro whole wholeMember other otherMember hasWhole hasNone
    rw [scored whole (same.mem_iff.mp wholeMember),
      scored other (same.mem_iff.mp otherMember)]
    exact keybindScore_lt prefers nonempty hasWhole hasNone (matched other otherMember)
  refine ⟨?_, above, ?_⟩
  · intro index keybind place hasWhole
    rw [(same.map SearchResult.index).mem_iff, mem_index_resultsFrom_iff nonempty]
    exact ⟨keybind, place, matchesField_of_hasWholeField hasWhole⟩
  · apply List.Pairwise.imp_of_mem _ sorted
    intro before behind beforeMember behindMember le hasWhole
    by_contra hasNone
    have less := above behind behindMember before beforeMember hasWhole hasNone
    omega

private theorem map_units_betterScore (a b : Option Score) :
    (betterScore a b).map Score.units =
      (a.map Score.units).merge max (b.map Score.units) := by
  cases a with
  | none => cases b <;> rfl
  | some a =>
      cases b with
      | none => rfl
      | some b =>
          apply congrArg some
          rw [Score.max]
          split
          next less => exact (Int.max_eq_right (Int.le_of_lt less)).symm
          next le => exact (Int.max_eq_left (Int.not_lt.mp le)).symm

private theorem map_units_scoreIn? {query : Text} (nonempty : query ≠ []) (field : Text) :
    (scoreIn? query field).map Score.units = fieldScore? doubles query field := by
  rw [scoreIn?, fuzzyMatch_eq_map field nonempty, fieldScore?, rawScore?]
  cases bestAlignment? query field with
  | none => rfl
  | some best => rfl

private theorem rankUnits_eq_getD (result : SearchResult) :
    rankUnits result = (result.score.map Score.units).getD 0 := by
  rw [rankUnits]
  cases result.score <;> rfl

/-- A search ranks by the scores of the keybinds in double precision. -/
theorem rankUnits_eq_keybindScore
    {query : Text} (nonempty : query ≠ []) {keybinds : List Keybind}
    {result : SearchResult} (member : result ∈ resultsFrom query 0 keybinds) :
    rankUnits result = keybindScore doubles query result.keybind := by
  obtain ⟨index, keybind, -, kept⟩ := mem_resultsFrom_iff.mp member
  have matched := isSome_resultFor_iff.mp (Option.isSome_of_eq_some kept)
  rw [resultFor, if_neg (matchesField_iff.mp matched)] at kept
  cases kept
  rw [rankUnits_eq_getD, keybindScore, ← map_units_scoreIn? nonempty,
    ← map_units_scoreIn? nonempty, ← map_units_betterScore]
  rfl

end Search

open Search

/-- What a search would give with the length counted in exact tenths. -/
def searchInTenths (query : Text) (keybinds : List Keybind) : List SearchResult :=
  (resultsFrom (Text.trim query) 0 keybinds).mergeSort fun a b =>
    keybindScore tenths (Text.trim query) b.keybind ≤
      keybindScore tenths (Text.trim query) a.keybind

/-- No alignment of a query is worth more than the starts of as many words, and in a
text of the same length it is worth that.  So the keybinds with a field that is the
query come first, whatever the query, when lengths are counted in exact tenths; and
they do so in double precision too when the query has fewer than 2 ^ 43 characters. -/
theorem whole_fields_rank_first (query : Text) :
    (∀ text m, query ≠ [] → fuzzyMatch query text = some m →
      ∃ raw, rawScore? query text = some raw ∧
        m.score = some (Score.ofRaw raw (text.length - query.length)) ∧
        raw ≤ (matchScore + boundaryBonus) * query.length ∧
        (text.length = query.length →
          raw = (matchScore + boundaryBonus) * query.length)) ∧
    ∀ keybinds, Text.trim query ≠ [] →
      (searchInTenths query keybinds).Perm (search query keybinds) ∧
      WholeFirst (Text.trim query)
        (fun result => keybindScore tenths (Text.trim query) result.keybind)
        keybinds (searchInTenths query keybinds) ∧
      (query.length < Number.twoPow 43 →
        WholeFirst (Text.trim query) rankUnits keybinds (search query keybinds)) := by
  constructor
  · intro text m nonempty matched
    rw [fuzzyMatch_eq_map text nonempty, Option.map_eq_some_iff] at matched
    obtain ⟨best, found, rfl⟩ := matched
    have scored : rawScore? query text = some best.score := by
      rw [rawScore?, found, Option.map_some]
    exact ⟨best.score, scored, rfl, rawScore?_le scored, rawScore?_of_length_eq scored⟩
  · intro keybinds asked
    have sameResults := perm_rank (resultsFrom (Text.trim query) 0 keybinds)
    have inTenths :
        (searchInTenths query keybinds).Perm (resultsFrom (Text.trim query) 0 keybinds) :=
      List.mergeSort_perm _ _
    rw [search_of_not_blank asked]
    refine ⟨inTenths.trans sameResults.symm, ?_, ?_⟩
    · apply wholeFirst_of_sorted (prefersWhole_tenths _) asked inTenths
      · intro result _
        rfl
      · exact pairwise_mergeSort_key
          (fun result => keybindScore tenths (Text.trim query) result.keybind) _
    · intro short
      have positive : 0 < (Text.trim query).length := List.length_pos_iff.mpr asked
      have trimmed : (Text.trim query).length < Number.twoPow 43 := by
        have trimStartLe := Text.length_trimStart_le query
        have trimLe := Text.length_trimEnd_le (Text.trimStart query)
        rw [Text.trim]
        omega
      apply wholeFirst_of_sorted (prefersWhole_doubles positive trimmed) asked sameResults
      · intro result member
        exact rankUnits_eq_keybindScore asked member
      · exact pairwise_rankUnits_rank _

/-- A longer text that begins with the query, and the query itself behind it. -/
def windowKeybinds : List Keybind :=
  [{ keys := Text.ofString "M-S-k", description := Text.ofString "kill window" },
   { keys := Text.ofString "M-x", description := Text.ofString "Kill" }]

theorem whole_fields_rank_first_window :
    rawScore? (Text.ofString "kill") (Text.ofString "Kill") = some 104 ∧
      Text.trim (Text.ofString " kill") ≠ [] ∧
      (search (Text.ofString " kill") windowKeybinds).Pairwise (fun before behind =>
        HasWholeField (Text.trim (Text.ofString " kill")) behind.keybind →
          HasWholeField (Text.trim (Text.ofString " kill")) before.keybind) ∧
      ∃ keybind, windowKeybinds[1]? = some keybind ∧
        HasWholeField (Text.trim (Text.ofString " kill")) keybind ∧
        1 ∈ (search (Text.ofString " kill") windowKeybinds).map SearchResult.index := by
  have nonempty : Text.ofString "kill" ≠ [] := by decide
  have matched : (fuzzyMatch (Text.ofString "kill") (Text.ofString "Kill")).isSome := by
    decide
  have asked : Text.trim (Text.ofString " kill") ≠ [] := by decide
  have whole : IsWhole (Text.trim (Text.ofString " kill")) (Text.ofString "Kill") := by
    decide
  obtain ⟨m, found⟩ := Option.isSome_iff_exists.mp matched
  obtain ⟨raw, scored, -, -, full⟩ :=
    (whole_fields_rank_first (Text.ofString "kill")).1 _ m nonempty found
  have ranked :=
    ((whole_fields_rank_first (Text.ofString " kill")).2 windowKeybinds asked).2.2
      (by decide)
  refine ⟨by rw [scored, full rfl]; rfl, asked, ranked.inFront, _, rfl, Or.inr whole, ?_⟩
  exact ranked.kept 1 _ rfl (Or.inr whole)

end Keychart
