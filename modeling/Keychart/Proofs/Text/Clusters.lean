import Keychart.Text.Width

/-!
# The clusters of a text

Clusters are pieces of their text, and the first of them are the clusters of what
they spell.  Where a character opens a cluster behind whatever stands in front of
it, a text can be cut and measured piece by piece; where it does not, the pieces
can take more columns, or fewer, than the whole.
-/

namespace Keychart.Text

open Unicode Number

def stateBehind (state : ClusterState) (text : Text) : ClusterState :=
  text.foldl (fun state c => (state.next (clusterClass c)).2) state

theorem clustersFrom_cons (state : ClusterState) (c : Char) (text : Text) :
    clustersFrom state (c :: text) =
      if (state.next (clusterClass c)).1 then
        ([], (c :: (clustersFrom (state.next (clusterClass c)).2 text).1) ::
          (clustersFrom (state.next (clusterClass c)).2 text).2)
      else
        (c :: (clustersFrom (state.next (clusterClass c)).2 text).1,
          (clustersFrom (state.next (clusterClass c)).2 text).2) := rfl

private theorem flatten_clustersFrom (state : ClusterState) (text : Text) :
    (clustersFrom state text).1 ++ (clustersFrom state text).2.flatten = text := by
  induction text generalizing state with
  | nil => rfl
  | cons c text inductionHypothesis =>
      have rest := inductionHypothesis (state.next (clusterClass c)).2
      rw [clustersFrom_cons]
      split
      · rw [List.flatten_cons, List.nil_append, List.cons_append, rest]
      · rw [List.cons_append, rest]

private theorem ne_nil_of_mem_clustersFrom
    {state : ClusterState} {text cluster : Text}
    (member : cluster ∈ (clustersFrom state text).2) :
    cluster ≠ [] := by
  induction text generalizing state with
  | nil => cases member
  | cons c text inductionHypothesis =>
      rw [clustersFrom_cons] at member
      split at member
      · rcases List.mem_cons.mp member with rfl | later
        · exact List.cons_ne_nil _ _
        · exact inductionHypothesis later
      · exact inductionHypothesis member

/-- The first clusters are those of what they spell. -/
theorem clustersFrom_flatten
    {state : ClusterState} {text rest : Text} {front back : List Text}
    (cut : clustersFrom state text = (rest, front ++ back)) :
    clustersFrom state (rest ++ front.flatten) = (rest, front) := by
  induction text generalizing state rest front with
  | nil =>
      obtain ⟨rfl, nothing⟩ := Prod.mk.inj cut
      rw [(List.append_eq_nil_iff.mp nothing.symm).1]
      rfl
  | cons c text inductionHypothesis =>
      rw [clustersFrom_cons] at cut
      split at cut
      · next breaks =>
          obtain ⟨rfl, same⟩ := Prod.mk.inj cut
          cases front with
          | nil => rfl
          | cons first front =>
              obtain ⟨rfl, others⟩ := List.cons.inj same
              have later := inductionHypothesis (Prod.ext rfl others)
              rw [List.nil_append, List.flatten_cons, List.cons_append, clustersFrom_cons,
                if_pos breaks, later]
      · next joins =>
          obtain ⟨rfl, same⟩ := Prod.mk.inj cut
          have later := inductionHypothesis (Prod.ext rfl same)
          rw [List.cons_append, clustersFrom_cons, if_neg joins, later]

/-- Clusters are cut piece by piece where no cluster reaches over the border. -/
theorem clustersFrom_append
    (state : ClusterState) (front : Text) {back : Text}
    (apart : (clustersFrom (stateBehind state front) back).1 = []) :
    clustersFrom state (front ++ back) =
      ((clustersFrom state front).1,
        (clustersFrom state front).2 ++ (clustersFrom (stateBehind state front) back).2) := by
  induction front generalizing state with
  | nil => exact Prod.ext apart rfl
  | cons c front inductionHypothesis =>
      rw [List.cons_append, clustersFrom_cons, clustersFrom_cons,
        inductionHypothesis _ apart]
      split <;> rfl

/-- A character that opens no cluster goes to the last one, or to the rest of the
open cluster if there is no other. -/
theorem exists_clustersFrom_concat
    (state : ClusterState) (text : Text) {c : Char}
    (joins : ((stateBehind state text).next (clusterClass c)).1 = false) :
    ∃ front last,
      (clustersFrom state text).1 :: (clustersFrom state text).2 = front ++ [last] ∧
        (clustersFrom state (text ++ [c])).1 :: (clustersFrom state (text ++ [c])).2 =
          front ++ [last ++ [c]] := by
  induction text generalizing state with
  | nil =>
      have here : (state.next (clusterClass c)).1 = false := joins
      refine ⟨[], [], rfl, ?_⟩
      rw [List.nil_append, clustersFrom_cons, here]
      rfl
  | cons first text inductionHypothesis =>
      obtain ⟨front, last, before, behind⟩ := inductionHypothesis _ joins
      -- The first character goes to the first of the clusters behind it.
      obtain ⟨front', last', before', behind'⟩ :
          ∃ front' last',
            (first :: (clustersFrom (state.next (clusterClass first)).2 text).1) ::
                (clustersFrom (state.next (clusterClass first)).2 text).2 =
              front' ++ [last'] ∧
            (first :: (clustersFrom (state.next (clusterClass first)).2 (text ++ [c])).1) ::
                (clustersFrom (state.next (clusterClass first)).2 (text ++ [c])).2 =
              front' ++ [last' ++ [c]] := by
        cases front with
        | nil =>
            obtain ⟨rest, none⟩ := List.cons.inj before
            obtain ⟨rest', none'⟩ := List.cons.inj behind
            exact ⟨[], first :: last, by rw [rest, none]; rfl, by rw [rest', none']; rfl⟩
        | cons head front =>
            obtain ⟨rest, others⟩ := List.cons.inj before
            obtain ⟨rest', others'⟩ := List.cons.inj behind
            exact ⟨(first :: head) :: front, last, by rw [rest, others]; rfl,
              by rw [rest', others']; rfl⟩
      rw [List.cons_append, clustersFrom_cons, clustersFrom_cons]
      split
      · exact ⟨[] :: front', last', by rw [before']; rfl, by rw [behind']; rfl⟩
      · exact ⟨front', last', before', behind'⟩

/-- Nothing stands in front of a text, and a control character lets nothing join
it, so both begin the first cluster alike. -/
theorem clustersFrom_afterControl (text : Text) :
    clustersFrom .afterControl text = ([], clusters text) := by
  cases text with
  | nil => rfl
  | cons c text => rw [clustersFrom_cons]; rfl

/-- Whether the first character of a text opens a cluster in a state, as it does in
front of everything. -/
def Opens (state : ClusterState) : Text → Prop
  | [] => True
  | c :: _ => state.next (clusterClass c) = (true, .start (clusterClass c))

instance (state : ClusterState) : (text : Text) → Decidable (Opens state text)
  | [] => .isTrue trivial
  | c :: _ => decEq (state.next (clusterClass c)) (true, .start (clusterClass c))

theorem Opens.append {state : ClusterState} {front : Text} (opens : Opens state front)
    (nonempty : front ≠ []) (back : Text) : Opens state (front ++ back) := by
  cases front with
  | nil => exact absurd rfl nonempty
  | cons c front => exact opens

private theorem Opens.clustersFrom_eq
    {state : ClusterState} {text : Text} (opens : Opens state text) :
    clustersFrom state text = ([], clusters text) := by
  cases text with
  | nil => rfl
  | cons c text =>
      rw [Opens] at opens
      rw [clustersFrom_cons, opens]
      rfl

def lastState (text : Text) : ClusterState := stateBehind .afterControl text

theorem flatten_clusters (text : Text) : (clusters text).flatten = text := by
  have spelled := flatten_clustersFrom .afterControl text
  rwa [clustersFrom_afterControl] at spelled

/-- The first cluster of a text begins it. -/
theorem head_clusters_append_drop {text cluster : Text}
    (first : (clusters text).head? = some cluster) :
    cluster ++ text.drop cluster.length = text := by
  obtain ⟨rest, parts⟩ := List.head?_eq_some_iff.mp first
  have spelled := flatten_clusters text
  rw [parts, List.flatten_cons] at spelled
  rw [← spelled, List.drop_left]

theorem ne_nil_of_mem_clusters {text cluster : Text} (member : cluster ∈ clusters text) :
    cluster ≠ [] := by
  have same := clustersFrom_afterControl text
  exact @ne_nil_of_mem_clustersFrom .afterControl text cluster (by rw [same]; exact member)

theorem clusters_flatten
    {text : Text} {front back : List Text} (cut : clusters text = front ++ back) :
    clusters front.flatten = front := by
  have begun :=
    clustersFrom_flatten ((clustersFrom_afterControl text).trans (congrArg _ cut))
  rw [List.nil_append, clustersFrom_afterControl] at begun
  exact (Prod.mk.inj begun).2

theorem clusters_append
    (front : Text) {back : Text} (apart : (clustersFrom (lastState front) back).1 = []) :
    clusters (front ++ back) = clusters front ++ (clustersFrom (lastState front) back).2 := by
  have whole := clustersFrom_append .afterControl front apart
  rw [clustersFrom_afterControl, clustersFrom_afterControl] at whole
  exact (Prod.mk.inj whole).2

theorem Opens.clusters_append {front back : Text} (opens : Opens (lastState front) back) :
    clusters (front ++ back) = clusters front ++ clusters back := by
  rw [Text.clusters_append front (congrArg Prod.fst opens.clustersFrom_eq),
    opens.clustersFrom_eq]

theorem exists_clusters_concat
    {text : Text} (nonempty : text ≠ []) {c : Char}
    (joins : ((lastState text).next (clusterClass c)).1 = false) :
    ∃ front last, clusters text = front ++ [last] ∧
      clusters (text ++ [c]) = front ++ [last ++ [c]] := by
  obtain ⟨front, last, before, behind⟩ := exists_clustersFrom_concat .afterControl text joins
  rw [clustersFrom_afterControl] at before behind
  cases front with
  | nil =>
      have none : clusters text = [] := (List.cons.inj before).2
      have spelled := flatten_clusters text
      rw [none] at spelled
      exact absurd spelled.symm nonempty
  | cons head front =>
      exact ⟨front, last, (List.cons.inj before).2, (List.cons.inj behind).2⟩

private theorem next_other {state : ClusterState} (different : state ≠ .afterPrepended) :
    state.next .other = (true, .plain) := by
  cases state <;> first | rfl | exact absurd rfl different

/-- Characters of no special class are clusters of their own. -/
theorem clustersFrom_of_other
    {state : ClusterState} (different : state ≠ .afterPrepended) {text : Text}
    (others : ∀ c ∈ text, clusterClass c = .other) :
    clustersFrom state text = ([], text.map fun c => [c]) := by
  induction text generalizing state with
  | nil => rfl
  | cons c text inductionHypothesis =>
      have here := others c List.mem_cons_self
      have rest := @inductionHypothesis .plain (by decide) fun other member =>
        others other (List.mem_cons_of_mem c member)
      rw [clustersFrom_cons, here, next_other different]
      simp only [rest, if_true, List.map_cons]

theorem clusters_of_other
    {text : Text} (others : ∀ c ∈ text, clusterClass c = .other) :
    clusters text = text.map fun c => [c] := by
  have whole := clustersFrom_of_other (show ClusterState.afterControl ≠ _ by decide) others
  rw [clustersFrom_afterControl] at whole
  exact (Prod.mk.inj whole).2

/-- Whether a text ends in a character that draws the next one to itself. -/
def EndsPrepended (text : Text) : Prop := ∃ c ∈ text.getLast?, clusterClass c = .prepended

theorem lastState_concat (text : Text) (c : Char) :
    lastState (text ++ [c]) = ((lastState text).next (clusterClass c)).2 := by
  simp only [lastState, stateBehind, List.foldl_append, List.foldl_cons, List.foldl_nil]

theorem next_eq_afterPrepended_iff (state : ClusterState) (k : ClusterClass) :
    (state.next k).2 = .afterPrepended ↔ k = .prepended := by
  cases state <;> cases k <;> decide

theorem lastState_eq_afterPrepended_iff (text : Text) :
    lastState text = .afterPrepended ↔ EndsPrepended text := by
  rcases List.eq_nil_or_concat text with rfl | ⟨front, c, rfl⟩
  · constructor
    · intro same
      exact absurd same (by decide)
    · rintro ⟨c, member, -⟩
      cases member
  · rw [List.concat_eq_append, lastState_concat, next_eq_afterPrepended_iff]
    simp only [EndsPrepended, List.getLast?_concat, Option.mem_def, Option.some.injEq,
      exists_eq_left']

/-! ## Widths -/

theorem printable_ascii {c : Char} (ascii : c.toNat < 0x80) (printable : isPrintable c = true) :
    clusterClass c = .other ∧ columns c = 1 := by
  have all :
      ∀ n : Fin 0x80, isPrintable (Char.ofNat n) = true →
        clusterClass (Char.ofNat n) = .other ∧ columns (Char.ofNat n) = 1 := by
    decide
  have here := all ⟨c.toNat, ascii⟩
  rw [Char.ofNat_toNat] at here
  exact here printable

private theorem total_map_eq_length
    {text : Text} (narrow : ∀ c ∈ text, columns c = 1) :
    total ((text.map fun c => [c]).map clusterWidth) = text.length := by
  induction text with
  | nil => rfl
  | cons c text inductionHypothesis =>
      have rest := inductionHypothesis fun other member =>
        narrow other (List.mem_cons_of_mem c member)
      have here : clusterWidth [c] = 1 := narrow c List.mem_cons_self
      rw [List.map_cons, List.map_cons, total_cons, rest, here, List.length_cons,
        Nat.add_comm]

/-- The short way of measuring gives what the clusters give. -/
theorem measuredWidth_eq_clustersWidth (text : Text) :
    measuredWidth text = clustersWidth text := by
  rw [measuredWidth]
  split
  · next plain =>
      have known (c : Char) (member : c ∈ text) :
          clusterClass c = .other ∧ columns c = 1 := by
        have both := List.all_eq_true.mp plain c member
        simp only [Bool.and_eq_true, decide_eq_true_eq] at both
        exact printable_ascii both.1 both.2
      rw [clustersWidth, clusters_of_other fun c member => (known c member).1,
        total_map_eq_length fun c member => (known c member).2]
  · rfl

theorem visibleWidth_eq_clustersWidth (text : Text) :
    visibleWidth text = clustersWidth (measured text) :=
  measuredWidth_eq_clustersWidth _

/-- A cluster of narrow characters takes no more columns than it has characters. -/
theorem clusterWidth_le_length
    {cluster : Text} (narrow : ∀ c ∈ cluster, columns c ≤ 1) :
    clusterWidth cluster ≤ cluster.length := by
  match cluster with
  | [] => exact Nat.le_refl 0
  | [c] => exact narrow c List.mem_cons_self
  | c :: second :: rest =>
      have first := narrow c List.mem_cons_self
      simp only [clusterWidth, List.length_cons]
      split
      · omega
      split
      · omega
      split
      · omega
      · omega

/-- Clusters that are no wider than long take together as many columns as they have
characters exactly if each of them does. -/
theorem total_clusterWidth_le_and_eq_iff
    {clusters : List Text} (each : ∀ cluster ∈ clusters, clusterWidth cluster ≤ cluster.length) :
    total (clusters.map clusterWidth) ≤ clusters.flatten.length ∧
      (total (clusters.map clusterWidth) = clusters.flatten.length ↔
        ∀ cluster ∈ clusters, clusterWidth cluster = cluster.length) := by
  induction clusters with
  | nil => exact ⟨Nat.le_refl 0, fun _ => List.forall_mem_nil _, fun _ => rfl⟩
  | cons cluster clusters inductionHypothesis =>
      obtain ⟨atMost, same⟩ := inductionHypothesis fun other member =>
        each other (List.mem_cons_of_mem cluster member)
      have here := each cluster List.mem_cons_self
      rw [List.map_cons, total_cons, List.flatten_cons, List.length_append,
        List.forall_mem_cons, ← same]
      omega

private theorem clusterWidth_le_length_of_mem
    {text : Text} (narrow : ∀ c ∈ text, columns c ≤ 1) {cluster : Text}
    (member : cluster ∈ clusters text) :
    clusterWidth cluster ≤ cluster.length :=
  clusterWidth_le_length fun c inside => narrow c (by
    rw [← flatten_clusters text]
    exact List.mem_flatten.mpr ⟨cluster, member, inside⟩)

theorem clustersWidth_le_length
    {text : Text} (narrow : ∀ c ∈ text, columns c ≤ 1) :
    clustersWidth text ≤ text.length := by
  have whole := (total_clusterWidth_le_and_eq_iff fun _ =>
    clusterWidth_le_length_of_mem narrow).1
  rwa [flatten_clusters] at whole

/-- Narrow characters take a column each exactly if every cluster is as wide as it has
characters. -/
theorem clustersWidth_eq_length_iff
    {text : Text} (narrow : ∀ c ∈ text, columns c ≤ 1) :
    clustersWidth text = text.length ↔
      ∀ cluster ∈ clusters text, clusterWidth cluster = cluster.length := by
  have whole := (total_clusterWidth_le_and_eq_iff fun _ =>
    clusterWidth_le_length_of_mem narrow).2
  rwa [flatten_clusters] at whole

private theorem clusterClass_space : clusterClass ' ' = .other := by decide

theorem columns_space : columns ' ' = 1 := by decide

private theorem clusterClass_of_mem_spaces {n : Nat} {c : Char} (member : c ∈ spaces n) :
    clusterClass c = .other := by
  rw [List.eq_of_mem_replicate member]
  exact clusterClass_space

private theorem clustersWidth_spaces (n : Nat) :
    total (((spaces n).map fun c => [c]).map clusterWidth) = n := by
  rw [total_map_eq_length fun c member => by
    rw [List.eq_of_mem_replicate member]
    exact columns_space]
  exact List.length_replicate

theorem clustersWidth_append_spaces
    {text : Text} (closed : ¬ EndsPrepended text) (n : Nat) :
    clustersWidth (text ++ spaces n) = clustersWidth text + n := by
  have different : lastState text ≠ .afterPrepended := fun same =>
    closed ((lastState_eq_afterPrepended_iff text).mp same)
  have behind := clustersFrom_of_other different fun c =>
    @clusterClass_of_mem_spaces n c
  rw [clustersWidth, clusters_append text (by rw [behind]), behind, List.map_append,
    total_append, clustersWidth_spaces]
  rfl

private theorem hangulClass?_ne_prepended (code : Nat) :
    (hangulClass? code).getD .other ≠ .prepended := by
  unfold hangulClass?
  repeat' split
  all_goals simp

private theorem inRanges_of_prepended {c : Char} (prepended : clusterClass c = .prepended) :
    inRanges prependedRanges c.toNat = true := by
  have notHangul := hangulClass?_ne_prepended c.toNat
  unfold clusterClass at prepended
  grind

/-- A prepended character is no part of a picture, so what it draws to itself adds
no column to a cluster. -/
theorem prepended_narrow {c : Char} (prepended : clusterClass c = .prepended) :
    widensCluster c = false ∧ c.toNat < 0x1F000 := by
  have known := inRanges_of_prepended prepended
  have notSelector : c.toNat ≠ 0xFE0F := by
    intro same
    rw [same] at known
    exact absurd known (by decide)
  have notJoiner : c.toNat ≠ 0x200D := by
    intro same
    rw [same] at known
    exact absurd known (by decide)
  have bounds : ∀ range ∈ prependedRanges, range.2 < 0x1F000 := by decide
  obtain ⟨range, member, inside⟩ := List.any_eq_true.mp known
  have below := bounds range member
  simp only [Bool.and_eq_true, decide_eq_true_eq] at inside
  refine ⟨?_, by omega⟩
  simp only [widensCluster, Bool.or_eq_false_iff, Bool.and_eq_false_iff,
    decide_eq_false_iff_not]
  omega

/-- A space that goes to the last cluster adds no column. -/
theorem clusterWidth_concat_space_le
    {cluster : Text} {c : Char} (prepended : clusterClass c = .prepended) :
    clusterWidth (cluster ++ [c] ++ [' ']) ≤ clusterWidth (cluster ++ [c]) := by
  have noPicture : widensCluster ' ' = false := by decide
  obtain ⟨narrow, below⟩ := prepended_narrow prepended
  match cluster with
  | [] =>
      simp only [List.nil_append, List.cons_append, clusterWidth, List.any_cons,
        List.any_nil, narrow, noPicture, Bool.or_false, Bool.false_eq_true, if_false]
      split
      · omega
      split
      · exact Nat.zero_le _
      · exact Nat.le_refl _
  | first :: rest =>
      obtain ⟨second, others, shape⟩ : ∃ second others, rest ++ [c] = second :: others :=
        List.exists_cons_of_ne_nil (by simp)
      simp only [List.cons_append, shape, clusterWidth, List.any_cons, List.any_append,
        List.any_nil, noPicture, Bool.or_false]
      exact Nat.le_refl _

/-- Behind a prepended character the first space takes no column of its own. -/
theorem clustersWidth_append_spaces_lt
    {text : Text} (drawn : EndsPrepended text) {n : Nat} (positive : 0 < n) :
    clustersWidth (text ++ spaces n) < clustersWidth text + n := by
  obtain ⟨n, rfl⟩ := Nat.exists_eq_succ_of_ne_zero (Nat.ne_of_gt positive)
  have state := (lastState_eq_afterPrepended_iff text).mpr drawn
  have joins : ((lastState text).next (clusterClass ' ')).1 = false := by
    rw [state, clusterClass_space]
    rfl
  have cut : text ++ spaces (n + 1) = text ++ [' '] ++ spaces n := by
    rw [List.append_assoc]
    rfl
  obtain ⟨c, last, prepended⟩ := drawn
  have nonempty : text ≠ [] := by
    rintro rfl
    cases last
  have closed : ¬ EndsPrepended (text ++ [' ']) := by
    rintro ⟨other, member, same⟩
    rw [List.getLast?_concat, Option.mem_some_iff] at member
    subst member
    rw [clusterClass_space] at same
    cases same
  obtain ⟨front, cluster, before, behind⟩ := exists_clusters_concat nonempty joins
  -- The last cluster ends in the last character of the text.
  obtain ⟨rest, rfl⟩ : ∃ rest, cluster = rest ++ [c] := by
    have spelled := flatten_clusters text
    have full : cluster ≠ [] := @ne_nil_of_mem_clusters text cluster (by simp [before])
    obtain ⟨rest, final, rfl⟩ := (List.eq_nil_or_concat cluster).resolve_left full
    rw [before, List.flatten_append, List.flatten_singleton, List.concat_eq_append,
      ← List.append_assoc] at spelled
    rw [← spelled, List.getLast?_concat, Option.mem_some_iff] at last
    exact ⟨rest, by rw [List.concat_eq_append, last]⟩
  have widths := @clusterWidth_concat_space_le rest c prepended
  rw [cut, clustersWidth_append_spaces closed]
  simp only [clustersWidth, before, behind, List.map_append, List.map_cons, List.map_nil,
    total_append, total_cons, total_nil]
  omega

end Keychart.Text
