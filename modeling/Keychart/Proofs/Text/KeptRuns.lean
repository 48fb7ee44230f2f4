import Keychart.Proofs.Text.Clusters
import Keychart.Proofs.Text.Pieces
import Keychart.Text.Truncate

/-!
# The runs that a cut keeps

A cut keeps whole escape sequences, and of the runs between them whole clusters, up to
the first one that does not fit.  What it keeps is read again as the same runs.
-/

namespace Keychart.Text

open Number

def runClusters (pieces : List Piece) : List Text := (plainRuns pieces).flatMap clusters

def runsWidth (pieces : List Piece) : Nat := total ((runClusters pieces).map clusterWidth)

theorem runClusters_plain (text : Text) (pieces : List Piece) :
    runClusters (.plain text :: pieces) = clusters text ++ runClusters pieces := rfl

theorem runClusters_append (front back : List Piece) :
    runClusters (front ++ back) = runClusters front ++ runClusters back := by
  induction front with
  | nil => rfl
  | cons piece front inductionHypothesis =>
      cases piece with
      | plain text =>
          rw [List.cons_append, runClusters_plain, runClusters_plain, inductionHypothesis,
            List.append_assoc]
      | escape code => exact inductionHypothesis

theorem runsWidth_append (front back : List Piece) :
    runsWidth (front ++ back) = runsWidth front + runsWidth back := by
  rw [runsWidth, runClusters_append, List.map_append, total_append, runsWidth, runsWidth]

theorem flatten_runClusters (pieces : List Piece) :
    (runClusters pieces).flatten = (plainRuns pieces).flatten := by
  induction pieces with
  | nil => rfl
  | cons piece pieces inductionHypothesis =>
      cases piece with
      | plain text =>
          rw [runClusters_plain, List.flatten_append, flatten_clusters, inductionHypothesis]
          rfl
      | escape code => exact inductionHypothesis

private theorem takeClusters_of_some
    {room left : Nat} {clusters : List Text} (all : (takeClusters room clusters).2 = some left) :
    (takeClusters room clusters).1 = clusters.flatten ∧
      total (clusters.map clusterWidth) + left = room := by
  induction clusters generalizing room with
  | nil =>
      cases all
      exact ⟨rfl, Nat.zero_add _⟩
  | cons cluster clusters inductionHypothesis =>
      rw [takeClusters] at all ⊢
      split at all
      · cases all
      · next fits =>
          obtain ⟨taken, sum⟩ := inductionHypothesis all
          rw [if_neg fits]
          refine ⟨congrArg (cluster ++ ·) taken, ?_⟩
          rw [List.map_cons, total_cons]
          omega

private theorem takeClusters_of_none
    {room : Nat} {clusters : List Text} (stops : (takeClusters room clusters).2 = none) :
    ∃ front cluster back, clusters = front ++ cluster :: back ∧
      (takeClusters room clusters).1 = front.flatten ∧
      total (front.map clusterWidth) ≤ room ∧
      room < total (front.map clusterWidth) + clusterWidth cluster := by
  induction clusters generalizing room with
  | nil => cases stops
  | cons first clusters inductionHypothesis =>
      rw [takeClusters] at stops ⊢
      split at stops
      · next wide =>
          rw [if_pos wide]
          refine ⟨[], first, clusters, rfl, rfl, Nat.zero_le _, ?_⟩
          rwa [List.map_nil, total_nil, Nat.zero_add]
      · next fits =>
          obtain ⟨front, cluster, back, rfl, taken, least, most⟩ := inductionHypothesis stops
          rw [if_neg fits]
          refine ⟨first :: front, cluster, back, rfl, congrArg (first ++ ·) taken, ?_, ?_⟩
          · rw [List.map_cons, total_cons]
            omega
          · rw [List.map_cons, total_cons]
            omega

theorem takePieces_plain_of_none
    {room : Nat} {text : Text} (stops : (takeClusters room (clusters text)).2 = none)
    (pieces : List Piece) :
    takePieces room (.plain text :: pieces) = ((takeClusters room (clusters text)).1, false) := by
  rw [takePieces]
  split
  · next found => rw [found]
  · next found =>
      rw [found] at stops
      cases stops

theorem takePieces_plain_of_some
    {room left : Nat} {text : Text} (all : (takeClusters room (clusters text)).2 = some left)
    (pieces : List Piece) :
    takePieces room (.plain text :: pieces) =
      (text ++ (takePieces left pieces).1, (takePieces left pieces).2) := by
  have same := (takeClusters_of_some all).1
  rw [flatten_clusters] at same
  rw [takePieces]
  split
  · next found =>
      rw [found] at all
      cases all
  · next taken left' found =>
      rw [found] at all same
      obtain rfl : left' = left := Option.some.inj all
      obtain rfl : taken = text := same
      rfl

/-! ## What the cut keeps -/

def Piece.isEscape : Piece → Bool
  | .plain _ => false
  | .escape _ => true

/-- Some clusters of a plain run, as a run of their own if there are any. -/
def plainRun (clusters : List Text) : List Piece :=
  if clusters = [] then [] else [.plain clusters.flatten]

/-- Whether some runs are what a cut to some room keeps of others: all of them, or
those in front of the first cluster that does not fit. -/
inductive Keeps (room : Nat) : (pieces kept : List Piece) → Prop
  | all {pieces : List Piece} (fits : runsWidth pieces ≤ room) : Keeps room pieces pieces
  | upTo {front back : List Piece} {run cluster : Text} {first rest : List Text}
      (parted : clusters run = first ++ cluster :: rest)
      (fits : runsWidth (front ++ plainRun first) ≤ room)
      (full : room < runsWidth (front ++ plainRun first) + clusterWidth cluster) :
      Keeps room (front ++ .plain run :: back) (front ++ plainRun first)

theorem spelled_plainRun (clusters : List Text) :
    spelled (plainRun clusters) = clusters.flatten := by
  rw [plainRun]
  split
  · next empty => rw [empty]; rfl
  · exact List.append_nil _

private theorem any_isEscape_plainRun (clusters : List Text) :
    (plainRun clusters).any Piece.isEscape = false := by
  rw [plainRun]
  split <;> rfl

/-- The first clusters of a run are its clusters when they stand alone. -/
theorem runClusters_plainRun
    {run : Text} {first rest : List Text} (parted : clusters run = first ++ rest) :
    runClusters (plainRun first) = first := by
  rw [plainRun]
  split
  · next empty => rw [empty]; rfl
  · rw [runClusters_plain, clusters_flatten parted]
    exact List.append_nil first

theorem Keeps.cons
    {room left : Nat} {pieces kept : List Piece} (h : Keeps left pieces kept) {piece : Piece}
    (counted : runsWidth [piece] + left = room) :
    Keeps room (piece :: pieces) (piece :: kept) := by
  have split (kept : List Piece) : runsWidth (piece :: kept) = runsWidth [piece] + runsWidth kept :=
    runsWidth_append [piece] kept
  cases h with
  | all fits => exact .all (by rw [split]; omega)
  | @upTo front back run cluster first rest parted fits full =>
      refine @Keeps.upTo _ (piece :: front) back run cluster first rest parted ?_ ?_
      · rw [List.cons_append, split]
        omega
      · rw [List.cons_append, split]
        omega

/-- The cut keeps the runs in turn as long as they fit. -/
theorem exists_keeps_takePieces (room : Nat) (pieces : List Piece) :
    ∃ kept, Keeps room pieces kept ∧
      takePieces room pieces = (spelled kept, kept.any Piece.isEscape) := by
  induction pieces generalizing room with
  | nil => exact ⟨[], .all (Nat.zero_le _), rfl⟩
  | cons piece pieces inductionHypothesis =>
      cases piece with
      | escape code =>
          obtain ⟨kept, keeps, taken⟩ := inductionHypothesis room
          refine ⟨.escape code :: kept, keeps.cons (Nat.zero_add _), ?_⟩
          rw [takePieces, taken]
          rfl
      | plain text =>
          cases found : (takeClusters room (clusters text)).2 with
          | none =>
              obtain ⟨first, cluster, rest, parted, taken, fits, full⟩ :=
                takeClusters_of_none found
              have counted : runsWidth ([] ++ plainRun first) = total (first.map clusterWidth) := by
                rw [List.nil_append, runsWidth, runClusters_plainRun parted]
              refine ⟨[] ++ plainRun first, @Keeps.upTo _ [] pieces text cluster first rest parted ?_ ?_, ?_⟩
              · rwa [counted]
              · rwa [counted]
              · rw [takePieces_plain_of_none found, taken, List.nil_append, spelled_plainRun,
                  any_isEscape_plainRun]
          | some left =>
              have counted := (takeClusters_of_some found).2
              obtain ⟨kept, keeps, taken⟩ := inductionHypothesis left
              refine ⟨.plain text :: kept, keeps.cons ?_, ?_⟩
              · rw [runsWidth, runClusters_plain, List.map_append, total_append]
                exact counted
              · rw [takePieces_plain_of_some found, taken]
                rfl

theorem flatten_prefix_of_clusters
    {run : Text} {first rest : List Text} (parted : clusters run = first ++ rest) :
    first.flatten <+: run := by
  have whole := flatten_clusters run
  rw [parted, List.flatten_append] at whole
  exact ⟨_, whole⟩

private theorem front_plainRun
    {run : Text} {first rest : List Text} (parted : clusters run = first ++ rest)
    (back : List Piece) :
    Front (plainRun first) (.plain run :: back) := by
  rw [plainRun]
  split
  · exact .nil _
  · next some =>
      obtain ⟨cluster, member⟩ := List.exists_mem_of_ne_nil first some
      have inRun : cluster ∈ clusters run := by
        rw [parted]
        exact List.mem_append_left rest member
      refine .cut (flatten_prefix_of_clusters parted) (fun nothing => ?_) back
      exact ne_nil_of_mem_clusters inRun (List.flatten_eq_nil_iff.mp nothing cluster member)

theorem Keeps.front {room : Nat} {pieces kept : List Piece} (h : Keeps room pieces kept) :
    Front kept pieces := by
  cases h with
  | all fits =>
      have whole := Front.append pieces (.nil [])
      rwa [List.append_nil] at whole
  | upTo parted fits full => exact (front_plainRun parted _).append _

theorem Keeps.runsWidth_le {room : Nat} {pieces kept : List Piece} (h : Keeps room pieces kept) :
    runsWidth kept ≤ room := by
  cases h with
  | all fits => exact fits
  | upTo parted fits full => exact fits

private theorem Keeps.runClusters_begins
    {room : Nat} {pieces kept : List Piece} (h : Keeps room pieces kept) :
    runClusters kept <+: runClusters pieces := by
  cases h with
  | all fits => exact List.prefix_rfl
  | @upTo front back run cluster first rest parted fits full =>
      rw [runClusters_append, runClusters_append, runClusters_plainRun parted, runClusters_plain,
        parted, List.append_assoc]
      exact (List.prefix_append_right_inj _).mpr (List.prefix_append _ _)

/-- What is taken of some runs is a front of them that is cut between two clusters
and takes no more than the room. -/
theorem exists_front_of_takePieces (room : Nat) (pieces : List Piece) :
    ∃ front back, Front front pieces ∧ (takePieces room pieces).1 = spelled front ∧
      runClusters pieces = runClusters front ++ back ∧ runsWidth front ≤ room := by
  obtain ⟨kept, keeps, taken⟩ := exists_keeps_takePieces room pieces
  obtain ⟨back, counted⟩ := keeps.runClusters_begins
  exact ⟨kept, back, keeps.front, by rw [taken], counted.symm, keeps.runsWidth_le⟩

end Keychart.Text
