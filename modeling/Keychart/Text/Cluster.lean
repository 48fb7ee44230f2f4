import Keychart.Text.Basic
import Keychart.Unicode.Cluster

/-!
# Clusters

A cluster is what a reader takes for one character: a base with its marks, a
syllable built from letters, pictures bound by joiners.  A text is cut into
clusters from left to right; a state remembers what the open cluster can still
take in.
-/

namespace Keychart.Text

open Unicode

/-- What the open cluster can still take in. -/
inductive ClusterState where
  | plain
  | afterReturn
  | afterControl
  | afterPrepended
  | hangulL
  | hangulV
  | hangulT
  | picture
  | joined
  | regional
deriving DecidableEq, Repr

namespace ClusterState

def start : ClusterClass → ClusterState
  | .other | .extend | .spacingMark | .joiner => plain
  | .carriageReturn => afterReturn
  | .lineFeed | .control => afterControl
  | .prepended => afterPrepended
  | .pictograph => picture
  | .regional => regional
  | .hangulL => hangulL
  | .hangulLV | .hangulV => hangulV
  | .hangulLVT | .hangulT => hangulT

/-- Whether a cluster ends in front of a character that no state takes in
specially. -/
def breaksPlain : ClusterClass → Bool
  | .extend | .spacingMark | .joiner => false
  | _ => true

/-- The state behind a further character, if that belongs to the open cluster in
a way of its own. -/
def takes : ClusterState → ClusterClass → Option ClusterState
  | afterReturn, .lineFeed => some afterControl
  | hangulL, .hangulV | hangulL, .hangulLV => some hangulV
  | hangulL, .hangulLVT => some hangulT
  | hangulL, .hangulL => some hangulL
  | hangulV, .hangulV => some hangulV
  | hangulV, .hangulT => some hangulT
  | hangulT, .hangulT => some hangulT
  | picture, .extend => some picture
  | picture, .joiner => some joined
  | joined, .pictograph => some picture
  | regional, .regional => some plain
  | _, _ => none

/-- Whether a cluster ends in front of a character, and the state behind it. -/
def next : ClusterState → ClusterClass → Bool × ClusterState
  | afterPrepended, .control | afterPrepended, .lineFeed => (true, plain)
  | afterPrepended, .carriageReturn => (true, afterReturn)
  | afterPrepended, k => (false, start k)
  | state, k =>
    match takes state k with
    | some state => (false, state)
    | none =>
      match state with
      | afterReturn | afterControl => (true, start k)
      | _ => (breaksPlain k, start k)

end ClusterState

/-- The rest of the open cluster, which may be empty, and the clusters behind it. -/
def clustersFrom : ClusterState → Text → Text × List Text
  | _, [] => ([], [])
  | state, c :: text =>
    let (breaks, state) := state.next (clusterClass c)
    let (rest, clusters) := clustersFrom state text
    if breaks then ([], (c :: rest) :: clusters) else (c :: rest, clusters)

def clusters : Text → List Text
  | [] => []
  | c :: text =>
    let (rest, clusters) := clustersFrom (.start (clusterClass c)) text
    (c :: rest) :: clusters

end Keychart.Text
