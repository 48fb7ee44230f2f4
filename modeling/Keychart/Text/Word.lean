import Keychart.Text.Basic

/-!
# Words

The pieces by which an editor moves over a text word by word: a run of
punctuation, or a run of other characters that are not spaces.
-/

namespace Keychart.Text

inductive WordClass where
  | space
  | punctuation
  | letter
deriving DecidableEq, Repr

def isSpaceCluster (cluster : Text) : Bool :=
  cluster = [' '] || cluster = ['\t'] || cluster = ['\n'] || cluster = ['\r'] ||
    cluster = ['\x0c'] || cluster = ['\x0b']

def punctuation : Text := Text.ofString "()\x7b\x7d[]<>.,;:'\"!?+-=*/\\|&%^$#@~\x60"

def isPunctuationCluster : Text → Bool
  | [] => false
  | c :: _ => punctuation.contains c

def wordClass (cluster : Text) : WordClass :=
  if isSpaceCluster cluster then .space
  else if isPunctuationCluster cluster then .punctuation
  else .letter

/-- The clusters up to the end of the first word, with the spaces in front of
it. -/
def firstWord (clusters : List Text) : List Text :=
  let blank := clusters.takeWhile fun g => wordClass g = .space
  match clusters.drop blank.length with
  | [] => blank
  | g :: rest => blank ++ g :: rest.takeWhile fun h => wordClass h = wordClass g

def firstWordLength (clusters : List Text) : Nat := (firstWord clusters).flatten.length

end Keychart.Text
