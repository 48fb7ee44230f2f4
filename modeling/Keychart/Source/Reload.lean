import Keychart.Source.Store

/-!
# Concurrent reloads

Callers ask a store to reload while others do.  One load runs at a time.  Who
calls while it runs joins it: waits for its end and takes the keymap that is
current then.  Who calls behind its end, but before all that joined it went on,
waits for them and then loads anew.

A run is a list of events, one for each point at which a caller, a load or
another user of the store can go on.
-/

namespace Keychart.Source

/-- What a waiting caller does once it is its turn. -/
inductive Purpose where
  | join
  | load
deriving DecidableEq, Repr

structure Waiter where
  caller : Nat
  purpose : Purpose
deriving DecidableEq, Repr

/-- What a caller gets in the end. -/
abbrev Answer := Except SourceError Keymap

/-- A store with the reloads that are under way. -/
structure Reloads where
  store : Store
  /-- The caller whose load runs. -/
  loading : Option Nat := none
  /-- The callers that wait, in the order in which they get their turn. -/
  waiting : List Waiter := []
  /-- The answers so far, the latest last. -/
  answers : List (Nat × Answer) := []
  /-- What the loads reported. -/
  records : List Log.Record := []

/-- One point of a run. -/
inductive Event where
  /-- A caller asks for a reload. -/
  | call (caller : Nat)
  /-- The load that runs ends, given what the system said of the file. -/
  | finish (bytes : Bytes)
  /-- The first of the waiting callers gets its turn. -/
  | turn
  /-- The file is loaded at once, whatever else is under way. -/
  | load (bytes : Bytes)
  /-- The keymap is replaced by another. -/
  | swap (keymap : Keymap)

namespace Reloads

/-- A caller asks: it loads if nothing is under way, joins a running load, and
lines up behind those that still wait. -/
def call (r : Reloads) (caller : Nat) : Reloads :=
  match r.loading, r.waiting with
  | some _, waiting => { r with waiting := waiting ++ [⟨caller, .join⟩] }
  | none, [] => { r with loading := some caller }
  | none, waiting => { r with waiting := waiting ++ [⟨caller, .load⟩] }

/-- The running load ends. -/
def finish (r : Reloads) (bytes : Bytes) : Reloads :=
  match r.loading with
  | none => r
  | some caller =>
    match r.store.load bytes with
    | (store, .ok loaded) =>
      { r with
        store := store
        loading := none
        answers := r.answers ++ [(caller, .ok loaded.keymap)]
        records := r.records ++ loaded.records }
    | (store, .error e) =>
      { r with
        store := store
        loading := none
        answers := r.answers ++ [(caller, .error e)] }

/-- The first waiting caller goes on, unless a load runs. -/
def turn (r : Reloads) : Reloads :=
  match r.loading, r.waiting with
  | none, ⟨caller, .join⟩ :: waiting =>
    { r with
      waiting := waiting
      answers := r.answers ++ [(caller, .ok r.store.keymap)] }
  | none, ⟨caller, .load⟩ :: waiting =>
    { r with loading := some caller, waiting := waiting }
  | _, _ => r

def step (r : Reloads) : Event → Reloads
  | .call caller => r.call caller
  | .finish bytes => r.finish bytes
  | .turn => r.turn
  | .load bytes => { r with store := (r.store.load bytes).1 }
  | .swap keymap => { r with store := r.store.swap keymap }

def run (r : Reloads) (events : List Event) : Reloads := events.foldl step r

/-- The run of several callers that ask at the same time. -/
def together (callers : Nat) (bytes : Bytes) : List Event :=
  (List.range callers).map .call ++ .finish bytes :: List.replicate (callers - 1) .turn

/-- Several callers reload at the same time: the store behind it, and the answers
in the order of the callers. -/
def reloadTogether (store : Store) (callers : Nat) (bytes : Bytes) : Reloads :=
  ({ store := store } : Reloads).run (together callers bytes)

end Reloads

end Keychart.Source
