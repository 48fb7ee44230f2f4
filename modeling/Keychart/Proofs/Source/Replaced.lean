import Keychart.Proofs.Source.Joined

/-!
# How often the keymap is replaced

Loads, reloads and swaps replace the keymap of a store, each at most once and as
a whole.  The store counts one replacement for every swap and for every load that
could read its file, and none for a load that failed or for a call that joined the
load of another.

All of this follows from what one step puts into the store: a keymap of its own,
that of the file, or nothing.
-/

namespace Keychart.Source

private theorem load_of_read {bytes : Bytes} {content : Text} (path : Path)
    (read : readText bytes = .ok content) :
    Source.load path bytes = .ok (loadText content) := by
  rw [Source.load, Source.text, read]
  rfl

private theorem load_of_unread {bytes : Bytes} {failure : TextFailure} (path : Path)
    (unread : readText bytes = .error failure) :
    Source.load path bytes = .error ⟨path.toText, path, failure⟩ := by
  rw [Source.load, Source.text, unread]
  rfl

namespace Store

/-- A store with another keymap, if there is one to put into it. -/
def put (s : Store) : Option Keymap → Store
  | none => s
  | some keymap => s.swap keymap

private theorem load_eq_put (s : Store) (bytes : Bytes) :
    (s.load bytes).1 = s.put ((readText bytes).toOption.map Keymap.ofSource) := by
  cases read : readText bytes with
  | ok content =>
      rw [load, load_of_read s.path read]
      rfl
  | error failure =>
      rw [load, load_of_unread s.path read]
      rfl

/-- A load raises an error exactly when it puts nothing into the store. -/
theorem load_eq_error_iff {s : Store} {bytes : Bytes} :
    (∃ e, (s.load bytes).2 = .error e) ↔ (readText bytes).toOption = none := by
  cases read : readText bytes with
  | ok content =>
      rw [load, load_of_read s.path read]
      simp [Except.toOption]
  | error failure =>
      rw [load, load_of_unread s.path read]
      simp [Except.toOption]

end Store

/-- Whether an event replaces the keymap by a given one. -/
def Event.isSwap : Event → Bool
  | .swap _ => true
  | _ => false

def Event.loadedText? : Event → Option Text
  | .load bytes => (readText bytes).toOption
  | _ => none

namespace Reloads

/-- The text that a load reads in a step, if one ends there and the file can be
read. -/
def text? (r : Reloads) : Event → Option Text
  | .load bytes => (readText bytes).toOption
  | .finish bytes => if r.loading.isSome then (readText bytes).toOption else none
  | _ => none

/-- The keymap that a step puts into the store. -/
def put? (r : Reloads) (event : Event) : Option Keymap :=
  match event with
  | .swap keymap => some keymap
  | _ => (r.text? event).map Keymap.ofSource

/-- The caller that joins a load in a step. -/
def joiner? (r : Reloads) : Event → Option Nat
  | .call caller => if r.loading.isSome then some caller else none
  | _ => none

/-- What the steps of a run yield, one after the other. -/
def yields {α : Type} (yield : Reloads → Event → Option α) :
    Reloads → List Event → List α
  | _, [] => []
  | r, event :: events => (yield r event).toList ++ yields yield (r.step event) events

/-- The texts that the loads of a run read. -/
def texts (r : Reloads) (events : List Event) : List Text := yields text? r events

/-- The callers that join a load in a run. -/
def joiners (r : Reloads) (events : List Event) : List Nat := yields joiner? r events

/-- Whether a step ends an operation by an error: an immediate load, or a reload,
whose caller gets it for an answer. -/
def Raises (r : Reloads) (event : Event) : Prop :=
  (∃ bytes e, event = .load bytes ∧ (r.store.load bytes).2 = .error e) ∨
    ∃ caller e, (r.step event).answers = r.answers ++ [(caller, .error e)]

private theorem store_finish (r : Reloads) (bytes : Bytes) :
    (r.finish bytes).store =
      if r.loading.isSome then (r.store.load bytes).1 else r.store := by
  cases loading : r.loading with
  | none => rw [finish_of_idle loading]; rfl
  | some loader =>
      rw [finish, loading]
      dsimp only
      split
      · next loaded => rw [loaded]; rfl
      · next failed => rw [failed]; rfl

private theorem store_call (r : Reloads) (caller : Nat) : (r.call caller).store = r.store := by
  unfold call
  split <;> rfl

private theorem store_turn (r : Reloads) : r.turn.store = r.store := by
  unfold turn
  split <;> rfl

private theorem put?_of_not_isSwap
    {r : Reloads} {event : Event} (other : event.isSwap = false) :
    r.put? event = (r.text? event).map Keymap.ofSource := by
  cases event with
  | swap keymap => cases other
  | _ => rfl

/-- A step replaces the keymap once, or it leaves the store as it is. -/
theorem store_step (r : Reloads) (event : Event) :
    (r.step event).store = r.store.put (r.put? event) := by
  cases event with
  | call caller => exact store_call r caller
  | turn => exact store_turn r
  | swap keymap => rfl
  | load bytes => exact r.store.load_eq_put bytes
  | finish bytes =>
      change (r.finish bytes).store = _
      rw [store_finish, Store.load_eq_put, put?_of_not_isSwap rfl, text?]
      cases r.loading with
      | none => rfl
      | some loader => rfl

private theorem toOption_outcome (r : Reloads) (bytes : Bytes) :
    (r.outcome bytes).toOption =
      (readText bytes).toOption.map Keymap.ofSource := by
  cases read : readText bytes with
  | ok content =>
      rw [outcome, load_of_read r.store.path read]
      rfl
  | error failure =>
      rw [outcome, load_of_unread r.store.path read]
      rfl

private theorem answers_call (r : Reloads) (caller : Nat) :
    (r.call caller).answers = r.answers := by
  unfold call
  split <;> rfl

/-- A turn answers by a keymap, if it answers at all. -/
theorem answers_turn (r : Reloads) :
    r.turn.answers = r.answers ∨
      ∃ caller keymap, r.turn.answers = r.answers ++ [(caller, .ok keymap)] := by
  unfold turn
  split
  · exact Or.inr ⟨_, _, rfl⟩
  · exact Or.inl rfl
  · exact Or.inl rfl

/-- A step in which an operation raises puts nothing into the store. -/
theorem put?_of_raises {r : Reloads} {event : Event} (raises : r.Raises event) :
    r.put? event = none := by
  rcases raises with ⟨bytes, e, rfl, failed⟩ | ⟨caller, e, answered⟩
  · have unread := Store.load_eq_error_iff.mp ⟨e, failed⟩
    rw [put?_of_not_isSwap rfl, text?, unread]
    rfl
  · have silent : r.answers ≠ r.answers ++ [(caller, .error e)] := by
      intro same
      exact List.cons_ne_nil _ _ (List.self_eq_append_right.mp same)
    cases event with
    | call other => exact absurd ((r.answers_call other).symm.trans answered) silent
    | load bytes => exact absurd answered silent
    | swap keymap => exact absurd answered silent
    | turn =>
        rcases r.answers_turn with same | ⟨other, keymap, given⟩
        · exact absurd (same.symm.trans answered) silent
        · have apart := List.append_cancel_left (given.symm.trans answered)
          simp at apart
    | finish bytes =>
        change (r.finish bytes).answers = _ at answered
        cases loading : r.loading with
        | none =>
            rw [finish_of_idle loading] at answered
            exact absurd answered silent
        | some loader =>
            rw [(finish_of_loading loading bytes).2.2.1] at answered
            have own := List.append_cancel_left answered
            have failed : r.outcome bytes = .error e := by
              simp only [List.cons.injEq, Prod.mk.injEq] at own
              exact own.1.2
            have unread := r.toOption_outcome bytes
            rw [failed] at unread
            rw [put?_of_not_isSwap rfl, text?, loading]
            exact unread.symm

end Reloads

namespace Store

private theorem generation_foldl_swap (s : Store) (keymaps : List Keymap) :
    (keymaps.foldl swap s).generation = s.generation + keymaps.length := by
  induction keymaps generalizing s with
  | nil => rfl
  | cons keymap keymaps inductionHypothesis =>
      rw [List.foldl_cons, inductionHypothesis (s.swap keymap), List.length_cons]
      change s.generation + 1 + keymaps.length = _
      omega

private theorem current_foldl_swap (s : Store) (keymaps : List Keymap) :
    (keymaps.foldl swap s).current =
      (keymaps.getLast?.map Snapshot.ofKeymap).getD s.current := by
  induction keymaps generalizing s with
  | nil => rfl
  | cons keymap keymaps inductionHypothesis =>
      rw [List.foldl_cons, inductionHypothesis (s.swap keymap), List.getLast?_cons]
      cases keymaps.getLast? with
      | none => rfl
      | some last => rfl

private theorem put_eq_foldl_swap (s : Store) (keymap : Option Keymap) :
    s.put keymap = keymap.toList.foldl swap s := by
  cases keymap with
  | none => rfl
  | some keymap => rfl

end Store

namespace Reloads

def puts (r : Reloads) (events : List Event) : List Keymap := yields put? r events

private theorem store_run (r : Reloads) (events : List Event) :
    (r.run events).store = (r.puts events).foldl Store.swap r.store := by
  induction events generalizing r with
  | nil => rfl
  | cons event events inductionHypothesis =>
      have first := r.store_step event
      rw [Store.put_eq_foldl_swap] at first
      rw [puts, yields, List.foldl_append, ← first]
      exact inductionHypothesis (r.step event)

private theorem length_puts (r : Reloads) (events : List Event) :
    (r.puts events).length = events.countP Event.isSwap + (r.texts events).length := by
  induction events generalizing r with
  | nil => rfl
  | cons event events inductionHypothesis =>
      have rest := inductionHypothesis (r.step event)
      rw [puts, texts] at rest
      rw [puts, texts, yields, yields, List.length_append, List.length_append, rest,
        List.countP_cons]
      by_cases swaps : event.isSwap = true
      · obtain ⟨keymap, rfl⟩ : ∃ keymap, event = .swap keymap := by
          cases event with
          | swap keymap => exact ⟨keymap, rfl⟩
          | _ => cases swaps
        rw [if_pos swaps]
        simp only [put?, text?, Option.toList_some, Option.toList_none,
          List.length_cons, List.length_nil]
        omega
      · rw [put?_of_not_isSwap (by simpa using swaps), if_neg swaps,
          Option.toList_map, List.length_map]
        omega

private theorem puts_of_no_swap
    {r : Reloads} {events : List Event}
    (loads : ∀ event ∈ events, event.isSwap = false) :
    r.puts events = (r.texts events).map Keymap.ofSource := by
  induction events generalizing r with
  | nil => rfl
  | cons event events inductionHypothesis =>
      have rest := inductionHypothesis (r := r.step event) fun e member =>
        loads e (List.mem_cons_of_mem event member)
      rw [puts, texts] at rest
      rw [puts, texts, yields, yields, rest, List.map_append]
      rw [put?_of_not_isSwap (loads event List.mem_cons_self), Option.toList_map]

/-! ## Who loads and who joins -/

/-- Whether an answer is the keymap of a load of its caller's own, given the
callers that joined another's. -/
def isOwnLoad (joined : List Nat) (answer : Nat × Answer) : Bool :=
  !joined.contains answer.1 && answer.2.toOption.isSome

/-- The callers that joined are those that wait for another's load; the others
load or wait to load. -/
structure Accounts (r : Reloads) (joined : List Nat) : Prop where
  asked : ∀ caller ∈ joined, caller ∈ r.asked
  loading : ∀ caller, r.loading = some caller → caller ∉ joined
  waiting : ∀ w ∈ r.waiting, w.purpose = .join ↔ w.caller ∈ joined

private theorem perm_asked_step (r : Reloads) (event : Event) :
    (r.step event).asked.Perm (r.asked ++ event.caller?.toList) := by
  by_cases reload : event.isReload = true
  · exact asked_step reload
  · cases event with
    | load bytes => exact List.Perm.of_eq (List.append_nil r.asked).symm
    | swap keymap => exact List.Perm.of_eq (List.append_nil r.asked).symm
    | _ => exact absurd rfl reload

private theorem nodup_asked_step
    {r : Reloads} {event : Event} {events : List Event}
    (distinct : (r.asked ++ (event :: events).filterMap Event.caller?).Nodup) :
    ((r.step event).asked ++ events.filterMap Event.caller?).Nodup := by
  have same :=
    (r.perm_asked_step event).append_right (events.filterMap Event.caller?)
  have callers :
      (event :: events).filterMap Event.caller? =
        event.caller?.toList ++ events.filterMap Event.caller? := by
    cases event <;> rfl
  rw [callers, ← List.append_assoc] at distinct
  exact same.nodup_iff.mpr distinct

private theorem countP_isOwnLoad_of_fresh
    {r : Reloads} {caller : Nat} (fresh : caller ∉ r.asked) (joined : List Nat) :
    r.answers.countP (isOwnLoad (joined ++ [caller])) =
      r.answers.countP (isOwnLoad joined) := by
  apply List.countP_congr
  rintro ⟨other, answer⟩ member
  have answered : other ∈ r.asked :=
    List.mem_append_left _ (List.mem_map_of_mem member)
  have different : other ≠ caller := by
    rintro rfl
    exact fresh answered
  simp [isOwnLoad, different]

section Accounts

variable {r : Reloads} {joined : List Nat}

/-- Who calls while a load runs joins it, and who calls otherwise does not. -/
theorem Accounts.call
    (accounts : r.Accounts joined) {caller : Nat} (fresh : caller ∉ r.asked) :
    (∀ other, (r.call caller).loading = some other →
      other ∉ joined ++ (r.joiner? (.call caller)).toList) ∧
    ∀ w ∈ (r.call caller).waiting,
      w.purpose = .join ↔ w.caller ∈ joined ++ (r.joiner? (.call caller)).toList := by
  have stranger : caller ∉ joined := fun member => fresh (accounts.asked caller member)
  have waits : ∀ w ∈ r.waiting, w.caller ≠ caller := by
    rintro w member rfl
    have asked : w.caller ∈ r.waiting.map Waiter.caller := List.mem_map_of_mem member
    exact fresh (List.mem_append_right _ (List.mem_append_right _ asked))
  cases loading : r.loading with
  | some loader =>
      have shape :
          r.call caller = { r with waiting := r.waiting ++ [⟨caller, .join⟩] } := by
        rw [Reloads.call, loading]
      have joins : r.joiner? (.call caller) = some caller := by
        rw [joiner?, loading]
        rfl
      rw [shape, joins]
      constructor
      · intro other loads
        have asked : other ∈ r.loading.toList := by
          rw [loads]
          exact List.mem_singleton_self other
        have different : other ≠ caller := by
          rintro rfl
          exact fresh (List.mem_append_right _ (List.mem_append_left _ asked))
        simpa [different] using accounts.loading other loads
      · intro w member
        rcases List.mem_append.mp member with earlier | new
        · simpa [waits w earlier] using accounts.waiting w earlier
        · obtain rfl := List.mem_singleton.mp new
          simp
  | none =>
      have alone : r.joiner? (.call caller) = none := by
        rw [joiner?, loading]
        rfl
      rw [alone, Option.toList_none, List.append_nil]
      cases waiting : r.waiting with
      | nil =>
          have shape : r.call caller = { r with loading := some caller } := by
            rw [Reloads.call, loading, waiting]
          rw [shape]
          constructor
          · intro other loads
            obtain rfl : caller = other := Option.some.inj loads
            exact stranger
          · exact accounts.waiting
      | cons first line =>
          have shape :
              r.call caller = { r with waiting := r.waiting ++ [⟨caller, .load⟩] } := by
            rw [Reloads.call, loading, waiting]
          rw [shape]
          constructor
          · exact accounts.loading
          · intro w member
            rcases List.mem_append.mp member with earlier | new
            · exact accounts.waiting w earlier
            · obtain rfl := List.mem_singleton.mp new
              simp [stranger]

/-- A load that ends answers its own caller, and nobody else. -/
theorem Accounts.countP_finish
    (accounts : r.Accounts joined) (bytes : Bytes) :
    (r.finish bytes).answers.countP (isOwnLoad joined) =
      r.answers.countP (isOwnLoad joined) + (r.text? (.finish bytes)).toList.length := by
  cases loading : r.loading with
  | none =>
      rw [finish_of_idle loading, text?, loading]
      rfl
  | some loader =>
      have own := accounts.loading loader loading
      have read := r.toOption_outcome bytes
      rw [(finish_of_loading loading bytes).2.2.1, text?, loading,
        List.countP_append, List.countP_singleton]
      simp only [isOwnLoad, read]
      cases (readText bytes).toOption with
      | none => simp
      | some content => simp [own]

/-- A turn goes to a caller that joined, which gets an answer, or to one that loads
now. -/
theorem Accounts.turn (accounts : r.Accounts joined) :
    (∀ other, r.turn.loading = some other → other ∉ joined) ∧
    (∀ w ∈ r.turn.waiting, w.purpose = .join ↔ w.caller ∈ joined) ∧
    r.turn.answers.countP (isOwnLoad joined) =
      r.answers.countP (isOwnLoad joined) := by
  cases loading : r.loading with
  | some loader =>
      have still : r.turn = r := by
        rw [Reloads.turn, loading]
      rw [still]
      exact ⟨accounts.loading, accounts.waiting, rfl⟩
  | none =>
      cases waiting : r.waiting with
      | nil =>
          have still : r.turn = r := by
            rw [Reloads.turn, loading, waiting]
          rw [still]
          exact ⟨accounts.loading, accounts.waiting, rfl⟩
      | cons first line =>
          obtain ⟨caller, purpose⟩ := first
          have own := accounts.waiting ⟨caller, purpose⟩ (by simp [waiting])
          have others : ∀ w ∈ line, w.purpose = .join ↔ w.caller ∈ joined := by
            intro w member
            apply accounts.waiting
            rw [waiting]
            exact List.mem_cons_of_mem _ member
          rw [Reloads.turn, loading, waiting]
          cases purpose with
          | join =>
              have joins : caller ∈ joined := own.mp rfl
              refine ⟨?_, others, ?_⟩
              · intro other loads
                cases loads
              · simp [isOwnLoad, joins]
          | load =>
              have stranger : caller ∉ joined := fun member => by
                cases own.mpr member
              refine ⟨?_, others, rfl⟩
              intro other loads
              obtain rfl : caller = other := Option.some.inj loads
              exact stranger

private theorem Accounts.countP_call
    (joined : List Nat) {caller : Nat} (fresh : caller ∉ r.asked) :
    (r.call caller).answers.countP
        (isOwnLoad (joined ++ (r.joiner? (.call caller)).toList)) =
      r.answers.countP (isOwnLoad joined) := by
  rw [answers_call, joiner?]
  split
  · exact countP_isOwnLoad_of_fresh fresh joined
  · rw [Option.toList_none, List.append_nil]

theorem Accounts.finish (accounts : r.Accounts joined) (bytes : Bytes) :
    (∀ other, (r.finish bytes).loading = some other → other ∉ joined) ∧
      ∀ w ∈ (r.finish bytes).waiting, w.purpose = .join ↔ w.caller ∈ joined := by
  cases loading : r.loading with
  | none =>
      rw [finish_of_idle loading]
      exact ⟨accounts.loading, accounts.waiting⟩
  | some loader =>
      obtain ⟨idle, waiting, -⟩ := finish_of_loading loading bytes
      rw [idle, waiting]
      refine ⟨?_, accounts.waiting⟩
      intro other loads
      cases loads

private theorem mem_caller?_of_joiner?
    {event : Event} {caller : Nat} (joins : caller ∈ (r.joiner? event).toList) :
    caller ∈ event.caller?.toList := by
  cases event with
  | call other =>
      rw [joiner?] at joins
      split at joins
      · exact joins
      · cases joins
  | _ => cases joins

theorem Accounts.asked_step
    (accounts : r.Accounts joined) (event : Event) :
    ∀ caller ∈ joined ++ (r.joiner? event).toList, caller ∈ (r.step event).asked := by
  intro caller member
  apply (r.perm_asked_step event).mem_iff.mpr
  rcases List.mem_append.mp member with earlier | joins
  · exact List.mem_append_left _ (accounts.asked caller earlier)
  · exact List.mem_append_right _ (mem_caller?_of_joiner? joins)

/-- Each step keeps the accounts, and answers one more load of its caller's own
exactly when a reload ends that could read the file. -/
theorem Accounts.step
    (accounts : r.Accounts joined) {event : Event} {events : List Event}
    (distinct : (r.asked ++ (event :: events).filterMap Event.caller?).Nodup) :
    (r.step event).Accounts (joined ++ (r.joiner? event).toList) ∧
      (r.step event).answers.countP (isOwnLoad (joined ++ (r.joiner? event).toList)) +
          event.loadedText?.toList.length =
        r.answers.countP (isOwnLoad joined) + (r.text? event).toList.length := by
  have asked := accounts.asked_step event
  cases event with
  | call caller =>
      have fresh : caller ∉ r.asked := by
        intro member
        exact (List.nodup_append.mp distinct).2.2 caller member caller
          List.mem_cons_self rfl
      obtain ⟨loading, waiting⟩ := accounts.call fresh
      exact ⟨⟨asked, loading, waiting⟩, Accounts.countP_call joined fresh⟩
  | finish bytes =>
      have nobody : joined ++ (r.joiner? (.finish bytes)).toList = joined :=
        List.append_nil joined
      rw [nobody] at asked ⊢
      obtain ⟨loading, waiting⟩ := accounts.finish bytes
      exact ⟨⟨asked, loading, waiting⟩, accounts.countP_finish bytes⟩
  | turn =>
      have nobody : joined ++ (r.joiner? .turn).toList = joined :=
        List.append_nil joined
      rw [nobody] at asked ⊢
      obtain ⟨loading, waiting, answers⟩ := accounts.turn
      exact ⟨⟨asked, loading, waiting⟩, answers⟩
  | load bytes =>
      have nobody : joined ++ (r.joiner? (.load bytes)).toList = joined :=
        List.append_nil joined
      rw [nobody] at asked ⊢
      exact ⟨⟨asked, accounts.loading, accounts.waiting⟩, rfl⟩
  | swap keymap =>
      have nobody : joined ++ (r.joiner? (.swap keymap)).toList = joined :=
        List.append_nil joined
      rw [nobody] at asked ⊢
      exact ⟨⟨asked, accounts.loading, accounts.waiting⟩, rfl⟩

end Accounts

/-- The texts that a run reads are those of its immediate loads, and one for every
caller that is answered by a load of its own. -/
theorem Accounts.length_texts
    {r : Reloads} {joined : List Nat} (accounts : r.Accounts joined)
    {events : List Event}
    (distinct : (r.asked ++ events.filterMap Event.caller?).Nodup) :
    (r.run events).answers.countP (isOwnLoad (joined ++ r.joiners events)) +
        (events.filterMap Event.loadedText?).length =
      r.answers.countP (isOwnLoad joined) + (r.texts events).length := by
  induction events generalizing r joined with
  | nil =>
      rw [joiners, yields, List.append_nil]
      rfl
  | cons event events inductionHypothesis =>
      obtain ⟨kept, counted⟩ := accounts.step distinct
      have rest := inductionHypothesis kept (nodup_asked_step distinct)
      have loaded :
          ((event :: events).filterMap Event.loadedText?).length =
            event.loadedText?.toList.length +
              (events.filterMap Event.loadedText?).length := by
        cases found : event.loadedText? with
        | none => simp [found]
        | some content =>
            simp [found]
            omega
      have joiners :
          joined ++ r.joiners (event :: events) =
            joined ++ (r.joiner? event).toList ++ (r.step event).joiners events :=
        (List.append_assoc _ _ _).symm
      have texts :
          (r.texts (event :: events)).length =
            (r.text? event).toList.length + ((r.step event).texts events).length :=
        List.length_append
      have run : r.run (event :: events) = (r.step event).run events := rfl
      rw [loaded, joiners, texts, run]
      omega

/-! ## In every run -/

/-- Whatever loads, reloads and swaps a store goes through, its keybinds are those
of its keymap, and it counts a replacement for each swap and each text that was
read: one for an immediate load, and one for each caller that a load of its own
answers, but none for a caller that joined.  A step in which an operation raises
leaves the store as it is.  Without swaps the keymap is that of the last text that
was read, or the first one if none was. -/
theorem store_run_ofKeymap
    (path : Path) (initial : Keymap) (events : List Event) :
    let start : Reloads := { store := .ofKeymap path initial }
    let r := start.run events
    r.store.keybinds = r.store.keymap.keybinds ∧
      r.store.generation =
        events.countP Event.isSwap + (start.texts events).length ∧
      ((events.filterMap Event.caller?).Nodup →
        (start.texts events).length =
          (events.filterMap Event.loadedText?).length +
            r.answers.countP (isOwnLoad (start.joiners events))) ∧
      (∀ event, r.Raises event → (r.step event).store = r.store) ∧
      ((∀ event ∈ events, event.isSwap = false) →
        r.store.keymap =
          ((start.texts events).getLast?.map Keymap.ofSource).getD initial) := by
  intro start r
  have store : r.store = (start.puts events).foldl Store.swap start.store :=
    start.store_run events
  have current := Store.current_foldl_swap start.store (start.puts events)
  rw [← store] at current
  refine ⟨?_, ?_, ?_, ?_, ?_⟩
  · rw [Store.keybinds, Store.keymap, current]
    cases (start.puts events).getLast? with
    | none => rfl
    | some keymap => rfl
  · rw [store, Store.generation_foldl_swap, length_puts]
    exact Nat.zero_add _
  · intro distinct
    have nobody : start.Accounts [] := by
      constructor
      · intro caller member
        cases member
      · intro caller loads
        cases loads
      · intro w member
        cases member
    have fresh : (start.asked ++ events.filterMap Event.caller?).Nodup := distinct
    have counted :
        r.answers.countP (isOwnLoad (start.joiners events)) +
            (events.filterMap Event.loadedText?).length =
          0 + (start.texts events).length :=
      nobody.length_texts fresh
    omega
  · intro event raises
    rw [store_step, put?_of_raises raises]
    rfl
  · intro loads
    rw [Store.keymap, current, puts_of_no_swap loads, List.getLast?_map, Option.map_map]
    cases (start.texts events).getLast? with
    | none => rfl
    | some content => rfl

/-- A load, two calls of which the first fails to load, and a third call. -/
def failingRun : List Event :=
  [.load (titled "A"), .call 0, .call 1, .finish missing, .turn, .call 2]

def undecodable : Bytes := .ok [0x41, 0xff]

/-- Caller 1 joins the load of caller 0, which fails, and that of caller 2 fails
next. -/
theorem store_run_ofKeymap_failing :
    (failingRun.filterMap Event.caller?).Nodup ∧
      (∀ event ∈ failingRun, event.isSwap = false) ∧
      unloaded.joiners failingRun = [1] ∧
      (unloaded.run failingRun).Raises (.finish undecodable) ∧
      ((unloaded.run failingRun).step (.finish undecodable)).store =
        (unloaded.run failingRun).store ∧
      (unloaded.run failingRun).store.generation = 1 ∧
      (unloaded.run failingRun).answers.countP (isOwnLoad [1]) = 0 ∧
      (unloaded.run failingRun).store.keymap =
        Keymap.ofSource (Text.ofString "-- # A\n-- #\n") := by
  have distinct : (failingRun.filterMap Event.caller?).Nodup := by
    decide
  have loads : ∀ event ∈ failingRun, event.isSwap = false := by
    decide
  have joiners : unloaded.joiners failingRun = [1] := by
    decide
  have texts :
      unloaded.texts failingRun = [Text.ofString "-- # A\n-- #\n"] := by
    decide +kernel
  have raises : (unloaded.run failingRun).Raises (.finish undecodable) :=
    Or.inr ⟨2, _, rfl⟩
  obtain ⟨-, generation, calls, kept, last⟩ :=
    store_run_ofKeymap (.ofText ['f']) {} failingRun
  change (unloaded.run failingRun).store.generation =
    _ + (unloaded.texts failingRun).length at generation
  have counted :
      (unloaded.texts failingRun).length =
        (failingRun.filterMap Event.loadedText?).length +
          (unloaded.run failingRun).answers.countP
            (isOwnLoad (unloaded.joiners failingRun)) :=
    calls distinct
  have newest :
      (unloaded.run failingRun).store.keymap =
        ((unloaded.texts failingRun).getLast?.map Keymap.ofSource).getD {} :=
    last loads
  have immediate : (failingRun.filterMap Event.loadedText?).length = 1 := by
    decide +kernel
  rw [texts] at generation counted newest
  rw [joiners, immediate] at counted
  exact ⟨distinct, loads, joiners, raises, kept _ raises, generation, by simpa using counted,
    newest⟩

end Reloads

end Keychart.Source
