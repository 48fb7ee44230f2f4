import Keychart.Source.Reload
import Mathlib.Data.List.Forall2
import Mathlib.Data.List.Nodup
import Mathlib.Data.List.Perm.Basic

/-!
# What joining a load gives

A caller that joins a load waits behind those that came before it, and gets the
keymap that the store holds when its turn comes.  That is the keymap of the load
it joined if that succeeded and nobody in front of it lined up to load anew.  A
load that fails raises its error for its own caller alone.
-/

namespace Keychart.Source

/-- Whether an event is one of a reload: a call, the end of a load or a turn. -/
def Event.isReload : Event → Bool
  | .call _ => true
  | .finish _ => true
  | .turn => true
  | .load _ => false
  | .swap _ => false

def Event.caller? : Event → Option Nat
  | .call caller => some caller
  | _ => none

/-- The keymap behind some loads, given the keymap in front of them. -/
def latest (keymap : Keymap) (outcomes : List Answer) : Keymap :=
  outcomes.foldl (fun before outcome => outcome.toOption.getD before) keymap

/-- The keymap behind a load and some others is what the load ended in exactly if it
succeeded and the others left its keymap in place. -/
theorem ok_latest_eq_iff (before : Keymap) (outcome : Answer) (others : List Answer) :
    .ok (latest before (outcome :: others)) = outcome ↔
      ∃ keymap, outcome = .ok keymap ∧ latest keymap others = keymap := by
  cases outcome with
  | error e =>
      constructor
      · intro same
        cases same
      · rintro ⟨keymap, same, -⟩
        cases same
  | ok keymap =>
      constructor
      · intro same
        exact ⟨keymap, rfl, Except.ok.inj same⟩
      · rintro ⟨keymap', same, kept⟩
        cases same
        exact congrArg Except.ok kept

namespace Reloads

/-- The callers in a line that are to load anew. -/
def loaders (line : List Waiter) : List Nat :=
  (line.filter fun w => w.purpose = .load).map Waiter.caller

def answerOf (r : Reloads) (caller : Nat) : Option Answer :=
  r.answers.lookup caller

/-- The callers that have asked: those answered, the one that loads, and those
that wait. -/
def asked (r : Reloads) : List Nat :=
  r.answers.map Prod.fst ++ (r.loading.toList ++ r.waiting.map Waiter.caller)

/-- What the load that runs would end in. -/
def outcome (r : Reloads) (bytes : Bytes) : Answer :=
  (Source.load r.store.path bytes).map Loaded.keymap

theorem finish_of_loading
    {r : Reloads} {loader : Nat} (loading : r.loading = some loader)
    (bytes : Bytes) :
    (r.finish bytes).loading = none ∧
      (r.finish bytes).waiting = r.waiting ∧
      (r.finish bytes).answers = r.answers ++ [(loader, r.outcome bytes)] ∧
      (r.finish bytes).store.keymap =
        latest r.store.keymap [r.outcome bytes] := by
  rw [finish, loading, Store.load, outcome]
  cases Source.load r.store.path bytes with
  | error e => exact ⟨rfl, rfl, rfl, rfl⟩
  | ok loaded => exact ⟨rfl, rfl, rfl, rfl⟩

theorem finish_of_idle
    {r : Reloads} (idle : r.loading = none) (bytes : Bytes) :
    r.finish bytes = r := by
  rw [finish, idle]

private theorem answers_prefix_step (r : Reloads) (event : Event) :
    r.answers <+: (r.step event).answers := by
  cases event with
  | call caller =>
      change r.answers <+: (r.call caller).answers
      unfold call
      split <;> exact List.prefix_rfl
  | finish bytes =>
      change r.answers <+: (r.finish bytes).answers
      cases loading : r.loading with
      | none =>
          exact (finish_of_idle loading bytes).symm ▸ List.prefix_rfl
      | some loader =>
          rw [(finish_of_loading loading bytes).2.2.1]
          exact List.prefix_append _ _
  | turn =>
      change r.answers <+: r.turn.answers
      unfold turn
      split
      · exact List.prefix_append _ _
      · exact List.prefix_rfl
      · exact List.prefix_rfl
  | load bytes => exact List.prefix_rfl
  | swap keymap => exact List.prefix_rfl

private theorem answers_prefix_run (r : Reloads) (events : List Event) :
    r.answers <+: (r.run events).answers := by
  induction events generalizing r with
  | nil => exact List.prefix_rfl
  | cons event events inductionHypothesis =>
      exact (answers_prefix_step r event).trans (inductionHypothesis _)

/-- Nobody is forgotten and nobody counted twice. -/
theorem asked_step {r : Reloads} {event : Event} (reload : event.isReload = true) :
    (r.step event).asked.Perm (r.asked ++ event.caller?.toList) := by
  cases event with
  | call caller =>
      change (r.call caller).asked.Perm (r.asked ++ [caller])
      unfold call
      split
      · simp [asked]
      · next idle empty =>
          simp [asked, idle, empty]
      · simp [asked]
  | finish bytes =>
      change (r.finish bytes).asked.Perm (r.asked ++ [])
      rw [List.append_nil]
      cases loading : r.loading with
      | none => rw [finish_of_idle loading]
      | some loader =>
          obtain ⟨idle, waiting, answers, -⟩ := finish_of_loading loading bytes
          simp [asked, idle, waiting, answers, loading]
  | turn =>
      change r.turn.asked.Perm (r.asked ++ [])
      rw [List.append_nil]
      unfold turn
      split
      · next idle waiting => simp [asked, idle, waiting]
      · next idle waiting => simp [asked, idle, waiting]
      · exact List.Perm.refl _
  | load bytes => cases reload
  | swap keymap => cases reload

private theorem asked_run {r : Reloads} {events : List Event}
    (reloads : ∀ event ∈ events, event.isReload = true) :
    (r.run events).asked.Perm (r.asked ++ events.filterMap Event.caller?) := by
  induction events generalizing r with
  | nil => simp [run]
  | cons event events inductionHypothesis =>
      have first := asked_step (r := r) (reloads event List.mem_cons_self)
      have rest :
          ((r.step event).run events).asked.Perm
            ((r.step event).asked ++ events.filterMap Event.caller?) :=
        inductionHypothesis fun e member =>
          reloads e (List.mem_cons_of_mem event member)
      have shape :
          (event :: events).filterMap Event.caller? =
            event.caller?.toList ++ events.filterMap Event.caller? := by
        cases event <;> rfl
      rw [shape, ← List.append_assoc]
      exact rest.trans (first.append_right _)

/-- The callers whose loads end before the turn of a waiting caller, given the
line in front of it. -/
def due (r : Reloads) (ahead : List Waiter) : List Nat :=
  r.loading.toList ++ loaders ahead

/-- What one step does to a caller that joined a load and has a line in front of
it. -/
inductive Advance (r t : Reloads) (caller : Nat) (ahead : List Waiter) : Prop where
  /-- Its turn comes. -/
  | answered :
      r.due ahead = [] → (caller, .ok r.store.keymap) ∈ t.answers →
      Advance r t caller ahead
  /-- A due load ends. -/
  | ended (behind : List Waiter) (loader : Nat) (outcome : Answer) :
      t.waiting = ahead ++ ⟨caller, .join⟩ :: behind →
      r.due ahead = loader :: t.due ahead →
      (loader, outcome) ∈ t.answers →
      t.store.keymap = latest r.store.keymap [outcome] →
      Advance r t caller ahead
  /-- The same loads are due, and the keymap is the same. -/
  | kept (ahead' behind : List Waiter) :
      t.waiting = ahead' ++ ⟨caller, .join⟩ :: behind →
      t.due ahead' = r.due ahead →
      t.store.keymap = r.store.keymap →
      Advance r t caller ahead

section Line

variable {r : Reloads} {ahead behind : List Waiter} {caller : Nat}

/-- Who calls stands behind those that wait, whatever it comes for. -/
theorem advance_call
    (line : r.waiting = ahead ++ ⟨caller, .join⟩ :: behind) (other : Nat) :
    Advance r (r.call other) caller ahead := by
  unfold call
  split
  · next loader _ loading =>
      refine .kept ahead (behind ++ [⟨other, .join⟩]) (by simp [line]) ?_ rfl
      rw [due, due, loading]
  · next empty => simp [line] at empty
  · next idle _ =>
      refine .kept ahead (behind ++ [⟨other, .load⟩]) (by simp [line]) ?_ rfl
      rw [due, due, idle]

private theorem advance_finish
    (line : r.waiting = ahead ++ ⟨caller, .join⟩ :: behind) (bytes : Bytes) :
    Advance r (r.finish bytes) caller ahead := by
  cases loading : r.loading with
  | none =>
      rw [finish_of_idle loading]
      exact .kept ahead behind line rfl rfl
  | some loader =>
      obtain ⟨idle, waiting, answers, keymap⟩ := finish_of_loading loading bytes
      refine .ended behind loader (r.outcome bytes) (waiting.trans line) ?_ ?_ keymap
      · rw [due, due, loading, idle]
        rfl
      · rw [answers]
        simp

/-- A turn is that of the caller itself, or of the first in front of it. -/
theorem advance_turn
    (line : r.waiting = ahead ++ ⟨caller, .join⟩ :: behind) :
    Advance r r.turn caller ahead := by
  cases loading : r.loading with
  | some loader =>
      have still : r.turn = r := by
        rw [turn, loading]
      rw [still]
      exact .kept ahead behind line rfl rfl
  | none =>
      cases ahead with
      | nil =>
          rw [turn, loading, line]
          refine .answered ?_ ?_
          · rw [due, loading]
            rfl
          · simp
      | cons first ahead =>
          obtain ⟨other, purpose⟩ := first
          rw [turn, loading, line]
          cases purpose with
          | join =>
              refine .kept ahead behind rfl ?_ rfl
              rw [due, due, loading]
              rfl
          | load =>
              refine .kept ahead behind rfl ?_ rfl
              rw [due, due, loading]
              rfl

private theorem advance_step
    (line : r.waiting = ahead ++ ⟨caller, .join⟩ :: behind)
    {event : Event} (reload : event.isReload = true) :
    Advance r (r.step event) caller ahead := by
  cases event with
  | call other => exact advance_call line other
  | finish bytes => exact advance_finish line bytes
  | turn => exact advance_turn line
  | load bytes => cases reload
  | swap keymap => cases reload

/-- A caller that joined a load waits, or it has the keymap of the last due load
that succeeded. -/
theorem waiting_or_answered
    (line : r.waiting = ahead ++ ⟨caller, .join⟩ :: behind)
    {events : List Event} (reloads : ∀ event ∈ events, event.isReload = true) :
    ⟨caller, .join⟩ ∈ (r.run events).waiting ∨
      ∃ outcomes,
        List.Forall₂ (fun loader outcome => (loader, outcome) ∈ (r.run events).answers)
            (r.due ahead) outcomes ∧
          (caller, .ok (latest r.store.keymap outcomes)) ∈ (r.run events).answers := by
  induction events generalizing r ahead behind with
  | nil =>
      left
      change _ ∈ r.waiting
      rw [line]
      simp
  | cons event events inductionHypothesis =>
      have later : ∀ e ∈ events, e.isReload = true := fun e member =>
        reloads e (List.mem_cons_of_mem event member)
      have kept := (answers_prefix_run (r.step event) events).subset
      rw [run, List.foldl_cons]
      cases advance_step line (reloads event List.mem_cons_self) with
      | answered nothing answer =>
          right
          rw [nothing]
          exact ⟨[], List.Forall₂.nil, kept answer⟩
      | ended behind loader outcome waiting due own keymap =>
          refine (inductionHypothesis waiting later).imp_right ?_
          rintro ⟨outcomes, ended, answer⟩
          rw [keymap] at answer
          rw [due]
          exact ⟨outcome :: outcomes, List.Forall₂.cons (kept own) ended, answer⟩
      | kept ahead' behind waiting due keymap =>
          have next := inductionHypothesis waiting later
          rw [due, keymap] at next
          exact next

end Line

/-- Loads that end and turns leave nobody waiting. -/
theorem exists_run_waiting_eq_nil (r : Reloads) (bytes : Bytes) :
    ∃ events, (∀ event ∈ events, event = .finish bytes ∨ event = .turn) ∧
      (r.run events).waiting = [] := by
  generalize waiting : r.waiting = line
  induction line generalizing r with
  | nil => exact ⟨[], by simp, waiting⟩
  | cons first line inductionHypothesis =>
      obtain ⟨idle, same⟩ :
          (r.finish bytes).loading = none ∧
            (r.finish bytes).waiting = first :: line := by
        cases loading : r.loading with
        | none =>
            rw [finish_of_idle loading]
            exact ⟨loading, waiting⟩
        | some loader =>
            obtain ⟨idle, same, -⟩ := finish_of_loading loading bytes
            exact ⟨idle, same.trans waiting⟩
      have next : (r.finish bytes).turn.waiting = line := by
        obtain ⟨caller, purpose⟩ := first
        rw [turn, idle, same]
        cases purpose <;> rfl
      obtain ⟨events, plain, done⟩ := inductionHypothesis _ next
      refine ⟨.finish bytes :: .turn :: events, ?_, done⟩
      simpa using plain

/-! ## Answers -/

private theorem mem_answers_of_answerOf
    {r : Reloads} {caller : Nat} {answer : Answer}
    (found : r.answerOf caller = some answer) :
    (caller, answer) ∈ r.answers := by
  obtain ⟨front, back, same, -⟩ := List.lookup_eq_some_iff.mp found
  rw [same]
  simp

section Distinct

variable {r : Reloads} (distinct : r.asked.Nodup)
include distinct

/-- Callers that are told apart have one answer each. -/
theorem answerOf_eq_some
    {caller : Nat} {answer : Answer} (found : (caller, answer) ∈ r.answers) :
    r.answerOf caller = some answer := by
  have callers : (r.answers.map Prod.fst).Nodup := distinct.of_append_left
  obtain ⟨front, back, same⟩ := List.append_of_mem found
  refine List.lookup_eq_some_iff.mpr ⟨front, back, same, ?_⟩
  rintro ⟨other, given⟩ member
  rw [same, List.map_append, List.map_cons, List.nodup_middle] at callers
  have absent := (List.nodup_cons.mp callers).1
  have different : caller ≠ other := by
    rintro rfl
    have earlier : caller ∈ front.map Prod.fst :=
      List.mem_map.mpr ⟨(caller, given), member, rfl⟩
    exact absent (List.mem_append_left _ earlier)
  simpa using different

/-- Who waits has no answer yet. -/
theorem answerOf_of_waiting {waiter : Waiter} (waits : waiter ∈ r.waiting) :
    r.answerOf waiter.caller = none := by
  cases found : r.answerOf waiter.caller with
  | none => rfl
  | some answer =>
      have answered : waiter.caller ∈ r.answers.map Prod.fst :=
        List.mem_map_of_mem (mem_answers_of_answerOf found)
      have waiting : waiter.caller ∈ r.loading.toList ++ r.waiting.map Waiter.caller :=
        List.mem_append_right _ (List.mem_map_of_mem waits)
      exact absurd rfl
        ((List.nodup_append.mp distinct).2.2 _ answered _ waiting)

private theorem map_answerOf
    {callers : List Nat} {outcomes : List Answer}
    (ended : List.Forall₂ (fun loader outcome => (loader, outcome) ∈ r.answers)
      callers outcomes) :
    callers.map r.answerOf = outcomes.map some := by
  induction ended with
  | nil => rfl
  | cons found _ inductionHypothesis =>
      rw [List.map_cons, List.map_cons, inductionHypothesis,
        answerOf_eq_some distinct found]

end Distinct

/-- In every run of reloads by callers that are told apart, a caller that joins a
load is answered once nobody waits, and never by an error: it gets the keymap of
the last load that succeeded among the one it joined and those of the callers
that were lined up in front of it to load anew, or else the keymap at its call.
So its answer is that of the load exactly when this succeeded and the loads that
came in between left its keymap in place. -/
theorem answerOf_joined
    {store : Store} {before after : List Event} {caller loader : Nat}
    (reloads : ∀ event ∈ before ++ .call caller :: after, event.isReload = true)
    (distinct :
      ((before ++ .call caller :: after).filterMap Event.caller?).Nodup)
    (running : (({ store := store } : Reloads).run before).loading = some loader) :
    let r := ({ store := store } : Reloads).run before
    let final := r.run (.call caller :: after)
    (final.waiting = [] → final.answerOf caller ≠ none) ∧
      ∀ answer, final.answerOf caller = some answer →
        ∃ outcome others,
          final.answerOf loader = some outcome ∧
          (loaders r.waiting).map final.answerOf = others.map some ∧
          answer = .ok (latest r.store.keymap (outcome :: others)) ∧
          (answer = outcome ↔
            ∃ keymap, outcome = .ok keymap ∧ latest keymap others = keymap) := by
  intro r final
  have whole : final = ({ store := store } : Reloads).run
      (before ++ .call caller :: after) := by
    simp only [final, r, run, List.foldl_append]
  have apart : final.asked.Nodup := by
    have everyone := asked_run (r := { store := store }) reloads
    rw [← whole] at everyone
    exact everyone.nodup_iff.mpr (by simpa [asked] using distinct)
  have later : ∀ event ∈ after, event.isReload = true := fun event member =>
    reloads event (by simp [member])
  have line : (r.call caller).waiting = r.waiting ++ [⟨caller, .join⟩] := by
    rw [call, running]
  have due : (r.call caller).due r.waiting = loader :: loaders r.waiting := by
    rw [Reloads.due, call, running]
    rfl
  have store' : (r.call caller).store = r.store := by
    rw [call, running]
  have fate := waiting_or_answered line later
  rw [due, store'] at fate
  change _ ∈ final.waiting ∨ _ at fate
  constructor
  · intro rests
    rcases fate with waits | ⟨outcomes, -, answered⟩
    · rw [rests] at waits
      cases waits
    · rw [answerOf_eq_some apart answered]
      exact Option.some_ne_none _
  · intro answer found
    rcases fate with waits | ⟨outcomes, ended, answered⟩
    · have absent := answerOf_of_waiting apart waits
      rw [found] at absent
      cases absent
    · obtain _ | ⟨own, others⟩ := ended
      next outcome outcomes =>
        have same := (answerOf_eq_some apart answered).symm.trans found
        cases same
        exact ⟨outcome, outcomes, answerOf_eq_some apart own, map_answerOf apart others, rfl,
          ok_latest_eq_iff _ outcome outcomes⟩

/-- Nothing is loaded yet of a file. -/
def unloaded : Reloads := { store := { path := .ofText ['f'] } }

/-- What the system says of a file that is not there. -/
def missing : Bytes := .error .notFound

def titled (title : String) : Bytes :=
  .ok ("-- # " ++ title ++ "\n-- #\n").toUTF8.toList

/-- Caller 2 loads, and caller 3 is lined up to load anew. -/
def linedUp : List Event :=
  [.call 0, .call 1, .finish (titled "A"), .call 2, .turn, .call 3, .turn]

/-- Their loads end, one after the other, and each waiting caller gets its turn. -/
def loadsEnd : List Event :=
  [.finish (titled "B"), .turn, .finish (titled "C"), .turn]

/-- Caller 4 joins the load of caller 2 and is behind the load of caller 3. -/
theorem answerOf_joined_behind :
    (∀ event ∈ linedUp ++ .call 4 :: loadsEnd, event.isReload = true) ∧
      ((linedUp ++ .call 4 :: loadsEnd).filterMap Event.caller?).Nodup ∧
      (unloaded.run linedUp).loading = some 2 ∧
      ∃ outcome other,
        ((unloaded.run linedUp).run (.call 4 :: loadsEnd)).answerOf 2 = some outcome ∧
          ((unloaded.run linedUp).run (.call 4 :: loadsEnd)).answerOf 3 = some other ∧
          ((unloaded.run linedUp).run (.call 4 :: loadsEnd)).answerOf 4 =
            some (.ok (latest (unloaded.run linedUp).store.keymap [outcome, other])) := by
  have reloads : ∀ event ∈ linedUp ++ .call 4 :: loadsEnd, event.isReload = true := by
    decide
  have distinct : ((linedUp ++ .call 4 :: loadsEnd).filterMap Event.caller?).Nodup := by
    decide
  have running : (unloaded.run linedUp).loading = some 2 := by
    decide +kernel
  have ahead : loaders (unloaded.run linedUp).waiting = [3] := by
    decide +kernel
  have rests : ((unloaded.run linedUp).run (.call 4 :: loadsEnd)).waiting = [] := by
    decide +kernel
  refine ⟨reloads, distinct, running, ?_⟩
  obtain ⟨answered, fate⟩ := answerOf_joined reloads distinct running
  obtain ⟨answer, found⟩ := Option.ne_none_iff_exists'.mp (answered rests)
  obtain ⟨outcome, others, own, ended, rfl, -⟩ := fate answer found
  change (loaders (unloaded.run linedUp).waiting).map _ = _ at ended
  rw [ahead] at ended
  have single : others.length = 1 := by
    simpa using (congrArg List.length ended).symm
  obtain ⟨other, rfl⟩ := List.length_eq_one_iff.mp single
  exact ⟨outcome, other, own, (List.cons.inj ended).1, found⟩

/-- Caller 1 joins the load of a missing file and gets a keymap; caller 4 joins a
load of one keymap and gets another. -/
theorem joined_answers_differ :
    (unloaded.run [.call 0]).loading = some 0 ∧
      ((unloaded.run [.call 0]).run [.call 1, .finish missing, .turn]).answers =
        [(0, .error ⟨['f'], .ofText ['f'], .unreadable .notFound⟩), (1, .ok {})] ∧
      (unloaded.run linedUp).loading = some 2 ∧
      ((unloaded.run linedUp).run (.call 4 :: loadsEnd)).answerOf 4 ≠
        ((unloaded.run linedUp).run (.call 4 :: loadsEnd)).answerOf 2 := by
  decide +kernel

end Reloads

end Keychart.Source
