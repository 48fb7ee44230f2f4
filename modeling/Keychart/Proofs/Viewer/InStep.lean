import Keychart.Proofs.Text.Trim
import Keychart.Viewer.Terminal

/-!
# The pane is in step

Keys, pastes, frames and reloads reach the pane on paths of their own, in any
order.  Whatever came before, the pane shows the keymap of the store, and in its
place the results of the query as long as that is not blank.

A run is a list of events.  What a terminal makes of its reads is such a run.
-/

namespace Keychart

private theorem search_trim (query : Text) (keybinds : List Keybind) :
    search (Text.trim query) keybinds = search query keybinds := by
  rw [search, search, Text.trim_trim]

namespace Viewer

namespace Pane

/-- Panes that show the same, each from a row of its own. -/
structure ShowsSame (p q : Pane) : Prop where
  keymap : q.keymap = p.keymap
  results : q.results = p.results

theorem ShowsSame.rows {p q : Pane} (same : p.ShowsSame q) :
    q.rows = p.rows := by
  rw [Pane.rows, Pane.rows, same.keymap, same.results]

private theorem showsSame_perform (p : Pane) (action : Action) :
    p.ShowsSame (p.perform action) := by
  cases action <;> exact ⟨rfl, rfl⟩

private theorem showsSame_of_pressKey?
    {bindings : Bindings} {p q : Pane} {data : Text}
    (pressed : p.pressKey? bindings data = some q) :
    p.ShowsSame q := by
  obtain ⟨action, -, rfl⟩ := Option.map_eq_some_iff.mp pressed
  exact showsSame_perform p action

private theorem showsSame_render (p : Pane) (theme : Theme) (width : Nat) :
    p.ShowsSame (p.render theme width).1 := by
  unfold render
  split
  · exact ⟨rfl, rfl⟩
  · exact ⟨rfl, rfl⟩

end Pane

namespace Session

/-- The pane shows the keymap of the store and what the query asks for. -/
structure InStep (s : Session) : Prop where
  keymap : s.pane.keymap = s.store.keymap
  results : s.pane.results = s.wantedResults

section InStep

variable {s t : Session}

private theorem wantedResults_congr
    (store : t.store = s.store) (value : t.query.value = s.query.value) :
    t.wantedResults = s.wantedResults := by
  rw [wantedResults, wantedResults, store, value]

/-- A session stays in step as long as store, query and pane show the same. -/
theorem InStep.of_same
    (inStep : s.InStep) (store : t.store = s.store)
    (value : t.query.value = s.query.value)
    (same : s.pane.ShowsSame t.pane) :
    t.InStep := by
  constructor
  · rw [same.keymap, store]
    exact inStep.keymap
  · rw [same.results, wantedResults_congr store value]
    exact inStep.results

private theorem inStep_refresh (keymap : s.pane.keymap = s.store.keymap) :
    s.refresh.InStep :=
  ⟨keymap, rfl⟩

private theorem inStep_showKeymap (s : Session) : s.showKeymap.InStep :=
  inStep_refresh rfl

private theorem inStep_ofStore
    (store : Source.Store) (theme : Theme) (bindings : Bindings) (size : Size) :
    (ofStore store theme bindings size).InStep :=
  inStep_showKeymap _

theorem InStep.results_eq_none_iff (inStep : s.InStep) :
    s.pane.results = none ↔ Text.trim s.query.value = [] := by
  rw [inStep.results, wantedResults]
  by_cases blank : Text.trim s.query.value = []
  · simp [blank]
  · simp [blank]

theorem InStep.results_of_ne_nil
    (inStep : s.InStep) (asked : Text.trim s.query.value ≠ []) :
    s.pane.results = some (search s.query.value s.store.keybinds) := by
  rw [inStep.results, wantedResults]
  simp [asked, search_trim]

/-- The rows are those of the results, or else of the keymap of the store. -/
theorem InStep.rows (inStep : s.InStep) :
    s.pane.rows =
      if Text.trim s.query.value = [] then keymapRows s.store.keymap.sections
      else (search s.query.value s.store.keybinds).map Row.keybind := by
  by_cases blank : Text.trim s.query.value = []
  · have grouped := inStep.results_eq_none_iff.mpr blank
    rw [if_pos blank, Pane.rows, grouped, ← inStep.keymap]
  · have ranked := inStep.results_of_ne_nil blank
    rw [if_neg blank, Pane.rows, ranked]

/-- Asking for a chore touches neither store, query nor pane. -/
theorem InStep.request (inStep : s.InStep) (chore : Chore) :
    (s.request chore).InStep := by
  unfold Session.request
  split
  · exact inStep
  · exact inStep.of_same rfl rfl ⟨rfl, rfl⟩

theorem InStep.requestReload (inStep : s.InStep) : s.requestReload.InStep := by
  unfold Session.requestReload
  split
  · exact inStep
  · exact inStep.request .reload

theorem InStep.setStatus (inStep : s.InStep) (text : Text) (isError : Bool) :
    (s.setStatus text isError).InStep := by
  have written : ({ s with status := ⟨text, isError⟩ } : Session).InStep :=
    inStep.of_same rfl rfl ⟨rfl, rfl⟩
  exact written.request .draw

/-- An edit that changes the text refreshes the pane, and any other leaves it
in step. -/
theorem InStep.edit (inStep : s.InStep) (data : Text) : (s.edit data).InStep := by
  unfold Session.edit
  dsimp only
  split
  · next same => exact inStep.of_same rfl same ⟨rfl, rfl⟩
  · exact inStep_refresh inStep.keymap

theorem InStep.handle (inStep : s.InStep) (data : Text) :
    (s.handle data).InStep := by
  unfold Session.handle
  split
  · exact inStep.request .leave
  split
  · exact inStep.requestReload
  split
  · next pane pressed =>
      exact inStep.of_same rfl rfl (Pane.showsSame_of_pressKey? pressed)
  · exact inStep.edit data

theorem InStep.input (inStep : s.InStep) (data : Text) :
    (s.input data).InStep := by
  unfold Session.input
  split
  · exact inStep
  · exact (inStep.handle data).request .draw

theorem InStep.resize (inStep : s.InStep) (size : Size) :
    (s.resize size).InStep := by
  have sized : ({ s with size := size } : Session).InStep :=
    inStep.of_same rfl rfl ⟨rfl, rfl⟩
  unfold Session.resize
  dsimp only
  split
  · exact sized
  · have cleared :
        ({ s with size := size, screen := s.screen.resized } : Session).InStep :=
      sized.of_same rfl rfl ⟨rfl, rfl⟩
    exact cleared.request .draw

theorem InStep.invalidate (inStep : s.InStep) : s.invalidate.InStep := by
  unfold Session.invalidate
  split
  · exact inStep
  · exact inStep.request .draw

theorem InStep.render (inStep : s.InStep) (width : Nat) :
    (s.render width).1.InStep := by
  have fitted :
      ({ s with pane.maxVisible := paneRows s.size.rows } : Session).InStep :=
    inStep.of_same rfl rfl ⟨rfl, rfl⟩
  unfold Session.render Session.body
  dsimp only
  split
  · exact fitted.of_same rfl rfl (Pane.showsSame_render _ _ _)
  · exact fitted

theorem InStep.perform (inStep : s.InStep) (chore : Chore) :
    (s.perform chore).1.InStep := by
  cases chore with
  | draw =>
      change s.draw.1.InStep
      unfold Session.draw
      split
      · exact (inStep.render s.size.columns).of_same rfl rfl ⟨rfl, rfl⟩
      · exact inStep
  | reload =>
      have begun : ({ s with loading := true } : Session).InStep :=
        inStep.of_same rfl rfl ⟨rfl, rfl⟩
      exact begun.setStatus _ false
  | leave => exact inStep.of_same rfl rfl ⟨rfl, rfl⟩

end InStep

/-- What a reload that failed leaves behind: the session as it was but for what
it says. -/
theorem finishReload_of_error
    {s : Session} {bytes : Bytes} {e : Source.SourceError}
    (failed : Source.load s.store.path bytes = .error e) :
    (s.finishReload bytes).1 =
      ({ s with loading := false } : Session).setStatus e.message true := by
  have loaded : s.store.load bytes = (s.store, .error e) := by
    rw [Source.Store.load, failed]
  rw [finishReload, loaded]

private theorem finishReload_of_ok
    {s : Session} {bytes : Bytes} {loaded : Source.Loaded}
    (read : Source.load s.store.path bytes = .ok loaded) :
    (s.finishReload bytes).1 =
      (({ s with store := s.store.swap loaded.keymap, loading := false } :
          Session).showKeymap).setStatus (reloadedText loaded.keymap) false := by
  have swapped :
      s.store.load bytes = (s.store.swap loaded.keymap, .ok loaded) := by
    rw [Source.Store.load, read]
  rw [finishReload, swapped]

theorem InStep.finishReload {s : Session} (inStep : s.InStep) (bytes : Bytes) :
    (s.finishReload bytes).1.InStep := by
  cases read : Source.load s.store.path bytes with
  | error e =>
      rw [finishReload_of_error read]
      have ended : ({ s with loading := false } : Session).InStep :=
        inStep.of_same rfl rfl ⟨rfl, rfl⟩
      exact ended.setStatus _ true
  | ok loaded =>
      rw [finishReload_of_ok read]
      exact (inStep_showKeymap _).setStatus _ false

/-- What is said of a session touches nothing that it shows. -/
theorem setStatus_frame (s : Session) (text : Text) (isError : Bool) :
    (s.setStatus text isError).store = s.store ∧
      (s.setStatus text isError).pane = s.pane ∧
      (s.setStatus text isError).query = s.query ∧
      (s.setStatus text isError).status = ⟨text, isError⟩ := by
  unfold setStatus requestDraw request
  split
  · exact ⟨rfl, rfl, rfl, rfl⟩
  · exact ⟨rfl, rfl, rfl, rfl⟩

/-! ## Runs -/

inductive Event where
  | start
  /-- One item of input, a key or a paste. -/
  | input (data : Text)
  | requestReload
  /-- The first of the waiting chores is done. -/
  | chore
  /-- The file is read, if that is under way, given what the system says of it. -/
  | finish (bytes : Bytes)
  | resize (size : Size)
  | invalidate
  | status (text : Text) (isError : Bool)

def step (s : Session) : Event → Session
  | .start => ({ s with screen := s.screen.start.1 } : Session).requestDraw
  | .input data => s.input data
  | .requestReload => s.requestReload
  | .chore =>
    match s.chores with
    | [] => s
    | chore :: chores => (perform { s with chores := chores } chore).1
  | .finish bytes => if s.loading then (s.finishReload bytes).1 else s
  | .resize size => s.resize size
  | .invalidate => s.invalidate
  | .status text isError => s.setStatus text isError

def run (s : Session) (events : List Event) : Session := events.foldl step s

theorem run_append (s : Session) (front back : List Event) :
    s.run (front ++ back) = (s.run front).run back :=
  List.foldl_append

private theorem step_finish {s : Session} (loading : s.loading = true) (bytes : Bytes) :
    s.step (.finish bytes) = (s.finishReload bytes).1 :=
  if_pos loading

theorem InStep.step {s : Session} (inStep : s.InStep) (event : Event) :
    (s.step event).InStep := by
  cases event with
  | start =>
      have begun :
          ({ s with screen := s.screen.start.1 } : Session).InStep :=
        inStep.of_same rfl rfl ⟨rfl, rfl⟩
      exact begun.request .draw
  | input data => exact inStep.input data
  | requestReload => exact inStep.requestReload
  | chore =>
      rw [Session.step]
      split
      · exact inStep
      · next chore chores _ =>
          have taken : ({ s with chores := chores } : Session).InStep :=
            inStep.of_same rfl rfl ⟨rfl, rfl⟩
          exact taken.perform chore
  | finish bytes =>
      rw [Session.step]
      split
      · exact inStep.finishReload bytes
      · exact inStep
  | resize size => exact inStep.resize size
  | invalidate => exact inStep.invalidate
  | status text isError => exact inStep.setStatus text isError

theorem InStep.run {s : Session} (inStep : s.InStep) (events : List Event) :
    (s.run events).InStep := by
  induction events generalizing s with
  | nil => exact inStep
  | cons event events inductionHypothesis =>
      exact inductionHypothesis (inStep.step event)

private theorem exists_run_eq_work (s : Session) :
    ∃ events, s.work.1 = s.run events := by
  induction s using work.induct with
  | case1 s waiting =>
      refine ⟨[], ?_⟩
      rw [work, waiting]
      rfl
  | case2 s chore chores waiting next inductionHypothesis =>
      obtain ⟨events, done⟩ := inductionHypothesis
      refine ⟨.chore :: events, ?_⟩
      have first : s.step .chore = next.1 := by
        rw [step, waiting]
      rw [run, List.foldl_cons, first]
      rw [work, waiting]
      exact done

private theorem exists_run_eq_settle (s : Session) (bytes : Bytes) :
    ∃ events, (s.settle bytes).1 = s.run events := by
  obtain ⟨events, worked⟩ := exists_run_eq_work s
  unfold settle
  dsimp only
  split
  · next loading =>
      obtain ⟨more, done⟩ := exists_run_eq_work (s.work.1.finishReload bytes).1
      refine ⟨events ++ .finish bytes :: more, ?_⟩
      rw [run_append, ← worked, run, List.foldl_cons, step_finish loading]
      exact done
  · exact ⟨events, worked⟩

/-- A read is a run: its items in turn, the chores, and a reload among them. -/
theorem exists_run_eq_read
    (t : Terminal) (input : List UInt8) (bytes : Bytes) :
    ∃ events, (t.read input bytes).1.session = t.session.run events := by
  unfold Terminal.read
  split
  · obtain ⟨events, settled⟩ :=
      exists_run_eq_settle
        ((t.reads.read input).1.foldl Session.input t.session) bytes
    have typed :
        t.session.run ((t.reads.read input).1.map .input) =
          (t.reads.read input).1.foldl Session.input t.session :=
      List.foldl_map
    refine ⟨(t.reads.read input).1.map .input ++ events, ?_⟩
    rw [run_append, typed]
    exact settled
  · exact ⟨[], rfl⟩

/-- Whatever happened, the pane shows the results exactly while the query is not
blank, the keymap is that of the store, and the rows are theirs.  A reload that
fails leaves store, query and pane as they are, and one that succeeds puts the
keymap it read into the store. -/
theorem run_ofStore_inStep
    (store : Source.Store) (theme : Theme) (bindings : Bindings) (size : Size)
    (events : List Event) :
    let s := (ofStore store theme bindings size).run events
    (s.pane.results = none ↔ Text.trim s.query.value = []) ∧
      (Text.trim s.query.value ≠ [] →
        s.pane.results = some (search s.query.value s.store.keybinds)) ∧
      s.pane.keymap = s.store.keymap ∧
      s.pane.rows =
        (if Text.trim s.query.value = [] then keymapRows s.store.keymap.sections
        else (search s.query.value s.store.keybinds).map Row.keybind) ∧
      (∀ bytes e, s.loading = true → Source.load s.store.path bytes = .error e →
        let t := s.step (.finish bytes)
        t.store = s.store ∧ t.pane = s.pane ∧ t.query = s.query ∧
          t.status = ⟨e.message, true⟩) ∧
      (∀ bytes loaded, s.loading = true →
        Source.load s.store.path bytes = .ok loaded →
          (s.step (.finish bytes)).store = s.store.swap loaded.keymap) := by
  intro s
  have inStep : s.InStep := (inStep_ofStore store theme bindings size).run events
  refine ⟨inStep.results_eq_none_iff, inStep.results_of_ne_nil, inStep.keymap,
    inStep.rows, ?_, ?_⟩
  · intro bytes e loading failed t
    have ended : t = ({ s with loading := false } : Session).setStatus e.message true :=
      (step_finish loading bytes).trans (finishReload_of_error failed)
    rw [ended]
    exact setStatus_frame _ e.message true
  · intro bytes loaded loading read
    rw [step_finish loading, finishReload_of_ok read]
    exact (setStatus_frame _ _ _).1

end Session

end Viewer

end Keychart
