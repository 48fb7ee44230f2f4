import Keychart.Proofs.Viewer.Display
import Keychart.Proofs.Viewer.InStep
import Keychart.Proofs.Viewer.TakenInput
import Keychart.Viewer.Stage

/-!
# Sessions one after the other

The end of a session and the beginning of another leave alone what the screen
remembers of the terminal.  So the first frame of a session is written as what
changed since the last frame of the session before it, although the terminal shows
that frame no longer.  It is written as a whole if there was no frame before, if
that one had another width, or if another size was noticed since.
-/

namespace Keychart.Viewer

namespace Screen

inductive Call where
  | start
  | stop
  | resized
  | draw (size : Size) (lines : List Text)

def answer (s : Screen) : Call → Screen × List Text
  | .start => s.start
  | .stop => s.stop
  | .resized => (s.resized, [])
  | .draw size lines => s.draw size lines

def after (s : Screen) (calls : List Call) : Screen :=
  calls.foldl (fun s call => (s.answer call).1) s

def writes (s : Screen) : List Call → List Text
  | [] => []
  | call :: calls => (s.answer call).2 ++ (s.answer call).1.writes calls

def frameOf (size : Size) (lines : List Text) : List Text :=
  (takeCursor (lines.take size.rows)).1

/-- What a run is remembered by: its frames, and the notices of another size. -/
inductive Mark where
  | frame (width : Nat) (frame : List Text)
  | resized
deriving DecidableEq

def mark? (s : Screen) : Call → Option Mark
  | .start => none
  | .stop => none
  | .resized => some .resized
  | .draw size lines =>
    if s.canDraw size then some (.frame size.columns (frameOf size lines)) else none

def marks (s : Screen) : List Call → List Mark
  | [] => []
  | call :: calls => (s.mark? call).toList ++ (s.answer call).1.marks calls

theorem after_append (s : Screen) (front back : List Call) :
    s.after (front ++ back) = (s.after front).after back :=
  List.foldl_append

theorem writes_append (s : Screen) (front back : List Call) :
    s.writes (front ++ back) = s.writes front ++ (s.after front).writes back := by
  induction front generalizing s with
  | nil => rfl
  | cons call front inductionHypothesis =>
      rw [List.cons_append, writes, writes, inductionHypothesis, List.append_assoc]
      rfl

theorem marks_append (s : Screen) (front back : List Call) :
    s.marks (front ++ back) = s.marks front ++ (s.after front).marks back := by
  induction front generalizing s with
  | nil => rfl
  | cons call front inductionHypothesis =>
      rw [List.cons_append, marks, marks, inductionHypothesis, List.append_assoc]
      rfl

end Screen

namespace Stage

inductive Event where
  | start
  | stop
  | draw
  | invalidate
  | input (data : Text)
  | resize (size : Size)
  /-- The terminal has another size, and nobody was told. -/
  | measure (size : Size)
  | setLines (place : Nat) (lines : List Text)
  | setFocus (focus : Option Nat)

def step (s : Stage) : Event → Stage × List Text
  | .start => s.start
  | .stop => s.stop
  | .draw => s.draw
  | .invalidate => s.invalidate
  | .input data => s.input data
  | .resize size => s.resize size
  | .measure size => ({ s with size := size }, [])
  | .setLines place lines => (s.setLines place lines, [])
  | .setFocus focus => (s.setFocus focus, [])

def calls (s : Stage) : Event → List Screen.Call
  | .start => [.start, .draw s.size s.lines]
  | .stop => [.stop]
  | .draw => [.draw s.size s.lines]
  | .invalidate => [.draw s.size s.lines]
  | .input data =>
    if s.screen.stopped then [] else [.draw s.size (s.deliver data).lines]
  | .resize size => if s.screen.stopped then [] else [.resized, .draw size s.lines]
  | .measure _ => []
  | .setLines _ _ => []
  | .setFocus _ => []

def run (s : Stage) : List Event → Stage × List Text
  | [] => (s, [])
  | event :: events =>
    (((s.step event).1.run events).1, (s.step event).2 ++ ((s.step event).1.run events).2)

def runCalls (s : Stage) : List Event → List Screen.Call
  | [] => []
  | event :: events => s.calls event ++ (s.step event).1.runCalls events

private theorem deliver_keeps (s : Stage) (data : Text) :
    (s.deliver data).screen = s.screen ∧ (s.deliver data).size = s.size := by
  unfold deliver
  split
  · exact ⟨rfl, rfl⟩
  · split
    · exact ⟨rfl, rfl⟩
    · exact ⟨rfl, rfl⟩

private theorem screen_setFocus (s : Stage) (focus : Option Nat) :
    (s.setFocus focus).screen = s.screen := by
  unfold setFocus
  split
  · rfl
  · cases s.focus <;> cases focus <;> rfl

private theorem draw_eq_calls (s : Stage) :
    s.draw.1.screen = s.screen.after [.draw s.size s.lines] ∧
      s.draw.2 = s.screen.writes [.draw s.size s.lines] :=
  ⟨rfl, (List.append_nil _).symm⟩

private theorem step_eq_calls (s : Stage) (event : Event) :
    (s.step event).1.screen = s.screen.after (s.calls event) ∧
      (s.step event).2 = s.screen.writes (s.calls event) := by
  cases event with
  | start => exact ⟨rfl, congrArg (s.screen.start.2 ++ ·) (List.append_nil _).symm⟩
  | stop => exact ⟨rfl, (List.append_nil _).symm⟩
  | draw => exact s.draw_eq_calls
  | invalidate =>
      have same : (s.blocks.map fun b => b.receive Block.invalidation).flatMap Block.lines =
          s.lines := by
        rw [List.flatMap_map]
        rfl
      rw [calls, ← same]
      exact draw_eq_calls _
  | input data =>
      rw [step, calls, input]
      split
      · exact ⟨rfl, rfl⟩
      · have same := draw_eq_calls (s.deliver data)
        rwa [(s.deliver_keeps data).1, (s.deliver_keeps data).2] at same
  | resize size =>
      rw [step, calls, resize]
      dsimp only
      split
      · exact ⟨rfl, rfl⟩
      · exact draw_eq_calls _
  | measure size => exact ⟨rfl, rfl⟩
  | setLines place lines => exact ⟨rfl, rfl⟩
  | setFocus focus => exact ⟨s.screen_setFocus focus, rfl⟩

theorem run_eq_runCalls (s : Stage) (events : List Event) :
    (s.run events).1.screen = s.screen.after (s.runCalls events) ∧
      (s.run events).2 = s.screen.writes (s.runCalls events) := by
  induction events generalizing s with
  | nil => exact ⟨rfl, rfl⟩
  | cons event events inductionHypothesis =>
      obtain ⟨screen, written⟩ := s.step_eq_calls event
      obtain ⟨behind, more⟩ := inductionHypothesis (s.step event).1
      rw [screen] at behind more
      rw [run, runCalls, Screen.after_append, Screen.writes_append, ← written]
      exact ⟨behind, congrArg _ more⟩

end Stage

namespace Session

private theorem screen_setStatus (s : Session) (text : Text) (isError : Bool) :
    (s.setStatus text isError).screen = s.screen :=
  (keeps_request _ .draw).screen

private theorem screen_finishReload (s : Session) (bytes : Bytes) :
    (s.finishReload bytes).1.screen = s.screen := by
  unfold finishReload
  split
  · exact screen_setStatus _ _ _
  · exact screen_setStatus _ _ _

private theorem screen_render
    (s : Session) (width : Nat) : (s.render width).1.screen = s.screen := by
  unfold render body
  dsimp only
  split
  · rfl
  · rfl

private theorem exists_calls_perform (s : Session) (chore : Chore) :
    ∃ calls, (s.perform chore).1.screen = s.screen.after calls := by
  cases chore with
  | draw =>
      rw [perform, draw]
      split
      · exact ⟨[.draw (s.render s.size.columns).1.size (s.render s.size.columns).2], by
          rw [← s.screen_render s.size.columns]
          rfl⟩
      · exact ⟨[], rfl⟩
  | reload => exact ⟨[], screen_setStatus _ _ _⟩
  | leave => exact ⟨[.stop], rfl⟩

private theorem exists_calls_step (s : Session) (event : Event) :
    ∃ calls, (s.step event).screen = s.screen.after calls := by
  cases event with
  | start => exact ⟨[.start], (keeps_request _ .draw).screen⟩
  | input data => exact ⟨[], (s.keeps_input data).screen⟩
  | requestReload => exact ⟨[], s.keeps_requestReload.screen⟩
  | chore =>
      rw [step]
      split
      · exact ⟨[], rfl⟩
      · exact exists_calls_perform _ _
  | finish bytes =>
      rw [step]
      split
      · exact ⟨[], s.screen_finishReload bytes⟩
      · exact ⟨[], rfl⟩
  | resize size =>
      rw [step, resize]
      dsimp only
      split
      · exact ⟨[], rfl⟩
      · exact ⟨[.resized], (keeps_request _ .draw).screen⟩
  | invalidate =>
      rw [step, invalidate]
      split
      · exact ⟨[], rfl⟩
      · exact ⟨[], (s.keeps_request .draw).screen⟩
  | status text isError => exact ⟨[], s.screen_setStatus text isError⟩

/-- Whatever happens to a session reaches its screen as some calls. -/
theorem exists_calls_run (s : Session) (events : List Event) :
    ∃ calls, (s.run events).screen = s.screen.after calls := by
  induction events generalizing s with
  | nil => exact ⟨[], rfl⟩
  | cons event events inductionHypothesis =>
      obtain ⟨first, reached⟩ := s.exists_calls_step event
      obtain ⟨calls, behind⟩ := inductionHypothesis (s.step event)
      refine ⟨first ++ calls, ?_⟩
      rw [Screen.after_append, ← reached]
      exact behind

end Session

namespace Screen

/-- The screen remembers the last mark.  A width of nought stands for no frame. -/
def Remembers (s : Screen) : (last : Option Mark) → Prop
  | none => s.width = 0
  | some .resized => s.width = 0
  | some (.frame width frame) => s.width = width ∧ s.frame = frame

section Remembers

variable {s t : Screen} {size : Size} {lines : List Text} {last : Option Mark}

theorem Remembers.of_same
    (remembers : s.Remembers last) (width : t.width = s.width) (frame : t.frame = s.frame) :
    t.Remembers last := by
  rcases last with _ | ⟨_ | _⟩
  · exact width.trans remembers
  · exact ⟨width.trans remembers.1, frame.trans remembers.2⟩
  · exact width.trans remembers

private theorem draw_of_not_canDraw (undrawable : ¬ s.canDraw size = true) :
    s.draw size lines = (s, []) :=
  if_neg undrawable

private theorem draw_of_canDraw (drawable : s.canDraw size = true) :
    s.draw size lines =
      ((s.drawFrame size.columns (frameOf size lines) (takeCursor (lines.take size.rows)).2).1,
        [(s.drawFrame size.columns (frameOf size lines)
          (takeCursor (lines.take size.rows)).2).2]) :=
  if_pos drawable

/-- Neither the end of a session nor the beginning of one changes what is
remembered. -/
theorem Remembers.answer (remembers : s.Remembers last) (call : Call) :
    (s.answer call).1.Remembers ((s.mark? call).or last) := by
  cases call with
  | start => exact remembers.of_same rfl rfl
  | stop =>
      change s.stop.1.Remembers last
      unfold Screen.stop
      split
      · exact remembers
      · exact remembers.of_same rfl rfl
  | resized => rfl
  | draw size lines =>
      rw [mark?, Screen.answer]
      by_cases drawable : s.canDraw size = true
      · rw [if_pos drawable, draw_of_canDraw drawable]
        exact ⟨rfl, rfl⟩
      · rw [if_neg drawable, draw_of_not_canDraw drawable]
        exact remembers

theorem Remembers.after (remembers : s.Remembers last) (calls : List Call) :
    (s.after calls).Remembers ((s.marks calls).getLast?.or last) := by
  induction calls generalizing s last with
  | nil => exact remembers
  | cons call calls inductionHypothesis =>
      have first : ((s.mark? call).toList).getLast? = s.mark? call := by
        cases s.mark? call <;> rfl
      -- The mark of the first call is the last one only where no later call leaves any.
      rw [marks, List.getLast?_append, first, Option.or_assoc]
      exact inductionHypothesis (remembers.answer call)

/-- A screen that drew nothing yet remembers the last mark of its run. -/
theorem remembers_after (calls : List Call) :
    (({} : Screen).after calls).Remembers (({} : Screen).marks calls).getLast? := by
  have fresh : ({} : Screen).Remembers none := rfl
  have behind := fresh.after calls
  rwa [Option.or_none] at behind

/-! ## How a frame is written -/

private theorem changeRowsBelow_self (rows : List Text) :
    changeRowsBelow rows rows = List.replicate rows.length '\n' := by
  induction rows with
  | nil => rw [changeRowsBelow, List.length_nil, List.replicate_zero]
  | cons line rows inductionHypothesis =>
      rw [changeRowsBelow, inductionHypothesis, changeRow, if_pos rfl, List.length_cons,
        List.replicate_succ]
      rfl

/-- Nothing of a frame is written that is still the same. -/
theorem changes_self (frame : List Text) :
    changes frame frame = List.replicate (frame.length - 1) '\n' := by
  cases frame with
  | nil => rfl
  | cons line rows =>
      change changeRow (some line) (some line) ++ changeRowsBelow rows rows = _
      rw [changeRowsBelow_self, changeRow, if_pos rfl]
      rfl

/-- What is written for a frame: its rows in some form, with the cursor brought to
them from the row it was left on, and then to its place. -/
def Surrounds (s : Screen) (body written : Text) : Prop :=
  ∃ rows column,
    written = hideCursor ++ moveRows (-s.cursorRow) ++ '\r' :: body ++ moveRows rows ++
      '\r' :: moveRight column

/-- All below is erased, and every line of the frame is written. -/
structure WritesWhole (s t : Screen) (written : Text) : Prop where
  counted : t.fullRedraws = s.fullRedraws + 1
  body : s.Surrounds (eraseBelow ++ wholeFrame t.frame) written

/-- Only what changed since another frame is written. -/
structure WritesChanges (s : Screen) (old : List Text) (t : Screen) (written : Text) :
    Prop where
  counted : t.fullRedraws = s.fullRedraws
  body : s.Surrounds (changes t.frame old) written

private theorem WritesChanges.not_whole {old : List Text} {written : Text}
    (changed : s.WritesChanges old t written) : ¬ s.WritesWhole t written := by
  intro whole
  have counts := changed.counted.symm.trans whole.counted
  omega

/-- A frame is written as what changed since the one remembered if that has its
width, and as a whole otherwise. -/
theorem Remembers.draw (remembers : s.Remembers last) (drawable : s.canDraw size = true) :
    ∃ t written, s.draw size lines = (t, [written]) ∧ t.frame = frameOf size lines ∧
      ((∀ old, last ≠ some (.frame size.columns old)) → s.WritesWhole t written) ∧
      ∀ old, last = some (.frame size.columns old) → s.WritesChanges old t written := by
  refine ⟨_, _, draw_of_canDraw drawable, rfl, ?_, ?_⟩
  · intro other
    have wide : size.columns ≠ 0 := by
      simp only [canDraw, Bool.and_eq_true, decide_eq_true_eq] at drawable
      exact drawable.1.2
    -- Nought, which stands for no frame, is no width that can be drawn.
    have anew : size.columns ≠ s.width := by
      intro same
      rcases last with _ | ⟨width, frame⟩ | _
      · exact wide (same.trans remembers)
      · exact other frame (by rw [same, remembers.1])
      · exact wide (same.trans remembers)
    simp only [drawFrame, anew, ne_eq, not_false_eq_true, if_true]
    exact ⟨rfl, _, _, rfl⟩
  · rintro old rfl
    obtain ⟨width, frame⟩ := remembers
    simp only [drawFrame, width, ne_eq, not_true_eq_false, if_false, ← frame]
    exact ⟨rfl, _, _, rfl⟩

end Remembers

/-- The first frame behind the beginning of a session is written as a whole exactly
if another size was noticed since that beginning, or if what came before it ended
in no frame of the same width.  Otherwise it is written as what changed since the
last frame drawn before the session. -/
theorem first_frame_writesWhole_iff
    (before between : List Call) (size : Size) (lines : List Text)
    (undrawn : ∀ mark ∈ (({} : Screen).after (before ++ [.start])).marks between,
      mark = .resized)
    (drawable :
      ((({} : Screen).after (before ++ [.start])).after between).canDraw size = true) :
    let begun := ({} : Screen).after (before ++ [.start])
    let s := begun.after between
    ∃ t written, s.draw size lines = (t, [written]) ∧ t.frame = frameOf size lines ∧
      (s.WritesWhole t written ↔
        .resized ∈ begun.marks between ∨
          ∀ old, (({} : Screen).marks before).getLast? ≠ some (.frame size.columns old)) ∧
      ∀ old, .resized ∉ begun.marks between →
        (({} : Screen).marks before).getLast? = some (.frame size.columns old) →
          s.WritesChanges old t written := by
  intro begun s
  have earlier : begun.Remembers (({} : Screen).marks before).getLast? := by
    have remembers := remembers_after (before ++ [.start])
    rwa [marks_append, show (({} : Screen).after before).marks [.start] = [] from rfl,
      List.append_nil] at remembers
  have remembers := earlier.after between
  obtain ⟨t, written, drawn, frame, whole, changed⟩ := remembers.draw drawable
  -- Without a notice nothing hides the last frame in front of the beginning.
  have unnoticed : .resized ∉ begun.marks between → begun.marks between = [] := by
    intro absent
    rw [List.eq_nil_iff_forall_not_mem]
    intro mark member
    exact absent (undrawn mark member ▸ member)
  have against : ∀ old, .resized ∉ begun.marks between →
      (({} : Screen).marks before).getLast? = some (.frame size.columns old) →
        s.WritesChanges old t written := by
    intro old absent same
    apply changed
    rw [unnoticed absent, same]
    rfl
  refine ⟨t, written, drawn, frame, ⟨?_, ?_⟩, against⟩
  · intro full
    by_contra neither
    rw [not_or, not_forall] at neither
    obtain ⟨absent, old, same⟩ := neither
    exact (against old absent (not_not.mp same)).not_whole full
  · intro either
    apply whole
    by_cases noticed : .resized ∈ begun.marks between
    · obtain ⟨mark, last⟩ :=
        Option.isSome_iff_exists.mp (List.getLast?_isSome.mpr (List.ne_nil_of_mem noticed))
      rw [last, undrawn mark (List.mem_of_getLast? last)]
      intro old same
      cases same
    · rw [unnoticed noticed]
      exact either.resolve_left noticed

/-- A notice in the new session is enough. -/
theorem first_frame_writesWhole_iff_noticed :
    ∃ t written,
      (({} : Screen).after [.start, .draw ⟨80, 24⟩ [['a']], .stop, .start, .resized]).draw
          ⟨80, 24⟩ [['a']] = (t, [written]) ∧
        (({} : Screen).after [.start, .draw ⟨80, 24⟩ [['a']], .stop, .start,
          .resized]).WritesWhole t written := by
  obtain ⟨t, written, drawn, -, whole, -⟩ :=
    first_frame_writesWhole_iff [.start, .draw ⟨80, 24⟩ [['a']], .stop] [.resized] ⟨80, 24⟩
      [['a']] (by decide) (by decide)
  exact ⟨t, written, drawn, whole.mpr (.inl (by decide))⟩

def oneLine : Stage := { blocks := [{ lines := [['a']] }], size := ⟨80, 24⟩ }

/-- A second session on an empty screen writes nothing of its frame. -/
theorem second_frame_not_whole :
    let ended := oneLine.start.1.stop.1
    let written := hideCursor ++ ['\r', '\r']
    ended.start.2 = [hideCursor, written] ∧
      ended.start.1.screen.frame = [['a']] ∧
      ¬ ended.screen.start.1.WritesWhole ended.start.1.screen written ∧
      ((Display.blank ⟨80, 24⟩).read written).cell 0 0 = ' ' := by
  intro ended written
  refine ⟨?_, rfl, ?_, by decide⟩
  · change [hideCursor, hideCursor ++ moveRows 0 ++ '\r' :: changes [['a']] [['a']] ++
      moveRows 0 ++ '\r' :: moveRight 0] = _
    rw [changes_self]
    rfl
  · intro whole
    exact absurd whole.counted (by decide)

end Screen

end Keychart.Viewer
