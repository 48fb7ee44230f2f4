import Keychart.Viewer.Session.Frame

/-!
# Running a session

Chores are done in their order until none is left.  A reload that one of them
began ends behind them all; then the chores that its end asked for are done.
-/

namespace Keychart.Viewer.Session

/-- What one turn wrote to the terminal, string by string, and what it
reported. -/
structure Output where
  written : List Text := []
  records : List Log.Record := []
deriving DecidableEq, Repr

def draw (s : Session) : Session × List Text :=
  if s.screen.canDraw s.size then
    let (s, lines) := s.render s.size.columns
    let (screen, written) := s.screen.draw s.size lines
    ({ s with screen := screen }, written)
  else (s, [])

/-- Ends the session.  A reload that waits or runs comes to nothing. -/
def leave (s : Session) : Session × List Text :=
  let (screen, written) := s.screen.stop
  ({ s with screen := screen, chores := s.chores.filter (· ≠ .reload), loading := false },
    written)

def perform (s : Session) : Chore → Session × List Text
  | .draw => s.draw
  | .reload => (s.beginReload, [])
  | .leave => s.leave

/-- A bound for the number of chores that a chore makes. -/
def cost : Chore → Nat
  | .draw => 1
  | .reload => 2
  | .leave => 1

/-- A bound for the number of chores that are done before none is left. -/
def totalCost (chores : List Chore) : Nat := Number.total (chores.map cost)

theorem chores_draw (s : Session) : s.draw.1.chores = s.chores := by
  unfold draw render body
  split
  · dsimp only
    split <;> rfl
  · rfl

theorem totalCost_request_draw (s : Session) :
    totalCost s.requestDraw.chores ≤ totalCost s.chores + 1 := by
  unfold requestDraw request
  split
  · exact Nat.le_succ _
  · simp only [totalCost, cost, List.map_append, Number.total_append, List.map_cons,
      List.map_nil, Number.total_cons, Number.total_nil]
    omega

theorem totalCost_filter (p : Chore → Bool) (chores : List Chore) :
    totalCost (chores.filter p) ≤ totalCost chores := by
  induction chores with
  | nil => exact Nat.le_refl _
  | cons chore chores ih =>
    simp only [totalCost, List.map_cons, Number.total_cons] at ih ⊢
    by_cases h : p chore
    · simp only [List.filter_cons_of_pos h, List.map_cons, Number.total_cons]
      omega
    · simp only [List.filter_cons_of_neg h]
      omega

theorem totalCost_perform (s : Session) (chore : Chore) :
    totalCost (s.perform chore).1.chores < cost chore + totalCost s.chores := by
  cases chore with
  | draw =>
    simp only [perform, chores_draw, cost]
    omega
  | reload =>
    exact Nat.lt_of_le_of_lt (totalCost_request_draw _) (by simp only [cost]; omega)
  | leave =>
    have := totalCost_filter (· ≠ Chore.reload) s.chores
    simp only [perform, leave, cost]
    omega

/-- Does all chores, also those that come up meanwhile. -/
def work (s : Session) : Session × List Text :=
  match _waiting : s.chores with
  | [] => (s, [])
  | chore :: chores =>
    let next := perform { s with chores := chores } chore
    let done := work next.1
    (done.1, next.2 ++ done.2)
termination_by totalCost s.chores
decreasing_by
  have := totalCost_perform { s with chores := chores } chore
  simp only [_waiting, totalCost, List.map_cons, Number.total_cons] at this ⊢
  omega

/-- Does all chores and ends a reload that they began, given what the system then
says of the file. -/
def settle (s : Session) (bytes : Bytes) : Session × Output :=
  let (s, written) := s.work
  if s.loading then
    let (s, records) := s.finishReload bytes
    let (s, more) := s.work
    (s, ⟨written ++ more, records⟩)
  else (s, ⟨written, []⟩)

def start (s : Session) (bytes : Bytes) : Session × Output :=
  let (screen, written) := s.screen.start
  let (s, output) := ({ s with screen := screen } : Session).requestDraw.settle bytes
  (s, { output with written := written ++ output.written })

end Keychart.Viewer.Session
