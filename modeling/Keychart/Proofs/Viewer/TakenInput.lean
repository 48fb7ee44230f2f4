import Keychart.Proofs.Viewer.Pasting
import Keychart.Proofs.Viewer.TakenKeys
import Keychart.Viewer.Session.Basic

/-!
# Input of a session

Input keeps the keys and the screen and takes no chore back.  What is taken leaves
the query alone, and all else is read by it.
-/

namespace Keychart.Viewer.Session

/-- Sessions of the same keys on the same screen.  Chores are only added. -/
structure Keeps (s t : Session) : Prop where
  bindings : t.bindings = s.bindings
  screen : t.screen = s.screen
  chores : s.chores ⊆ t.chores

section Keeps

variable {s t u : Session} {data : Text}

theorem Keeps.refl (s : Session) : s.Keeps s := ⟨rfl, rfl, List.Subset.refl _⟩

theorem Keeps.trans (first : s.Keeps t) (second : t.Keeps u) : s.Keeps u :=
  ⟨second.bindings.trans first.bindings, second.screen.trans first.screen,
    List.Subset.trans first.chores second.chores⟩

/-- Asking for a chore changes the chores alone. -/
theorem request_eq (s : Session) (chore : Chore) :
    s.request chore =
      { s with
        chores := if s.chores.contains chore then s.chores else s.chores ++ [chore] } := by
  unfold request
  split <;> rfl

theorem mem_chores_request (s : Session) (chore other : Chore) :
    other ∈ (s.request chore).chores ↔ other ∈ s.chores ∨ other = chore := by
  unfold request
  split
  next waiting =>
    have member : chore ∈ s.chores := List.contains_iff_mem.mp waiting
    constructor
    · exact Or.inl
    · intro either
      rcases either with before | same
      · exact before
      · exact same ▸ member
  next => rw [List.mem_append, List.mem_singleton]

theorem keeps_request (s : Session) (chore : Chore) : s.Keeps (s.request chore) := by
  refine ⟨?_, ?_, ?_⟩
  · rw [request_eq]
  · rw [request_eq]
  · intro other before
    exact (s.mem_chores_request chore other).mpr (Or.inl before)

theorem keeps_requestReload (s : Session) : s.Keeps s.requestReload := by
  unfold requestReload
  split
  · exact Keeps.refl s
  · exact s.keeps_request .reload

private theorem keeps_edit (s : Session) (data : Text) : s.Keeps (s.edit data) := by
  unfold edit
  dsimp only
  split
  · exact ⟨rfl, rfl, List.Subset.refl _⟩
  · exact ⟨rfl, rfl, List.Subset.refl _⟩

private theorem keeps_handle (s : Session) (data : Text) : s.Keeps (s.handle data) := by
  unfold handle
  split
  · exact s.keeps_request .leave
  · split
    · exact s.keeps_requestReload
    · split
      · exact ⟨rfl, rfl, List.Subset.refl _⟩
      · exact s.keeps_edit data

theorem input_of_running (running : s.screen.stopped = false) (data : Text) :
    s.input data = (s.handle data).requestDraw := by
  rw [input, running]
  rfl

theorem keeps_input (s : Session) (data : Text) : s.Keeps (s.input data) := by
  unfold input
  split
  · exact Keeps.refl s
  · exact (s.keeps_handle data).trans ((s.handle data).keeps_request .draw)

private theorem keeps_foldl_input (s : Session) (items : List Text) :
    s.Keeps (items.foldl input s) := by
  induction items generalizing s with
  | nil => exact Keeps.refl s
  | cons item items inductionHypothesis =>
      exact (s.keeps_input item).trans (inductionHypothesis (s.input item))

/-- Once the end is asked for, no input takes that back. -/
theorem leave_mem_chores_foldl_input
    {items : List Text} {item : Text} (running : s.screen.stopped = false)
    (member : item ∈ items) (quits : s.bindings.triggers item .quit = true) :
    .leave ∈ (items.foldl input s).chores := by
  induction items generalizing s with
  | nil => cases member
  | cons first items inductionHypothesis =>
      have kept := s.keeps_input first
      rcases List.mem_cons.mp member with same | later
      · subst same
        have handled : s.handle item = s.quit := if_pos quits
        have asked : .leave ∈ (s.input item).chores := by
          rw [input_of_running running, handled]
          apply ((s.quit).keeps_request .draw).chores
          exact (s.mem_chores_request .leave .leave).mpr (Or.inr rfl)
        exact ((s.input item).keeps_foldl_input items).chores asked
      · apply inductionHypothesis
        · rw [kept.screen]
          exact running
        · exact later
        · rw [kept.bindings]
          exact quits

end Keeps

section Reaches

variable {s : Session} {data : Text}

theorem handle_of_not_takes (free : s.bindings.takes data = false) :
    s.handle data = s.edit data := by
  have silent := List.any_eq_false.mp free
  have noQuit : ¬ s.bindings.triggers data .quit = true :=
    silent .quit (List.Mem.head _)
  have noReload : ¬ s.bindings.triggers data .reload = true :=
    silent .reload (List.Mem.tail _ (List.Mem.head _))
  have noScroll :
      (Pane.scrollActions.find? fun action => s.bindings.triggers data action) = none := by
    rw [List.find?_eq_none]
    intro action member
    exact silent action (List.Mem.tail _ (List.Mem.tail _ member))
  have unmoved : s.pane.pressKey? s.bindings data = none := by
    rw [Pane.pressKey?, noScroll, Option.map_none]
  rw [handle, if_neg noQuit, if_neg noReload, unmoved]

theorem query_request (s : Session) (chore : Chore) : (s.request chore).query = s.query := by
  rw [request_eq]

private theorem query_handle_of_takes (taken : s.bindings.takes data = true) :
    (s.handle data).query = s.query := by
  unfold handle
  split
  next => exact s.query_request .leave
  next noQuit =>
    split
    next =>
      unfold requestReload
      split
      · rfl
      · exact s.query_request .reload
    next noReload =>
      split
      next => rfl
      next unmoved =>
        -- what is taken is then a key of the pane
        have noScroll := List.find?_eq_none.mp (Option.map_eq_none_iff.mp unmoved)
        obtain ⟨action, member, triggered⟩ := List.any_eq_true.mp taken
        rcases List.mem_cons.mp member with quit | others
        · exact absurd (quit ▸ triggered) noQuit
        · rcases List.mem_cons.mp others with reload | scroll
          · exact absurd (reload ▸ triggered) noReload
          · exact absurd triggered (noScroll action scroll)

private theorem query_edit (s : Session) (data : Text) :
    (s.edit data).query = s.query.read s.bindings data := by
  unfold edit
  dsimp only
  split <;> rfl

/-- What the query holds of a character grows by what reaches it. -/
theorem held_input_le (s : Session) (data : Text) (c : Char) :
    (s.input data).query.held c ≤
      s.query.held c + if s.bindings.takes data then 0 else data.count c := by
  unfold input
  split
  · exact Nat.le_add_right _ _
  · rw [requestDraw, query_request]
    by_cases taken : s.bindings.takes data = true
    · rw [query_handle_of_takes taken]
      exact Nat.le_add_right _ _
    · rw [if_neg taken, handle_of_not_takes (Bool.not_eq_true _ ▸ taken), query_edit]
      exact Query.held_read_le s.bindings s.query data c

/-- Over a run, the query holds no more of a character than it held and what came
in without the keys that were taken. -/
theorem held_foldl_input_add_le (s : Session) (items : List Text) (c : Char) :
    (items.foldl input s).query.held c + (items.filter s.bindings.takes).flatten.count c ≤
      s.query.held c + items.flatten.count c := by
  induction items generalizing s with
  | nil => exact Nat.le_refl _
  | cons item items inductionHypothesis =>
      have first := s.held_input_le item c
      have rest := inductionHypothesis (s.input item)
      rw [(s.keeps_input item).bindings] at rest
      rw [List.foldl_cons, List.flatten_cons, List.count_append]
      by_cases taken : s.bindings.takes item = true
      · rw [if_pos taken] at first
        rw [List.filter_cons_of_pos taken, List.flatten_cons, List.count_append]
        omega
      · rw [if_neg taken] at first
        rw [List.filter_cons_of_neg taken]
        omega

end Reaches

end Keychart.Viewer.Session
