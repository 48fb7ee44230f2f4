import Keychart.Proofs.Viewer.ShownRows
import Mathlib.Data.Nat.Find

/-!
# Scrolling the pane

Whatever is done to a pane, a drawing first scrolls it back into its rows.  So a window
is always full if there are rows enough, and the line behind it names the rows that it
shows.  From the top, page by page, every row comes into the window.
-/

namespace Keychart.Viewer.Pane

inductive Call where
  | setKeymap (keymap : Keymap)
  | setResults (results : Option (List SearchResult))
  /-- One key, which scrolls if it triggers that. -/
  | key (data : Text)
  | scrollBy (rows : Int)
  /-- The window gets another number of rows, which is at least one. -/
  | setMaxVisible (rows : Nat) (positive : 0 < rows)
  | draw (width : Nat)

section Calls

variable (bindings : Bindings) (theme : Theme)

def call (p : Pane) : Call → Pane
  | .setKeymap keymap => p.setKeymap keymap
  | .setResults results => p.setResults results
  | .key data => (p.pressKey? bindings data).getD p
  | .scrollBy rows => p.scrollBy rows
  | .setMaxVisible rows _ => { p with maxVisible := rows }
  | .draw width => (p.render theme width).1

def run (p : Pane) (calls : List Call) : Pane := calls.foldl (call bindings theme) p

theorem run_append (p : Pane) (front back : List Call) :
    run bindings theme p (front ++ back) = run bindings theme (run bindings theme p front) back :=
  List.foldl_append

private theorem maxVisible_perform (p : Pane) (action : Action) :
    (p.perform action).maxVisible = p.maxVisible := by
  cases action <;> rfl

private theorem maxVisible_render (p : Pane) (width : Nat) :
    (p.render theme width).1.maxVisible = p.maxVisible := by
  unfold render
  split <;> rfl

/-- The window keeps at least one row. -/
theorem maxVisible_call_pos {p : Pane} (positive : 0 < p.maxVisible) (c : Call) :
    0 < (call bindings theme p c).maxVisible := by
  cases c with
  | setKeymap keymap => exact positive
  | setResults results => exact positive
  | key data =>
      rw [call, pressKey?]
      cases scrollActions.find? fun a => bindings.triggers data a with
      | none => exact positive
      | some action =>
          rw [Option.map_some, Option.getD_some, maxVisible_perform]
          exact positive
  | scrollBy rows => exact positive
  | setMaxVisible rows some => exact Int.natCast_pos.mpr some
  | draw width =>
      rw [call, maxVisible_render]
      exact positive

private theorem maxVisible_run_pos {p : Pane} (positive : 0 < p.maxVisible) (calls : List Call) :
    0 < (run bindings theme p calls).maxVisible := by
  induction calls generalizing p with
  | nil => exact positive
  | cons c calls inductionHypothesis =>
      exact inductionHypothesis (maxVisible_call_pos bindings theme positive c)

end Calls

/-- The number of rows that a full window shows: all rows, or as many as there is room
for. -/
def shownCount (p : Pane) : Nat := min p.maxVisible.toNat p.rowCount

section Window

variable {p : Pane} (positive : 0 < p.maxVisible)
include positive

private theorem maxScroll_add_shownCount : p.maxScroll + p.shownCount = p.rowCount := by
  rw [maxScroll, shownCount]
  omega

private theorem windowEnd_eq (inRows : p.scroll ≤ p.maxScroll) :
    p.windowEnd = (p.scroll + p.shownCount : Nat) := by
  rw [maxScroll] at inRows
  rw [windowEnd, shownCount]
  omega

/-- A pane that is scrolled into its rows shows a full window. -/
theorem window_eq (inRows : p.scroll ≤ p.maxScroll) :
    p.window = (p.rows.drop p.scroll).take p.shownCount := by
  rw [window, windowEnd_eq positive inRows, if_neg (Int.not_lt.mpr (Int.natCast_nonneg _)),
    Int.toNat_natCast, List.drop_take, Nat.add_sub_cancel_left]

private theorem renderRows_eq (inRows : p.scroll ≤ p.maxScroll) (theme : Theme) (width : Nat) :
    p.renderRows theme width =
      ((p.rows.drop p.scroll).take p.shownCount).map
          (renderRow theme p.results.isSome (p.keysWidth width) width) ++
        if p.shownCount < p.rowCount then
          [renderPlace theme width (p.scroll + 1) (p.scroll + p.shownCount : Nat) p.rowCount]
        else [] := by
  have all := maxScroll_add_shownCount positive
  rw [renderRows, window_eq positive inRows, windowEnd_eq positive inRows]
  by_cases hidden : p.shownCount < p.rowCount
  · rw [if_pos hidden, if_pos ?_]
    simp only [Bool.or_eq_true, decide_eq_true_eq]
    omega
  · rw [if_neg hidden, if_neg ?_, List.append_nil]
    simp only [Bool.or_eq_true, decide_eq_true_eq]
    omega

end Window

/-- Whether lines say which rows a pane shows: one does exactly if there are others. -/
inductive SaysPlace (p : Pane) (theme : Theme) (width : Nat) : List Text → Prop
  | all (every : p.shownCount = p.rowCount) : SaysPlace p theme width []
  | some {line : Text} (hidden : p.shownCount < p.rowCount)
      (shows : DrawsPlace theme width (p.scroll + 1) (p.scroll + p.shownCount) p.rowCount line) :
      SaysPlace p theme width [line]

/-- Whether lines are the drawing of a window of rows: as many rows in turn as there is
room for, from the one that the pane is scrolled to, and what says which they are. -/
structure DrawsWindow (p : Pane) (theme : Theme) (width : Nat) (lines : List Text) : Prop where
  inRows : (p.scroll : Int) ≤ max 0 (p.rowCount - p.maxVisible)
  full : p.scroll + p.shownCount ≤ p.rowCount
  drawn : ∃ column rows place, lines = rows ++ place ∧ KeysColumn p.rows width column ∧
    List.Forall₂ (DrawsRow theme p.results.isSome column width)
      ((p.rows.drop p.scroll).take p.shownCount) rows ∧
    SaysPlace p theme width place

theorem DrawsWindow.length_le
    {p : Pane} {theme : Theme} {width : Nat} {lines : List Text}
    (h : p.DrawsWindow theme width lines) :
    lines.length ≤ p.shownCount + 1 := by
  obtain ⟨column, rows, place, rfl, -, shown, last⟩ := h.drawn
  have most : rows.length ≤ p.shownCount := by
    rw [← shown.length_eq]
    exact List.length_take_le _ _
  rw [List.length_append]
  cases last with
  | all every => exact Nat.le_succ_of_le most
  | some hidden shows => exact Nat.succ_le_succ most

private theorem renderRows_drawsWindow
    {p : Pane} (positive : 0 < p.maxVisible) (inRows : p.scroll ≤ p.maxScroll) (theme : Theme)
    (width : Nat) :
    p.DrawsWindow theme width (p.renderRows theme width) := by
  have all := maxScroll_add_shownCount positive
  refine ⟨?_, by omega, p.keysWidth width, _, _, renderRows_eq positive inRows theme width,
    keysColumn_keysWidth p width, ?_, ?_⟩
  · rw [maxScroll] at inRows
    omega
  · rw [List.forall₂_map_right_iff]
    exact List.forall₂_same.mpr fun row _ =>
      drawsRow_renderRow theme p.results.isSome (p.keysWidth width) width row
  · split
    · next hidden => exact .some hidden (drawsPlace_renderPlace theme width _ _ _)
    · next every => exact .all (by omega)

/-- A drawing scrolls back at most, and shows a full window. -/
theorem render_drawsWindow
    {p : Pane} (positive : 0 < p.maxVisible) (some : p.rows ≠ []) (theme : Theme) (width : Nat) :
    (p.render theme width).1 = p.clamp ∧
      p.clamp.DrawsWindow theme width (p.render theme width).2 := by
  have drawn : p.render theme width = (p.clamp, p.clamp.renderRows theme width) := by
    rw [render, if_neg (by rwa [List.isEmpty_iff])]
  rw [drawn]
  exact ⟨rfl, renderRows_drawsWindow (p := p.clamp) positive (Nat.min_le_right ..) theme width⟩

/-! ## Page by page -/

def scrolledTo (p : Pane) (row : Nat) : Pane := { p with scroll := row }

def pageRows (p : Pane) : Nat := max 1 (p.maxVisible.toNat - 1)

private theorem page_eq (p : Pane) : p.page = p.pageRows := by
  rw [page, pageRows]
  omega

private theorem perform_pageDown_scrolledTo (p : Pane) (row : Nat) :
    (p.scrolledTo row).perform .pageDown =
      p.scrolledTo (min (row + p.pageRows) p.maxScroll) := by
  have down : ((row : Int) + (p.scrolledTo row).page).toNat = row + p.pageRows := by
    rw [page_eq]
    exact Int.toNat_natCast _
  change { p with scroll := min ((row : Int) + (p.scrolledTo row).page).toNat p.maxScroll } = _
  rw [down]
  rfl

private theorem render_scrolledTo
    {p : Pane} {row : Nat} (inRows : row ≤ p.maxScroll) (theme : Theme)
    (width : Nat) :
    ((p.scrolledTo row).render theme width).1 = p.scrolledTo row := by
  unfold render
  split
  · rfl
  · change { p with scroll := min row p.maxScroll } = _
    rw [Nat.min_eq_left inRows]
    rfl

/-- What a key scrolls, if it does: of the actions that it triggers, the first one. -/
def scrollOf (bindings : Bindings) (data : Text) : Option Action :=
  scrollActions.find? fun a => bindings.triggers data a

/-- A key to the top and a number of keys down by a page, with a drawing behind each. -/
def pageCalls (top down : Text) (widths : Nat → Nat) (pages : Nat) : List Call :=
  [.key top, .draw (widths 0)] ++
    (List.range pages).flatMap fun k => [.key down, .draw (widths (k + 1))]

theorem pageCalls_succ (top down : Text) (widths : Nat → Nat) (pages : Nat) :
    pageCalls top down widths (pages + 1) =
      pageCalls top down widths pages ++ [.key down, .draw (widths (pages + 1))] := by
  rw [pageCalls, List.range_succ, List.flatMap_append, ← List.append_assoc]
  rfl

/-- Whether the windows of some panes over the same rows, one behind the other up to the
first that is followed by itself, show every row, and the last one shows the last row. -/
structure ShowsAll (rows : List Row) (panes : Nat → Pane) (last : Nat) : Prop where
  same : ∀ k, (panes k).rows = rows
  moves : ∀ k < last, (panes (k + 1)).scroll ≠ (panes k).scroll
  stops : (panes (last + 1)).scroll = (panes last).scroll
  every : ∀ i < rows.length, ∃ k ≤ last,
    (panes k).scroll ≤ i ∧ i < (panes k).scroll + (panes k).shownCount
  ends : (panes last).scroll + (panes last).shownCount = rows.length

/-- As no page is longer than the window, no row is left out. -/
theorem showsAll_scrolledTo {p : Pane} (positive : 0 < p.maxVisible) :
    ∃ last, ShowsAll p.rows (fun k => p.scrolledTo (min (k * p.pageRows) p.maxScroll)) last := by
  have pagePositive : 0 < p.pageRows := Nat.le_max_left ..
  have all : p.maxScroll + p.shownCount = p.rows.length := maxScroll_add_shownCount positive
  have overlaps : 0 < p.maxScroll → p.pageRows ≤ p.shownCount := by
    rw [maxScroll, pageRows, shownCount]
    omega
  have reached : ∃ k, p.maxScroll ≤ k * p.pageRows :=
    ⟨p.maxScroll, Nat.le_mul_of_pos_right _ pagePositive⟩
  have before {k : Nat} (early : k < Nat.find reached) : k * p.pageRows < p.maxScroll :=
    Nat.lt_of_not_le (Nat.find_min reached early)
  have bottom := Nat.find_spec reached
  have further (k : Nat) : (k + 1) * p.pageRows = k * p.pageRows + p.pageRows := Nat.succ_mul ..
  refine ⟨Nat.find reached, fun _ => rfl, fun k early => ?_, ?_, fun i inside => ?_, ?_⟩
  · have above := before early
    have next := further k
    simp only [scrolledTo]
    omega
  · have next := further (Nat.find reached)
    simp only [scrolledTo]
    omega
  · by_cases lastPage : p.maxScroll ≤ i
    · refine ⟨Nat.find reached, Nat.le_refl _, ?_⟩
      change min _ p.maxScroll ≤ i ∧ i < min _ p.maxScroll + p.shownCount
      omega
    · -- The row stands on the page that it is divided to.
      have lower : i / p.pageRows * p.pageRows ≤ i := Nat.div_mul_le_self ..
      have upper : i < i / p.pageRows * p.pageRows + p.pageRows := Nat.lt_div_mul_add pagePositive
      have early : i / p.pageRows ≤ Nat.find reached := by
        refine Nat.le_of_lt (Nat.lt_of_mul_lt_mul_right (a := p.pageRows) ?_)
        omega
      have overlap := overlaps (by omega)
      refine ⟨i / p.pageRows, early, ?_⟩
      change min _ p.maxScroll ≤ i ∧ i < min _ p.maxScroll + p.shownCount
      omega
  · change min _ p.maxScroll + p.shownCount = p.rows.length
    omega

section Pages

variable (bindings : Bindings) (theme : Theme) {top down : Text}
  (goesUp : scrollOf bindings top = some .scrollTop)
  (goesDown : scrollOf bindings down = some .pageDown) (p : Pane) (widths : Nat → Nat)
include goesUp goesDown

/-- Page by page the pane scrolls as far as there are rows. -/
theorem run_pageCalls (pages : Nat) :
    run bindings theme p (pageCalls top down widths pages) =
      p.scrolledTo (min (pages * p.pageRows) p.maxScroll) := by
  have press {data : Text} {action : Action} (scrolls : scrollOf bindings data = some action)
      (q : Pane) : call bindings theme q (.key data) = q.perform action := by
    rw [call, pressKey?]
    rw [scrollOf] at scrolls
    rw [scrolls]
    rfl
  induction pages with
  | zero =>
      rw [Nat.zero_mul, Nat.zero_min]
      change call bindings theme (call bindings theme p (.key top)) (.draw (widths 0)) = _
      rw [press goesUp]
      exact render_scrolledTo (Nat.zero_le _) theme (widths 0)
  | succ pages inductionHypothesis =>
      rw [pageCalls_succ, run_append, inductionHypothesis]
      change call bindings theme (call bindings theme _ (.key down)) (.draw _) = _
      rw [press goesDown, perform_pageDown_scrolledTo, call,
        render_scrolledTo (Nat.min_le_right ..)]
      have next : (pages + 1) * p.pageRows = pages * p.pageRows + p.pageRows := Nat.succ_mul ..
      congr 1
      omega

end Pages

def layoutKeymap : Keymap where
  sections :=
    [{ keybinds := [{ keys := ['a'] }, { keys := ['b'] }] },
     { name := some (Text.ofString "Layout"), keybinds := [{ keys := ['c'] }, { keys := ['d'] }] }]

end Keychart.Viewer.Pane
