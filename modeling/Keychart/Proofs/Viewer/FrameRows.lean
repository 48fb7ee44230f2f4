import Keychart.Proofs.Viewer.RowWidths
import Keychart.Viewer.Session.Frame

/-!
# The rows of a frame

A frame has a line for every row of the terminal, and the status stands on the last.
From seven rows on there is room for everything between: the lines of the header, all
that the pane draws, and empty lines below.
-/

namespace Keychart.Viewer.Session

open Text

/-- Whether a line is drawn over a width: with spaces behind it, or cut if it is wider. -/
inductive DrawsOver (background : Style) (width : Nat) (line : Text) : Text → Prop
  | padded (some : 0 < width) (fits : visibleWidth line ≤ width) :
      DrawsOver background width line
        (background.apply (line ++ List.replicate (width - visibleWidth line) ' '))
  | cut {shown : Text} (wide : width = 0 ∨ width < visibleWidth line)
      (fitted : ShownIn width ['.', '.', '.'] line shown) :
      DrawsOver background width line
        (background.apply (shown ++ List.replicate (width - visibleWidth shown) ' '))

/-- Whether a line is the status, in the style of errors if it is one. -/
def DrawsStatus (s : Session) (width : Nat) (drawn : Text) : Prop :=
  ∃ shown, ShownIn width ['.', '.', '.'] s.status.text shown ∧
    DrawsOver s.theme.background width
      ((if s.status.isError then s.theme.error else s.theme.status).apply shown) drawn

def fittedPane (s : Session) : Pane := { s.pane with maxVisible := paneRows s.size.rows }

/-- The lines of the list: those that the pane draws, or a note in their place if the
source marks no region. -/
def listLines (s : Session) (width : Nat) : List Text :=
  if s.store.keymap.hasRegion then (s.fittedPane.render s.theme width).2
  else [s.theme.noMatch.apply (shorten width s.noRegionText)]

def headerLines (s : Session) (width : Nat) : List Text :=
  [s.titleLine width, [], s.queryLine width, []]

/-- Whether a frame has all lines of the list behind the header, and only empty lines and
the last one below. -/
structure HoldsList (s : Session) (width : Nat) (header list empty : List Text) : Prop where
  header : List.Forall₂ (DrawsOver s.theme.background width) (s.headerLines width) header
  list : List.Forall₂ (DrawsOver s.theme.background width) (s.listLines width) list
  empty : ∀ line ∈ empty, line = s.theme.background.apply (List.replicate width ' ')

def finish (s : Session) (width : Nat) (line : Text) : Text :=
  s.theme.background.apply (fit width line)

private theorem drawsOver_finish (s : Session) (width : Nat) (line : Text) :
    DrawsOver s.theme.background width line (s.finish width line) := by
  rw [finish, fit_eq_fill]
  by_cases fits : 0 < width ∧ visibleWidth line ≤ width
  · have whole : shorten width line = line := by
      rw [shorten, truncate, if_neg (Nat.ne_of_gt fits.1), if_pos fits.2]
      rfl
    rw [whole]
    exact .padded fits.1 fits.2
  · exact .cut (by omega) (shownIn_truncate width dots line)

theorem finish_nil (s : Session) (width : Nat) :
    s.finish width [] = s.theme.background.apply (List.replicate width ' ') := by
  have nothing : shorten width [] = [] := by
    rw [shorten, truncate]
    split <;> rfl
  rw [finish, fit_eq_fill, nothing]
  rfl

private theorem drawsStatus_statusLine (s : Session) (width : Nat) :
    s.DrawsStatus width (s.finish width (s.statusLine width)) :=
  ⟨_, shownIn_truncate _ _ _, s.drawsOver_finish width _⟩

private theorem fittedPane_maxVisible_pos (s : Session) : 0 < s.fittedPane.maxVisible :=
  Int.natCast_pos.mpr (Nat.le_max_left ..)

private theorem length_listLines_le (s : Session) (width : Nat) :
    (s.listLines width).length ≤ paneRows s.size.rows + 1 := by
  rw [listLines]
  split
  · by_cases nothing : s.fittedPane.rows = []
    · rw [Pane.render, if_pos (by rw [nothing]; rfl)]
      dsimp only
      split
      · exact Nat.zero_le _
      · exact Nat.le_add_left ..
    · have drawn := (Pane.render_drawsWindow s.fittedPane_maxVisible_pos nothing s.theme width).2
      have shown : s.fittedPane.clamp.shownCount ≤ paneRows s.size.rows := Nat.min_le_left ..
      exact Nat.le_trans drawn.length_le (Nat.succ_le_succ shown)
  · exact Nat.le_add_left ..

private theorem length_fitRows
    (rows : Nat) (lines : List Text) : (fitRows rows lines).length = rows := by
  rw [fitRows, List.length_append, List.length_take, List.length_replicate]
  omega

private theorem fitRows_of_le {rows : Nat} {lines : List Text} (fit : lines.length ≤ rows) :
    fitRows rows lines = lines ++ List.replicate (rows - lines.length) [] := by
  rw [fitRows, List.take_of_length_le fit]

private theorem render_eq (s : Session) (width : Nat) :
    (s.render width).2 =
      (fitRows (s.size.rows - 1) (s.headerLines width ++ s.listLines width) ++
        [s.statusLine width]).map (s.finish width) := by
  unfold render body listLines
  dsimp only
  split <;> rfl

private theorem forall₂_map_finish (s : Session) (width : Nat) (lines : List Text) :
    List.Forall₂ (DrawsOver s.theme.background width) lines (lines.map (s.finish width)) :=
  List.forall₂_map_right_iff.mpr (List.forall₂_same.mpr fun line _ => s.drawsOver_finish width line)

def shortSession : Session :=
  ofStore (.ofKeymap { names := [['k']] } { Pane.layoutKeymap with hasRegion := true }) .plain
    .usual ⟨20, 8⟩

def narrowSession : Session :=
  ofStore
    (.ofKeymap { names := [['k']] }
      { hasRegion := true, sections := [{ keybinds := [{ keys := ofString "M-C-S-ab" }] }] })
    .plain .usual ⟨8, 7⟩

end Keychart.Viewer.Session
