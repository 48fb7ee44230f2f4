import Keychart.Proofs.Viewer.TakenInput

/-!
# Pastes that come in several reads

A paste that the terminal hands over in one read is one item of input, and goes
to the query.  Cut into several reads, what comes behind the first is split into
keys, and the session and the pane take theirs before the query sees them.  So
the cut shows exactly when there is such a key in the later reads.
-/

namespace Keychart.Viewer

/-- What input can change that shows: the text, the cursor, the first row, and
whether the end or a reload is asked for. -/
structure Seen where
  value : Text
  cursor : Nat
  scroll : Nat
  leaves : Bool
  reloads : Bool
deriving DecidableEq, Repr

namespace Session

def seen (s : Session) : Seen :=
  ⟨s.query.value, s.query.cursor, s.pane.scroll, s.chores.contains .leave,
    s.chores.contains .reload⟩

theorem leaves_seen_iff {s : Session} : s.seen.leaves = true ↔ .leave ∈ s.chores :=
  List.contains_iff_mem

def receive (s : Session) (read : Text) : Session := (Key.splitInput read).foldl input s

def receiveAll (s : Session) (reads : List Text) : Session := reads.foldl receive s

private theorem receiveAll_eq_foldl_input (s : Session) (reads : List Text) :
    s.receiveAll reads = (reads.flatMap Key.splitInput).foldl input s :=
  List.foldl_flatMap.symm

/-- The session that waits for the end of a paste. -/
def awaiting (s : Session) (arrived : Text) : Session :=
  { s with query.paste := some arrived }.requestDraw

def withQuery (s : Session) (query : Query) : Session :=
  if query.value = s.query.value then { s with query := query }
  else { s with query := query }.refresh

def pasted (s : Session) (text : Text) : Session :=
  (s.withQuery (s.query.closed text)).requestDraw

section Paste

variable {s : Session} {data arrived text : Text}

private theorem edit_eq_withQuery (s : Session) (data : Text) :
    s.edit data = s.withQuery (s.query.read s.bindings data) := rfl

private theorem requestDraw_requestDraw
    (s : Session) : s.requestDraw.requestDraw = s.requestDraw := by
  have asked : .draw ∈ s.requestDraw.chores :=
    (s.mem_chores_request .draw .draw).mpr (Or.inr rfl)
  have same : s.requestDraw.request .draw = s.requestDraw :=
    if_pos (List.contains_iff_mem.mpr asked)
  exact same

private theorem input_of_not_takes (running : s.screen.stopped = false)
    (free : s.bindings.takes data = false) :
    s.input data = (s.withQuery (s.query.read s.bindings data)).requestDraw := by
  rw [input_of_running running, handle_of_not_takes free, edit_eq_withQuery]

theorem takes_pasteStart_append (bindings : Bindings) (text : Text) :
    bindings.takes (Key.pasteStart ++ text) = false :=
  Bindings.takes_of_parse?_none (Key.parse?_pasteStart_append text)

private theorem withQuery_paste (s : Session) (paste : Option Text) :
    s.withQuery { s.query with paste := paste } =
      { s with query.paste := paste } :=
  if_pos rfl

/-- A read that begins a paste and does not end it. -/
theorem receive_pasteStart_append (running : s.screen.stopped = false)
    (noEnd : ¬ Key.pasteEnd <:+: text) :
    s.receive (Key.pasteStart ++ text) = s.awaiting text := by
  have free := takes_pasteStart_append s.bindings text
  rw [receive, Key.splitInput_pasteStart_append noEnd, List.foldl_cons, List.foldl_nil,
    input_of_not_takes running free,
    Query.read_pasteStart_append_of_noEnd s.bindings s.query noEnd, withQuery_paste,
    awaiting]

/-- A paste in one read: its lines are inserted, and nothing is asked for but a
frame. -/
theorem receive_bracketed (running : s.screen.stopped = false) (pastable : Key.Pastable text) :
    s.receive (Key.bracketed text) = s.pasted text := by
  have free := takes_pasteStart_append s.bindings (text ++ Key.pasteEnd)
  rw [receive, pastable.splitInput_bracketed, List.foldl_cons, List.foldl_nil,
    Key.bracketed, input_of_not_takes running free, ← Key.bracketed,
    Query.read_bracketed s.bindings s.query pastable, pasted]

private theorem keeps_awaiting (s : Session) (arrived : Text) : s.Keeps (s.awaiting arrived) :=
  have asked := ({ s with query.paste := some arrived } : Session).keeps_request .draw
  ⟨asked.bindings, asked.screen, asked.chores⟩

private theorem query_awaiting (s : Session) (arrived : Text) :
    (s.awaiting arrived).query = { s.query with paste := some arrived } :=
  query_request _ .draw

private theorem withQuery_awaiting (s : Session) (arrived : Text) (query : Query) :
    (s.awaiting arrived).withQuery query = (s.withQuery query).requestDraw := by
  have sameValue : (s.awaiting arrived).query.value = s.query.value := by
    rw [query_awaiting]
    rfl
  unfold withQuery
  rw [sameValue]
  by_cases same : query.value = s.query.value
  · rw [if_pos same, if_pos same, awaiting, requestDraw, requestDraw, request_eq, request_eq]
  · rw [if_neg same, if_neg same, awaiting, requestDraw, requestDraw, request_eq, request_eq]
    rfl

/-- Behind the first read, input that is not taken is read as part of the paste. -/
theorem input_awaiting (running : s.screen.stopped = false)
    (free : s.bindings.takes data = false) :
    (s.awaiting arrived).input data =
      (s.withQuery
        ({ s.query with paste := some arrived }.read s.bindings data)).requestDraw := by
  have kept := s.keeps_awaiting arrived
  have stillRunning : (s.awaiting arrived).screen.stopped = false := by
    rw [kept.screen]
    exact running
  have stillFree : (s.awaiting arrived).bindings.takes data = false := by
    rw [kept.bindings]
    exact free
  rw [input_of_not_takes stillRunning stillFree, withQuery_awaiting,
    requestDraw_requestDraw, kept.bindings, query_awaiting]

private theorem input_awaiting_of_noEnd (running : s.screen.stopped = false)
    (free : s.bindings.takes data = false) (noStart : ¬ Key.pasteStart <:+: data)
    (noEnd : ¬ Key.pasteEnd <:+: arrived ++ data) :
    (s.awaiting arrived).input data = s.awaiting (arrived ++ data) := by
  rw [input_awaiting running free, Query.read_of_waiting_of_noEnd rfl noStart noEnd,
    withQuery_paste, awaiting]

private theorem input_awaiting_of_ends (running : s.screen.stopped = false)
    (free : s.bindings.takes data = false) (noStart : ¬ Key.pasteStart <:+: data)
    (pastable : Key.Pastable text) (ends : arrived ++ data = text ++ Key.pasteEnd) :
    (s.awaiting arrived).input data = s.pasted text := by
  rw [input_awaiting running free, Query.read_of_waiting_of_ends rfl noStart pastable ends]
  rfl

/-- The rest of a paste, item by item, if none is taken. -/
theorem foldl_input_awaiting
    {items : List Text} (running : s.screen.stopped = false)
    (pastable : Key.Pastable text) (nonempty : ∀ item ∈ items, item ≠ [])
    (free : ∀ item ∈ items, s.bindings.takes item = false)
    (more : items ≠ []) (whole : arrived ++ items.flatten = text ++ Key.pasteEnd) :
    items.foldl input (s.awaiting arrived) = s.pasted text := by
  induction items generalizing arrived with
  | nil => exact absurd rfl more
  | cons item items inductionHypothesis =>
      have itemFree := free item (List.Mem.head items)
      rw [List.flatten_cons, ← List.append_assoc] at whole
      have noStart : ¬ Key.pasteStart <:+: item := by
        apply pastable.noStart_of_infix
        rw [← whole]
        exact ⟨arrived, items.flatten, rfl⟩
      rw [List.foldl_cons]
      by_cases last : items = []
      · rw [last, List.flatten_nil, List.append_nil] at whole
        rw [last, List.foldl_nil]
        exact input_awaiting_of_ends running itemFree noStart pastable whole
      · have othersNonempty : ∀ other ∈ items, other ≠ [] := fun other member =>
          nonempty other (List.Mem.tail item member)
        have rest := Key.flatten_ne_nil othersNonempty last
        have noEnd := pastable.noEnd_of_more whole rest
        rw [input_awaiting_of_noEnd running itemFree noStart noEnd]
        apply inductionHypothesis
        · exact othersNonempty
        · exact fun other member => free other (List.Mem.tail item member)
        · exact last
        · exact whole

private theorem query_withQuery
    (s : Session) (query : Query) : (s.withQuery query).query = query := by
  unfold withQuery
  split <;> rfl

private theorem query_pasted (s : Session) (text : Text) :
    (s.pasted text).query = s.query.closed text := by
  rw [pasted, requestDraw, query_request, query_withQuery]

private theorem chores_pasted (s : Session) (text : Text) :
    (s.pasted text).chores = s.requestDraw.chores := by
  have same : (s.withQuery (s.query.closed text)).chores = s.chores := by
    unfold withQuery
    split <;> rfl
  rw [pasted, requestDraw, requestDraw, request_eq, request_eq, same]

end Paste

/-! ## All cuts -/

section Cut

variable {s : Session} {text first : Text} {later : List Text}

theorem receiveAll_cons (s : Session) (first : Text) (later : List Text) :
    s.receiveAll (first :: later) =
      (later.flatMap Key.splitInput).foldl input (s.receive first) :=
  receiveAll_eq_foldl_input (s.receive first) later

private theorem ne_nil_of_mem_flatMap_splitInput {reads : List Text} {item : Text}
    (member : item ∈ reads.flatMap Key.splitInput) :
    item ≠ [] := by
  obtain ⟨read, _, among⟩ := List.mem_flatMap.mp member
  exact Key.ne_nil_of_mem_splitInput among

/-- The first read leaves the session behind the paste, if nothing comes later, or
else waiting for its end. -/
theorem receive_first (running : s.screen.stopped = false)
    (reads : Key.PasteReads text first later) :
    (later.flatMap Key.splitInput = [] ∧ s.receive first = s.pasted text) ∨
      ∃ arrived,
        arrived ++ (later.flatMap Key.splitInput).flatten = text ++ Key.pasteEnd ∧
          later.flatMap Key.splitInput ≠ [] ∧ s.receive first = s.awaiting arrived := by
  obtain ⟨arrived, begins, whole⟩ := reads.exists_arrived
  by_cases last : later.flatMap Key.splitInput = []
  · rw [last, List.flatten_nil, List.append_nil] at whole
    rw [begins, whole]
    exact Or.inl ⟨last, receive_bracketed running reads.pastable⟩
  · have rest :=
      Key.flatten_ne_nil (fun _ => ne_nil_of_mem_flatMap_splitInput) last
    have noEnd := reads.pastable.noEnd_of_more whole rest
    rw [begins]
    exact Or.inr ⟨arrived, whole, last, receive_pasteStart_append running noEnd⟩

/-- Without keys that are taken in the later reads, the cut leaves the same session as
the paste in one read. -/
theorem receiveAll_of_free (running : s.screen.stopped = false)
    (reads : Key.PasteReads text first later)
    (free : ∀ item ∈ later.flatMap Key.splitInput, s.bindings.takes item = false) :
    s.receiveAll (first :: later) = s.pasted text := by
  rw [receiveAll_cons]
  rcases receive_first running reads with ⟨last, ended⟩ | ⟨arrived, whole, more, waits⟩
  · rw [last, ended, List.foldl_nil]
  · rw [waits]
    exact foldl_input_awaiting running reads.pastable
      (fun _ => ne_nil_of_mem_flatMap_splitInput) free more whole

/-- A key that is taken from the later reads takes its characters out of the text. -/
theorem count_value_receiveAll_lt
    {item : Text} {c : Char} (running : s.screen.stopped = false)
    (reads : Key.PasteReads text first later)
    (member : item ∈ later.flatMap Key.splitInput) (taken : s.bindings.takes item = true)
    (holds : c ∈ item) (kept : c ∉ Bindings.traceless) :
    (s.receiveAll (first :: later)).query.value.count c <
      (s.pasted text).query.value.count c := by
  rw [receiveAll_cons]
  rcases receive_first running reads with ⟨last, _⟩ | ⟨arrived, whole, _, waits⟩
  · rw [last] at member
    cases member
  · have inside := Bindings.not_isLineBoundary_of_not_mem_traceless kept
    have noMark : Key.pasteEnd.count c = 0 :=
      List.count_eq_zero.mpr fun among => kept (List.mem_append_right _ among)
    have arrivals := congrArg (List.count c) whole
    rw [List.count_append, List.count_append, noMark] at arrivals
    have bound := (s.awaiting arrived).held_foldl_input_add_le (later.flatMap Key.splitInput) c
    have before : (s.awaiting arrived).query.held c = s.query.value.count c + arrived.count c := by
      rw [query_awaiting]
      exact Query.held_of_waiting rfl
    rw [before, (s.keeps_awaiting arrived).bindings] at bound
    have lost :
        0 < ((later.flatMap Key.splitInput).filter s.bindings.takes).flatten.count c := by
      rw [List.count_pos_iff, List.mem_flatten]
      exact ⟨item, List.mem_filter.mpr ⟨member, taken⟩, holds⟩
    have shown :=
      ((later.flatMap Key.splitInput).foldl input (s.awaiting arrived)).query.count_value_le_held c
    rw [waits, query_pasted, Query.count_value_closed s.query text inside]
    omega

private theorem leave_mem_receiveAll
    {item : Text} (first : Text) (running : s.screen.stopped = false)
    (member : item ∈ later.flatMap Key.splitInput)
    (quits : s.bindings.triggers item .quit = true) :
    .leave ∈ (s.receiveAll (first :: later)).chores := by
  rw [receiveAll_eq_foldl_input, List.flatMap_cons]
  exact leave_mem_chores_foldl_input running (List.mem_append_right _ member) quits

private theorem leave_not_mem_pasted (stays : .leave ∉ s.chores) (text : Text) :
    .leave ∉ (s.pasted text).chores := by
  rw [chores_pasted, requestDraw, mem_chores_request]
  simp [stays]

/-- A paste in one read inserts its lines and asks for nothing but a frame.  Cut into
several reads, it leaves the same to see exactly if the later reads hold no key of the
session or the pane. -/
theorem seen_receiveAll_paste (running : s.screen.stopped = false)
    (usual : s.bindings = .usual) (stays : .leave ∉ s.chores)
    (reads : Key.PasteReads text first later) :
    let whole := s.receive (Key.bracketed text)
    whole.query = s.query.closed text ∧ whole.chores = s.requestDraw.chores ∧
      ((s.receiveAll (first :: later)).seen = whole.seen ↔
        ∀ item ∈ later.flatMap Key.splitInput, s.bindings.takes item = false) := by
  intro whole
  have wholeEq : whole = s.pasted text := receive_bracketed running reads.pastable
  rw [wholeEq]
  refine ⟨s.query_pasted text, s.chores_pasted text, ?_, ?_⟩
  · intro same item member
    by_contra notFree
    have taken : s.bindings.takes item = true := Bool.of_not_eq_false notFree
    by_cases all : ∀ c ∈ item, c ∈ Bindings.traceless
    · have quits : s.bindings.triggers item .quit = true := by
        rw [usual] at taken ⊢
        exact Bindings.triggers_quit_of_takes_usual taken all
      have asked := leaves_seen_iff.mpr (leave_mem_receiveAll first running member quits)
      rw [same] at asked
      exact leave_not_mem_pasted stays text (leaves_seen_iff.mp asked)
    · simp only [not_forall] at all
      obtain ⟨c, holds, kept⟩ := all
      have fewer := count_value_receiveAll_lt running reads member taken holds kept
      have sameValue := congrArg Seen.value same
      have sameCount := congrArg (List.count c) sameValue
      exact absurd sameCount (Nat.ne_of_lt fewer)
  · intro free
    rw [receiveAll_of_free running reads free]

end Cut

def resting : Session :=
  { store := { path := .ofText ['f'] }, size := ⟨40, 8⟩, screen.stopped := false }

/-- A read that brings a paste but for its end mark. -/
def openedPaste : Text := Key.pasteStart ++ ['o', 'n']

def cutInDigits : List Text := [Text.ofString "\x1b[20", Text.ofString "1~"]

def cutBehindEscape : List Text := [Text.ofString "\x1b", Text.ofString "[201~"]

/-- A cut between the digits does not show. -/
theorem seen_receiveAll_paste_cutInDigits :
    Key.PasteReads ['o', 'n'] openedPaste cutInDigits ∧
      (resting.receiveAll (openedPaste :: cutInDigits)).seen =
        (resting.receive (Key.bracketed ['o', 'n'])).seen := by
  have reads : Key.PasteReads ['o', 'n'] openedPaste cutInDigits := by decide
  have stays : .leave ∉ resting.chores := List.not_mem_nil
  have free :
      ∀ item ∈ cutInDigits.flatMap Key.splitInput, resting.bindings.takes item = false := by
    decide
  exact ⟨reads, (seen_receiveAll_paste (s := resting) rfl rfl stays reads).2.2.mpr free⟩

/-- A cut behind the escape makes it a key of its own, which ends the session. -/
theorem leaves_receiveAll_cutBehindEscape :
    Key.PasteReads ['o', 'n'] openedPaste cutBehindEscape ∧
      (resting.receiveAll (openedPaste :: cutBehindEscape)).seen.leaves = true ∧
        (resting.receive (Key.bracketed ['o', 'n'])).seen.leaves = false := by
  have reads : Key.PasteReads ['o', 'n'] openedPaste cutBehindEscape := by decide
  have member : ['\x1b'] ∈ cutBehindEscape.flatMap Key.splitInput := by decide
  have quits : resting.bindings.triggers ['\x1b'] .quit = true := by decide
  have asked := leave_mem_receiveAll openedPaste rfl member quits
  have idle := leave_not_mem_pasted (s := resting) List.not_mem_nil ['o', 'n']
  refine ⟨reads, leaves_seen_iff.mpr asked, ?_⟩
  rw [receive_bracketed rfl reads.pastable, ← Bool.not_eq_true, leaves_seen_iff]
  exact idle

end Session

end Keychart.Viewer
