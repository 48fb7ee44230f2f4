import Keychart.Proofs.Viewer.Pasting

/-!
# What arrives in the query

Inputs are cut at the marks of pastes, and a paste goes on over as many inputs as it
takes.  What then arrives, key by key and paste by paste, hangs neither on the text
nor on the bindings: the query takes one arrival after the other.
-/

namespace Keychart.Viewer

/-- What arrives in the query: a key, or a paste that has ended. -/
inductive Arrival where
  | key (data : Text)
  | paste (text : Text)
deriving DecidableEq, Repr

mutual

/-- What arrives with an input, and what then waits of a paste. -/
def arrivals (waiting : Option Text) (data : Text) : List Arrival × Option Text :=
  match _found : Text.splitAtMark? Key.pasteStart data with
  | some (front, rest) =>
    let read := if front.isEmpty then [] else (arrivals waiting front).1
    let begun := pasteArrivals [] rest
    (read ++ begun.1, begun.2)
  | none =>
    match waiting with
    | some arrived => pasteArrivals arrived data
    | none => ([.key data], none)
termination_by 2 * ((waiting.getD []).length + data.length) + 1
decreasing_by
  · have := Text.length_of_splitAtMark? _found
    simp only [Key.length_pasteStart] at this
    omega
  · have := Text.length_of_splitAtMark? _found
    simp only [Key.length_pasteStart] at this
    simp only [List.length_nil]
    omega
  · simp only [Option.getD_some]
    omega

def pasteArrivals (arrived data : Text) : List Arrival × Option Text :=
  match _found : Text.splitAtMark? Key.pasteEnd (arrived ++ data) with
  | none => ([], some (arrived ++ data))
  | some (text, rest) =>
    let behind := if rest.isEmpty then ([], none) else arrivals none rest
    (.paste text :: behind.1, behind.2)
termination_by 2 * (arrived.length + data.length)
decreasing_by
  have := Text.length_of_splitAtMark? _found
  simp [Key.length_pasteEnd] at this ⊢
  omega

end

/-- What arrives with some inputs, and what then waits of a paste. -/
def arrivalsOf : Option Text → List Text → List Arrival × Option Text
  | waiting, [] => ([], waiting)
  | waiting, data :: inputs =>
    let first := arrivals waiting data
    let behind := arrivalsOf first.2 inputs
    (first.1 ++ behind.1, behind.2)

section Equations

variable {waiting : Option Text} {data arrived front rest text : Text}

private theorem arrivals_of_splitAtMark?
    (found : Text.splitAtMark? Key.pasteStart data = some (front, rest)) :
    arrivals waiting data =
      ((if front.isEmpty then [] else (arrivals waiting front).1) ++ (pasteArrivals [] rest).1,
        (pasteArrivals [] rest).2) := by
  rw [arrivals.eq_def]
  split
  next same =>
    rw [found] at same
    cases same
    rfl
  next missing =>
    rw [found] at missing
    cases missing

private theorem arrivals_of_waiting
    (missing : Text.splitAtMark? Key.pasteStart data = none) :
    arrivals (some arrived) data = pasteArrivals arrived data := by
  rw [arrivals]
  split
  next same =>
    rw [missing] at same
    cases same
  next => rfl

private theorem arrivals_of_not_waiting
    (missing : Text.splitAtMark? Key.pasteStart data = none) :
    arrivals none data = ([.key data], none) := by
  rw [arrivals]
  split
  next same =>
    rw [missing] at same
    cases same
  next => rfl

private theorem pasteArrivals_of_none
    (missing : Text.splitAtMark? Key.pasteEnd (arrived ++ data) = none) :
    pasteArrivals arrived data = ([], some (arrived ++ data)) := by
  rw [pasteArrivals]
  split
  next => rfl
  next same =>
    rw [missing] at same
    cases same

private theorem pasteArrivals_of_splitAtMark?
    (found : Text.splitAtMark? Key.pasteEnd (arrived ++ data) = some (text, rest)) :
    pasteArrivals arrived data =
      (.paste text :: (if rest.isEmpty then ([], none) else arrivals none rest).1,
        (if rest.isEmpty then ([], none) else arrivals none rest).2) := by
  rw [pasteArrivals]
  split
  next missing =>
    rw [found] at missing
    cases missing
  next same =>
    rw [found] at same
    cases same
    rfl

theorem arrivals_bracketed (pastable : Key.Pastable text) :
    arrivals none (Key.bracketed text) = ([.paste text], none) := by
  have found :
      Text.splitAtMark? Key.pasteEnd ([] ++ (text ++ Key.pasteEnd)) = some (text, []) :=
    pastable.splitAtMark?_pasteEnd
  rw [Key.bracketed,
    arrivals_of_splitAtMark? (Text.splitAtMark?_append Key.pasteStart (text ++ Key.pasteEnd)),
    pasteArrivals_of_splitAtMark? found]
  rfl

end Equations

theorem arrivalsOf_append (waiting : Option Text) (calls inputs : List Text) :
    arrivalsOf waiting (calls ++ inputs) =
      ((arrivalsOf waiting calls).1 ++ (arrivalsOf (arrivalsOf waiting calls).2 inputs).1,
        (arrivalsOf (arrivalsOf waiting calls).2 inputs).2) := by
  induction calls generalizing waiting with
  | nil => rfl
  | cons data calls inductionHypothesis =>
      simp only [List.cons_append, arrivalsOf, inductionHypothesis, List.append_assoc]

/-- What has arrived stays in front of what comes later. -/
theorem arrivalsOf_begins
    (waiting : Option Text) {calls inputs : List Text} (front : calls <+: inputs) :
    (arrivalsOf waiting calls).1 <+: (arrivalsOf waiting inputs).1 := by
  obtain ⟨later, parts⟩ := front
  rw [← parts, arrivalsOf_append]
  exact List.prefix_append _ _

namespace Query

/-- What an arrival does to the query: a paste goes in without its line ends. -/
def take (bindings : Bindings) (q : Query) : Arrival → Query
  | .key data => q.pressKey bindings data
  | .paste text => q.insert (Text.lines text).flatten

def withPaste (q : Query) (paste : Option Text) : Query := { q with paste := paste }

private theorem perform_withPaste (q : Query) (paste : Option Text) (action : Action) :
    (q.withPaste paste).perform action = (q.perform action).withPaste paste := by
  cases action <;> rfl

section Taking

variable (bindings : Bindings) (q : Query)

/-- An arrival leaves the open paste alone, and does not hang on it. -/
theorem take_withPaste (paste : Option Text) (arrival : Arrival) :
    (q.withPaste paste).take bindings arrival =
      (q.take bindings arrival).withPaste paste := by
  cases arrival with
  | key data =>
      simp only [take, pressKey]
      split
      · exact q.perform_withPaste paste _
      · split <;> rfl
  | paste text => rfl

private theorem foldl_take_withPaste (paste : Option Text) (arrived : List Arrival) :
    arrived.foldl (take bindings) (q.withPaste paste) =
      (arrived.foldl (take bindings) q).withPaste paste := by
  induction arrived generalizing q with
  | nil => rfl
  | cons arrival arrived inductionHypothesis =>
      rw [List.foldl_cons, List.foldl_cons, take_withPaste, inductionHypothesis]

private theorem pressKey_withPaste (data : Text) :
    (q.pressKey bindings data).withPaste q.paste = q.pressKey bindings data :=
  (take_withPaste bindings q q.paste (.key data)).symm

private theorem closed_eq_take (text : Text) :
    q.closed text = (q.take bindings (.paste text)).withPaste none :=
  rfl

end Taking

/-- Reading is taking what arrives. -/
theorem read_readPaste_eq_foldl_take (bindings : Bindings) :
    (∀ (q : Query) (data : Text),
        q.read bindings data =
          ((arrivals q.paste data).1.foldl (take bindings) q).withPaste
            (arrivals q.paste data).2) ∧
      ∀ (q : Query) (arrived data : Text),
        q.readPaste bindings arrived data =
          ((pasteArrivals arrived data).1.foldl (take bindings) q).withPaste
            (pasteArrivals arrived data).2 := by
  apply read.mutual_induct bindings
  -- reading: a start mark, a paste that waits, or a key
  · intro q data front rest found start frontRead restRead
    rw [read_of_splitAtMark? found, arrivals_of_splitAtMark? found, List.foldl_append]
    by_cases empty : front.isEmpty
    · have same : start = q := dif_pos empty
      rw [same] at restRead
      rw [if_pos empty, if_pos empty, restRead, List.foldl_nil]
    · have same : start = q.read bindings front := dif_neg empty
      rw [same] at restRead
      rw [if_neg empty, if_neg empty, restRead, frontRead, foldl_take_withPaste]
      rfl
  · intro q data missing arrived waiting pasteRead
    rw [read_of_waiting missing waiting, pasteRead, waiting, arrivals_of_waiting missing]
  · intro q data missing idle
    have same := q.pressKey_withPaste bindings data
    rw [idle] at same
    rw [read_of_not_waiting missing idle, idle, arrivals_of_not_waiting missing]
    exact same.symm
  -- reading a paste: no end mark, one at the end, or one with more behind it
  · intro q arrived data missing
    rw [readPaste_of_none missing, pasteArrivals_of_none missing]
    rfl
  · intro q arrived data text rest found ends
    rw [readPaste_of_splitAtMark? found, pasteArrivals_of_splitAtMark? found, if_pos ends,
      if_pos ends]
    rfl
  · intro q arrived data text rest found next more restRead
    have same : next = (q.take bindings (.paste text)).withPaste none := rfl
    rw [same, foldl_take_withPaste] at restRead
    rw [readPaste_of_splitAtMark? found, pasteArrivals_of_splitAtMark? found, if_neg more,
      if_neg more, q.closed_eq_take bindings]
    exact restRead

theorem read_eq_foldl_take (bindings : Bindings) (q : Query) (data : Text) :
    q.read bindings data =
      ((arrivals q.paste data).1.foldl (take bindings) q).withPaste
        (arrivals q.paste data).2 :=
  (read_readPaste_eq_foldl_take bindings).1 q data

/-- Inputs, one after the other, are what arrives with them. -/
theorem foldl_read_eq_foldl_take (bindings : Bindings) (q : Query) (inputs : List Text) :
    inputs.foldl (read bindings) q =
      ((arrivalsOf q.paste inputs).1.foldl (take bindings) q).withPaste
        (arrivalsOf q.paste inputs).2 := by
  induction inputs generalizing q with
  | nil => rfl
  | cons data inputs inductionHypothesis =>
      rw [List.foldl_cons, inductionHypothesis, read_eq_foldl_take, foldl_take_withPaste,
        arrivalsOf, List.foldl_append]
      rfl

theorem value_foldl_read (bindings : Bindings) (q : Query) (inputs : List Text) :
    (inputs.foldl (read bindings) q).value =
      ((arrivalsOf q.paste inputs).1.foldl (take bindings) q).value := by
  rw [foldl_read_eq_foldl_take]
  rfl

end Query

end Keychart.Viewer
