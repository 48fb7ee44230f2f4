import Keychart.Proofs.Markup.Stored

/-!
# What a region lists, line by line

Whether a line of a region is listed, and as what, can be read off the lines
around it.  An entry is listed where it stands, unless the next line that counts
is code and a hiding mark stands behind the last code or heading.  A line of code
is listed by its binding, unless an entry stands right in front of it or such a
mark hides it.

A reader finds the same without looking around, from what it lets wait.  What
waits is what looking back finds, and the fate of a waiting entry is what looking
ahead finds.
-/

namespace Keychart.Markup

namespace Line

/-- Whether a line ends what waits: code and headings do. -/
def resets : Line → Bool
  | code _ => true
  | heading _ => true
  | _ => false

/-- Whether a line counts as a neighbour; blank lines, comments that say nothing
and further region marks do not. -/
def counts : Line → Bool
  | blank => false
  | other _ => false
  | opening _ => false
  | _ => true

def isCode : Line → Bool
  | code _ => true
  | _ => false

def isHide : Line → Bool
  | hide _ => true
  | _ => false

def asEntry : Line → Option (Text × Text)
  | entry keys text => some (keys, text)
  | _ => none

def asDescription : Line → Option Text
  | description text => some text
  | _ => none

def asHeading : Line → Option (Option Text)
  | heading name => some name
  | _ => none

end Line

/-- The lines behind the last code or heading, the latest first. -/
def sinceReset (before : List Line) : List Line :=
  before.reverse.takeWhile fun line => !line.resets

/-- Whether a hiding mark stands behind the last code or heading. -/
def hides (before : List Line) : Bool := (sinceReset before).any Line.isHide

/-- The last description behind the last code or heading, if no entry stands
behind it. -/
def lastDescription (before : List Line) : Option Text :=
  ((sinceReset before).takeWhile fun line => line.asEntry.isNone).findSome?
    Line.asDescription

/-- The entry that is the last line that counts, if that is one. -/
def lastEntry (before : List Line) : Option (Text × Text) :=
  (before.reverse.find? Line.counts).bind Line.asEntry

def lastHeading (before : List Line) : Option Text :=
  (before.reverse.findSome? Line.asHeading).join

/-- Whether the next line that counts is code. -/
def codeFollows (after : List Line) : Bool :=
  (after.find? Line.counts).any Line.isCode

/-- What is listed for a line, given the lines in front of it and behind it. -/
def listedAt (before : List Line) (line : Line) (after : List Line) :
    Option Keybind :=
  match line with
  | .entry keys text =>
    if hides before && codeFollows after then none
    else
      some
        { keys := keys, description := text, isFake := true,
          sectionName := lastHeading before }
  | .code line =>
    if (lastEntry before).isSome || hides before then none
    else
      (binding? line).map fun (keys, action) =>
        { keys := keys, description := (lastDescription before).getD [],
          action := action, sectionName := lastHeading before }
  | _ => none

def listingBehind (before lines : List Line) : List Keybind :=
  (List.range lines.length).filterMap fun i =>
    lines[i]?.bind fun line =>
      listedAt (before ++ lines.take i) line (lines.drop (i + 1))

def listing (lines : List Line) : List Keybind := listingBehind [] lines

theorem listingBehind_nil (before : List Line) : listingBehind before [] = [] :=
  rfl

theorem listingBehind_cons (before : List Line) (line : Line) (lines : List Line) :
    listingBehind before (line :: lines) =
      (listedAt before line lines).toList ++
        listingBehind (before ++ [line]) lines := by
  have rest :
      ((List.range lines.length).map Nat.succ).filterMap
          (fun i => (line :: lines)[i]?.bind fun l =>
            listedAt (before ++ (line :: lines).take i) l
              ((line :: lines).drop (i + 1))) =
        listingBehind (before ++ [line]) lines := by
    rw [List.filterMap_map, listingBehind]
    simp [Function.comp_def]
  rw [← rest, listingBehind, List.length_cons, List.range_succ_eq_map,
    List.filterMap_cons]
  cases listed : listedAt before line lines with
  | none => simp [listed]
  | some keybind => simp [listed]

section Concat

variable (before : List Line) (line : Line)

theorem sinceReset_concat :
    sinceReset (before ++ [line]) =
      if line.resets then [] else line :: sinceReset before := by
  cases resets : line.resets <;> simp [sinceReset, resets]

theorem hides_concat :
    hides (before ++ [line]) =
      (!line.resets && (line.isHide || hides before)) := by
  rw [hides, sinceReset_concat]
  cases resets : line.resets <;> simp [hides]

theorem lastDescription_concat :
    lastDescription (before ++ [line]) =
      if line.resets || line.asEntry.isSome then none
      else line.asDescription.or (lastDescription before) := by
  rw [lastDescription, sinceReset_concat]
  cases resets : line.resets with
  | true => simp
  | false =>
      cases entry : line.asEntry with
      | some entry => simp [entry]
      | none =>
          cases description : line.asDescription with
          | none => simp [entry, description, lastDescription]
          | some text => simp [entry, description]

theorem lastEntry_concat :
    lastEntry (before ++ [line]) =
      if line.counts then line.asEntry else lastEntry before := by
  cases counts : line.counts <;> simp [lastEntry, counts]

theorem lastHeading_concat :
    lastHeading (before ++ [line]) =
      line.asHeading.getD (lastHeading before) := by
  cases heading : line.asHeading <;> simp [lastHeading, heading]

end Concat

/-- A reader inside a region whose waiting annotations are what looking back over
the lines read so far finds. -/
structure Reader.Recalls (r : Reader) (before : List Line) : Prop where
  inside : r.phase = .inside
  description : r.description = lastDescription before
  entry : r.entry = lastEntry before
  hidden : r.hidden = hides before
  name : r.currentName = lastHeading before

private theorem recalls_openRegion (title : Text) :
    (({} : Reader).openRegion title).Recalls [] :=
  ⟨rfl, rfl, rfl, rfl, rfl⟩

namespace Reader

variable {r : Reader} {before : List Line}

theorem Recalls.readCode (recalls : r.Recalls before) (line : Text) :
    (r.readCode line).Recalls (before ++ [.code line]) := by
  have description : lastDescription (before ++ [.code line]) = none := by
    simp [lastDescription_concat, Line.resets]
  have entry : lastEntry (before ++ [.code line]) = none := by
    simp [lastEntry_concat, Line.counts, Line.asEntry]
  have hidden : hides (before ++ [.code line]) = false := by
    simp [hides_concat, Line.resets]
  have name :
      lastHeading (before ++ [.code line]) = lastHeading before := by
    simp [lastHeading_concat, Line.asHeading]
  have inside := recalls.inside
  have kept : r.currentName = lastHeading (before ++ [.code line]) :=
    recalls.name.trans name.symm
  rcases readCode_cases r line with ⟨keybind, form⟩ | ⟨note, form⟩ | form
  · rw [form]
    exact ⟨inside, description.symm, entry.symm, hidden.symm, kept⟩
  · rw [form]
    exact ⟨inside, description.symm, entry.symm, hidden.symm, kept⟩
  · rw [form]
    exact ⟨inside, description.symm, entry.symm, hidden.symm, kept⟩

/-- A line that does not count changes nothing that is looked for. -/
theorem Recalls.of_not_counts
    (recalls : r.Recalls before) {line : Line}
    (passed : line.counts = false) :
    r.Recalls (before ++ [line]) := by
  obtain ⟨inside, description, entry, hidden, name⟩ := recalls
  cases line with
  | blank | other | opening =>
      refine ⟨inside, ?_, ?_, ?_, ?_⟩
      · simpa [lastDescription_concat, Line.resets, Line.asEntry,
          Line.asDescription] using description
      · simpa [lastEntry_concat, passed] using entry
      · simpa [hides_concat, Line.resets, Line.isHide] using hidden
      · simpa [lastHeading_concat, Line.asHeading] using name
  | closing | heading | description | entry | hide | code =>
      cases passed

/-- Reading a line keeps in the state what looking back finds. -/
theorem Recalls.read
    (recalls : r.Recalls before) {line : Line} (notEnd : line ≠ .closing) :
    (r.read line).Recalls (before ++ [line]) := by
  rw [read_of_inside recalls.inside]
  have inside : r.flushEntry.phase = .inside := by
    rw [phase_flushEntry]
    exact recalls.inside
  have name : r.flushEntry.currentName = lastHeading before := by
    rw [currentName_flushEntry]
    exact recalls.name
  have hidden : r.flushEntry.hidden = hides before := by
    rw [hidden_flushEntry]
    exact recalls.hidden
  cases line with
  | closing => exact absurd rfl notEnd
  | blank => exact recalls.of_not_counts rfl
  | other => exact recalls.of_not_counts rfl
  | opening title =>
      have passed := @Recalls.of_not_counts r before recalls (.opening title) rfl
      exact ⟨passed.inside, passed.description, passed.entry, passed.hidden,
        passed.name⟩
  | code text => exact recalls.readCode text
  | heading header =>
      refine ⟨?_, ?_, ?_, ?_, ?_⟩
      · cases header <;> exact inside
      · rw [lastDescription_concat]
        cases header <;> rfl
      · rw [lastEntry_concat]
        cases header <;> rfl
      · rw [hides_concat]
        cases header <;> rfl
      · rw [lastHeading_concat]
        exact currentName_head _ header
  | description text =>
      refine ⟨inside, ?_, ?_, ?_, ?_⟩
      · rw [lastDescription_concat]
        rfl
      · rw [lastEntry_concat]
        exact entry_flushEntry
      · rw [hides_concat]
        exact hidden
      · rw [lastHeading_concat]
        exact name
  | entry keys text =>
      refine ⟨inside, ?_, ?_, ?_, ?_⟩
      · rw [lastDescription_concat]
        rfl
      · rw [lastEntry_concat]
        rfl
      · rw [hides_concat]
        exact hidden
      · rw [lastHeading_concat]
        exact name
  | hide note =>
      refine ⟨inside, ?_, ?_, ?_, ?_⟩
      · rw [lastDescription_concat]
        exact description_flushEntry.trans recalls.description
      · rw [lastEntry_concat]
        exact entry_flushEntry
      · rw [hides_concat]
        rfl
      · rw [lastHeading_concat]
        exact name

/-! ## What a line adds -/

/-- What becomes of the waiting entry, given the lines to come: it is listed,
unless the next line that counts is code that is hidden. -/
def fate (r : Reader) (after : List Line) : List Keybind :=
  match r.entry with
  | none => []
  | some (keys, text) =>
    if r.hidden && codeFollows after then []
    else [{ entryKeybind keys text with sectionName := r.currentName }]

private theorem fate_of_none (waiting : r.entry = none) (after : List Line) :
    r.fate after = [] := by
  rw [fate, waiting]

private theorem shown_congr {s : Reader} (stored : r.stored = s.stored) :
    r.shown = s.shown := by
  rw [shown, shown, stored]

/-- Flushed, the entry is listed whether a mark would hide it or not. -/
theorem shown_flushEntry
    {after : List Line} (noCode : codeFollows after = false) :
    r.flushEntry.shown = r.shown ++ r.fate after := by
  cases waiting : r.entry with
  | none => rw [flushEntry_of_none waiting, fate_of_none waiting, List.append_nil]
  | some entry =>
      rw [flushEntry_of_some waiting, shown_list_of_not_isIgnored _ _ rfl, fate,
        waiting]
      simp only [noCode, Bool.and_false]
      rfl

private theorem codeFollows_cons_of_counts {line : Line} (counted : line.counts = true)
    (after : List Line) :
    codeFollows (line :: after) = line.isCode := by
  simp [codeFollows, counted]

private theorem fate_cons_of_not_counts {line : Line} (passed : line.counts = false)
    (after : List Line) :
    r.fate (line :: after) = r.fate after := by
  simp [fate, codeFollows, passed]

/-- A waiting entry takes the place of the code, which is not listed itself. -/
theorem shown_readCode_of_some
    (recalls : r.Recalls before) {keys text : Text}
    (waiting : r.entry = some (keys, text)) (line : Text) (after : List Line) :
    (r.readCode line).shown =
      r.shown ++ r.fate (.code line :: after) ++
        (listedAt before (.code line) after).toList := by
  have dropped : r.dropWaiting.shown = r.shown :=
    shown_congr (stored_dropWaiting r)
  have lookBack : lastEntry before = some (keys, text) :=
    recalls.entry.symm.trans waiting
  have unlisted : listedAt before (.code line) after = none := by
    simp [listedAt, lookBack]
  have follows : codeFollows (.code line :: after) = true := rfl
  rw [readCode_of_some waiting, unlisted, fate, waiting, Option.toList_none,
    List.append_nil]
  cases hidden : r.hidden with
  | true =>
      rw [shown_list_of_isIgnored _ _ rfl, dropped]
      simp [follows]
  | false =>
      rw [shown_list_of_not_isIgnored _ _ rfl, dropped]
      simp only [Bool.false_and, Bool.false_eq_true, if_false]
      rfl

private theorem shown_readCode_of_none
    (recalls : r.Recalls before) (settled : r.entry = none) (line : Text)
    (after : List Line) :
    (r.readCode line).shown =
      r.shown ++ (listedAt before (.code line) after).toList := by
  have dropped : r.dropWaiting.shown = r.shown :=
    shown_congr (stored_dropWaiting r)
  have noEntry : lastEntry before = none := recalls.entry.symm.trans settled
  cases binding : binding? line with
  | none =>
      have unlisted : listedAt before (.code line) after = none := by
        simp [listedAt, binding]
      rw [unlisted, shown_congr (stored_readCode_of_none settled binding),
        Option.toList_none, List.append_nil]
  | some bound =>
      obtain ⟨keys, action⟩ := bound
      rw [readCode_of_binding settled binding, listedAt, noEntry,
        ← recalls.hidden]
      cases hidden : r.hidden with
      | true =>
          rw [shown_list_of_isIgnored _ _ rfl, dropped]
          simp
      | false =>
          have name : r.dropWaiting.currentName = lastHeading before :=
            recalls.name
          rw [shown_list_of_not_isIgnored _ _ rfl, dropped, name,
            recalls.description, binding]
          simp

private theorem shown_readCode (recalls : r.Recalls before) (line : Text)
    (after : List Line) :
    (r.readCode line).shown =
      r.shown ++ r.fate (.code line :: after) ++
        (listedAt before (.code line) after).toList := by
  cases entry : r.entry with
  | some waiting => exact shown_readCode_of_some recalls entry line after
  | none =>
      rw [fate_of_none entry, List.append_nil]
      exact shown_readCode_of_none recalls entry line after

/-- What a line adds: the waiting entry, if the line decides its fate, and what
is listed for the line itself, unless that is an entry, which now waits. -/
theorem shown_read
    (recalls : r.Recalls before) {line : Line} (notEnd : line ≠ .closing)
    (after : List Line) :
    (r.read line).shown ++ (r.read line).fate after =
      r.shown ++ r.fate (line :: after) ++
        (listedAt before line after).toList := by
  rw [read_of_inside recalls.inside]
  have flushed :
      ∀ {line : Line}, line.counts = true → line.isCode = false →
        r.flushEntry.shown = r.shown ++ r.fate (line :: after) := by
    intro line counted noCode
    apply shown_flushEntry
    rw [codeFollows_cons_of_counts counted, noCode]
  cases line with
  | closing => exact absurd rfl notEnd
  | blank =>
      rw [fate_cons_of_not_counts rfl]
      exact (List.append_nil _).symm
  | other =>
      rw [fate_cons_of_not_counts rfl]
      exact (List.append_nil _).symm
  | opening =>
      rw [fate_cons_of_not_counts rfl]
      exact (List.append_nil _).symm
  | code line =>
      have entry : (r.readCode line).entry = none := by
        rcases readCode_cases r line with ⟨keybind, form⟩ | ⟨note, form⟩ | form
        · rw [form]
          rfl
        · rw [form]
          rfl
        · rw [form]
          rfl
      exact (congrArg _ (fate_of_none entry after)).trans <|
        (List.append_nil _).trans (shown_readCode recalls line after)
  | heading name =>
      have entry : (r.flushEntry.dropWaiting.head name).entry = none := by
        cases name <;> rfl
      have stored :
          (r.flushEntry.dropWaiting.head name).stored =
            r.flushEntry.stored := by
        rw [stored_head, stored_dropWaiting]
      rw [← flushed rfl rfl]
      exact congrArg₂ (· ++ ·) (shown_congr stored) (fate_of_none entry after)
  | description text =>
      rw [← flushed rfl rfl]
      exact congrArg _ (fate_of_none entry_flushEntry after)
  | hide note =>
      have entry : (r.readInside (.hide note)).entry = none :=
        entry_flushEntry
      rw [← flushed rfl rfl]
      exact congrArg _ (fate_of_none entry after)
  | entry keys text =>
      rw [← flushed rfl rfl]
      have waits :
          (r.readInside (.entry keys text)).fate after =
            (listedAt before (.entry keys text) after).toList := by
        have hidden :
            (r.readInside (.entry keys text)).hidden = hides before :=
          hidden_flushEntry.trans recalls.hidden
        have name :
            (r.readInside (.entry keys text)).currentName =
              lastHeading before :=
          currentName_flushEntry.trans recalls.name
        have waiting :
            (r.readInside (.entry keys text)).entry = some (keys, text) := rfl
        rw [fate, waiting, listedAt]
        simp only [hidden, name]
        split <;> rfl
      rw [waits]
      rfl

/-- What a run of lines adds, up to the end of the wait of the last entry. -/
theorem shown_readAll
    {lines : List Line} (noEnd : Line.closing ∉ lines) :
    ∀ {r : Reader} {before : List Line}, r.Recalls before →
      (r.readAll lines).phase = .inside ∧
        (r.readAll lines).flushEntry.shown =
          r.shown ++ r.fate lines ++ listingBehind before lines := by
  induction lines with
  | nil =>
      intro r before recalls
      refine ⟨recalls.inside, ?_⟩
      rw [listingBehind_nil, List.append_nil]
      exact shown_flushEntry rfl
  | cons line lines inductionHypothesis =>
      intro r before recalls
      have notEnd : line ≠ .closing := by
        rintro rfl
        exact noEnd (List.Mem.head lines)
      have rest :=
        inductionHypothesis (fun member => noEnd (List.Mem.tail line member))
          (recalls.read notEnd)
      refine ⟨rest.1, ?_⟩
      rw [listingBehind_cons, ← List.append_assoc,
        ← shown_read recalls notEnd lines]
      exact rest.2

end Reader

/-- The keybinds of a region, be it closed or not, are what its lines list, each
read off the lines around it. -/
theorem keybinds_region_eq_listing
    (title : Text) (lines : List Line) (noEnd : Line.closing ∉ lines) :
    (Keymap.ofLines (.opening title :: lines)).keybinds = listing lines ∧
      (Keymap.ofLines (.opening title :: lines ++ [.closing])).keybinds =
        listing lines := by
  obtain ⟨inside, shown⟩ :=
    Reader.shown_readAll noEnd (recalls_openRegion title)
  have flushed :
      ((({} : Reader).openRegion title).readAll lines).flushEntry.shown =
        listing lines := shown
  constructor
  · rw [Keymap.ofLines, Reader.keybinds_keymap, Reader.readAll_opening,
      ← flushed]
    exact Reader.shown_congr (Reader.stored_settle_of_inside inside)
  · have closed :
        ((({} : Reader).openRegion title).readAll lines).read .closing =
          ((({} : Reader).openRegion title).readAll lines).closeRegion :=
      Reader.read_of_inside inside .closing
    rw [Keymap.ofLines, Reader.keybinds_keymap, Reader.readAll_append,
      Reader.readAll_opening, Reader.readAll_singleton, closed,
      Reader.settle_of_after rfl, ← flushed]
    exact Reader.shown_congr (Reader.stored_closeRegion _)

/-- A hidden entry and a described binding behind a heading, and an entry that
ends its wait by itself. -/
theorem keybinds_region_eq_listing_hidden :
    Line.closing ∉
        [Line.heading (some ['s']), .hide [], .entry ['a'] ['b'], .blank,
          .code [], .description ['d'],
          .code ['(', '"', 'k', '"', ',', 'x', ')'], .entry ['c'] []] ∧
      (Keymap.ofLines
        [.opening ['t'], .heading (some ['s']), .hide [], .entry ['a'] ['b'],
          .blank, .code [], .description ['d'],
          .code ['(', '"', 'k', '"', ',', 'x', ')'], .entry ['c'] []]).keybinds =
        [{ keys := ['k'], description := ['d'], action := ['x'],
           sectionName := some ['s'] },
         { keys := ['c'], isFake := true, sectionName := some ['s'] }] := by
  have noEnd :
      Line.closing ∉
        [Line.heading (some ['s']), .hide [], .entry ['a'] ['b'], .blank,
          .code [], .description ['d'],
          .code ['(', '"', 'k', '"', ',', 'x', ')'], .entry ['c'] []] := by
    decide
  refine ⟨noEnd, ?_⟩
  rw [(keybinds_region_eq_listing ['t'] _ noEnd).1]
  decide

end Keychart.Markup
