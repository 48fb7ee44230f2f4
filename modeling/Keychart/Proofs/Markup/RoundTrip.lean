import Keychart.Proofs.Markup.Stored
import Keychart.Proofs.Markup.WrittenLine

/-!
# Written keymaps

A keymap is written as a region: its title, every section under its heading, and
the mark that closes the region.  A binding stands behind its description or
behind a hiding mark; an entry stands by itself.

Each line is read back as what it was written for, and each item ends the wait
of the item in front of it.  So a reader gets the keymap back, without the
bindings that are hidden.
-/

namespace Keychart.Markup

open Text

/-- An action that can stand in front of the parenthesis that ends a binding. -/
structure Enclosable (action : Text) : Prop where
  plain : Plain action
  closes : action.count '(' ≤ action.count ')'

theorem enclosable_iff {action : Text} :
    Enclosable action ↔
      Plain action ∧ action.count '(' ≤ action.count ')' := by
  constructor
  · intro enclosable
    exact ⟨enclosable.plain, enclosable.closes⟩
  · rintro ⟨plain, closes⟩
    exact ⟨plain, closes⟩

instance (action : Text) : Decidable (Enclosable action) :=
  decidable_of_iff _ enclosable_iff.symm

inductive WrittenItem where
  | described (text keys action : Text)
  | entry (keys text : Text)
  | hidden (note keys action : Text)
deriving DecidableEq, Repr

namespace WrittenItem

def lines : WrittenItem → List Text
  | described text keys action => [descriptionLine text, bindingLine keys action]
  | entry keys text => [entryLine keys text]
  | hidden note keys action => [hideLine note, bindingLine keys action]

def Writable : WrittenItem → Prop
  | described text keys action =>
      (Plain text ∧ text ≠ [] ∧ Unmarked text) ∧ Quotable keys ∧
        Enclosable action
  | entry keys text => Quotable keys ∧ Plain text
  | hidden note keys action => Plain note ∧ Quotable keys ∧ Enclosable action

instance : (item : WrittenItem) → Decidable item.Writable
  | described text keys action =>
      inferInstanceAs (Decidable
        ((Plain text ∧ text ≠ [] ∧ Unmarked text) ∧ Quotable keys ∧
          Enclosable action))
  | entry keys text =>
      inferInstanceAs (Decidable (Quotable keys ∧ Plain text))
  | hidden note keys action =>
      inferInstanceAs (Decidable
        (Plain note ∧ Quotable keys ∧ Enclosable action))

def listed? (sectionName : Text) : WrittenItem → Option Keybind
  | described text keys action =>
      some { keys := keys, description := text, action := action,
             sectionName := some sectionName }
  | entry keys text =>
      some { keys := keys, description := text, isFake := true,
             sectionName := some sectionName }
  | hidden _ _ _ => none

end WrittenItem

structure WrittenSection where
  name : Text
  items : List WrittenItem
deriving DecidableEq, Repr

namespace WrittenSection

def lines (s : WrittenSection) : List Text :=
  headingLine s.name :: s.items.flatMap WrittenItem.lines

structure Writable (s : WrittenSection) : Prop where
  name : Plain s.name
  named : s.name ≠ []
  items : ∀ item ∈ s.items, item.Writable

theorem writable_iff {s : WrittenSection} :
    s.Writable ↔
      Plain s.name ∧ s.name ≠ [] ∧ ∀ item ∈ s.items, item.Writable := by
  constructor
  · intro writable
    exact ⟨writable.name, writable.named, writable.items⟩
  · rintro ⟨name, named, items⟩
    exact ⟨name, named, items⟩

instance (s : WrittenSection) : Decidable s.Writable :=
  decidable_of_iff _ writable_iff.symm

/-- What a keymap lists for a section, which is listed even where it is empty. -/
def listed (s : WrittenSection) : Section :=
  { name := some s.name, keybinds := s.items.filterMap (·.listed? s.name) }

end WrittenSection

def writtenLines (title : Text) (sections : List WrittenSection) : List Text :=
  titleLine title :: sections.flatMap WrittenSection.lines ++ [endLine]

def writtenSource (title : Text) (sections : List WrittenSection) : Text :=
  Text.join ['\n'] (writtenLines title sections)

def writtenKeymap (title : Text) (sections : List WrittenSection) : Keymap where
  title := title
  sections := sections.map WrittenSection.listed
  hasRegion := true
  closed := true

namespace WrittenItem

def meaning : WrittenItem → List Line
  | described text keys action =>
      [.description text, .code (bindingLine keys action)]
  | entry keys text => [.entry keys text]
  | hidden note keys action => [.hide note, .code (bindingLine keys action)]

private theorem map_readLine_lines {item : WrittenItem} (writable : item.Writable) :
    item.lines.map readLine = item.meaning := by
  cases item with
  | described text keys action =>
      obtain ⟨⟨plain, nonempty, unmarked⟩, _, _⟩ := writable
      simp only [lines, meaning, List.map_cons, List.map_nil,
        readLine_descriptionLine plain nonempty unmarked, readLine_bindingLine]
  | entry keys text =>
      obtain ⟨quotable, plain⟩ := writable
      simp only [lines, meaning, List.map_cons, List.map_nil,
        readLine_entryLine quotable plain]
  | hidden note keys action =>
      obtain ⟨plain, _, _⟩ := writable
      simp only [lines, meaning, List.map_cons, List.map_nil,
        readLine_hideLine plain, readLine_bindingLine]

theorem oneLine_of_mem_lines
    {item : WrittenItem} (writable : item.Writable) {line : Text}
    (member : line ∈ item.lines) :
    OneLine line := by
  cases item with
  | described text keys action =>
      obtain ⟨⟨plain, _, _⟩, quotable, enclosable⟩ := writable
      rcases List.mem_cons.mp member with rfl | rest
      · exact oneLine_comment plain.oneLine
      · rw [List.mem_singleton.mp rest]
        exact oneLine_bindingLine quotable.plain.oneLine enclosable.plain.oneLine
  | entry keys text =>
      obtain ⟨quotable, plain⟩ := writable
      rw [List.mem_singleton.mp member]
      exact oneLine_entryLine quotable.plain.oneLine plain.oneLine
  | hidden note keys action =>
      obtain ⟨plain, quotable, enclosable⟩ := writable
      rcases List.mem_cons.mp member with rfl | rest
      · exact oneLine_marked (by decide) plain.oneLine
      · rw [List.mem_singleton.mp rest]
        exact oneLine_bindingLine quotable.plain.oneLine enclosable.plain.oneLine

end WrittenItem

namespace WrittenSection

def meaning (s : WrittenSection) : List Line :=
  .heading (some s.name) :: s.items.flatMap WrittenItem.meaning

private theorem map_readLine_lines {s : WrittenSection} (writable : s.Writable) :
    s.lines.map readLine = s.meaning := by
  have items :
      ∀ {items : List WrittenItem}, (∀ item ∈ items, item.Writable) →
        (items.flatMap WrittenItem.lines).map readLine =
          items.flatMap WrittenItem.meaning := by
    intro items itemsWritable
    rw [List.map_flatMap]
    exact List.flatMap_congr fun item member =>
      WrittenItem.map_readLine_lines (itemsWritable item member)
  rw [lines, meaning, List.map_cons,
    readLine_headingLine writable.name writable.named, items writable.items]

theorem oneLine_of_mem_lines
    {s : WrittenSection} (writable : s.Writable) {line : Text}
    (member : line ∈ s.lines) :
    OneLine line := by
  rcases List.mem_cons.mp member with rfl | rest
  · exact oneLine_comment
      (oneLine_cons_iff.mpr
        ⟨by decide, oneLine_cons_iff.mpr
          ⟨by decide, writable.name.oneLine.space_cons⟩⟩)
  · obtain ⟨item, itemMember, lineMember⟩ := List.mem_flatMap.mp rest
    exact WrittenItem.oneLine_of_mem_lines
      (writable.items item itemMember) lineMember

end WrittenSection

/-- The lines of a written keymap, as they are read. -/
theorem readLines_writtenSource
    {title : Text} {sections : List WrittenSection}
    (plain : Plain title) (titled : title ≠ [])
    (writable : ∀ s ∈ sections, s.Writable) :
    readLines (writtenSource title sections) =
      .opening title ::
        (sections.flatMap WrittenSection.meaning ++ [.closing]) := by
  have frontLines :
      ∀ line ∈ titleLine title :: sections.flatMap WrittenSection.lines,
        OneLine line := by
    intro line member
    rcases List.mem_cons.mp member with rfl | rest
    · exact oneLine_marked (by decide) plain.oneLine
    · obtain ⟨s, sectionMember, lineMember⟩ := List.mem_flatMap.mp rest
      exact WrittenSection.oneLine_of_mem_lines
        (writable s sectionMember) lineMember
  have split :
      Text.lines (writtenSource title sections) = writtenLines title sections :=
    lines_join_concat frontLines (by decide) (by decide)
  have meanings :
      (sections.flatMap WrittenSection.lines).map readLine =
        sections.flatMap WrittenSection.meaning := by
    rw [List.map_flatMap]
    exact List.flatMap_congr fun s member =>
      WrittenSection.map_readLine_lines (writable s member)
  rw [readLines, split, writtenLines, List.map_append, List.map_cons,
    readLine_titleLine plain titled, meanings, List.map_singleton,
    readLine_endLine, List.cons_append]

def extend (s : Section) (keybinds : List Keybind) : Section :=
  { s with
    keybinds := s.keybinds ++
      keybinds.map fun k => { k with sectionName := s.name } }

theorem extend_nil (s : Section) : extend s [] = s := by
  simp [extend]

private theorem extend_extend (s : Section) (front back : List Keybind) :
    extend (extend s front) back = extend s (front ++ back) := by
  simp [extend]

namespace Reader

/-- A reader inside a region, with its sections as they are once the waiting
entry is listed.  Nothing else waits. -/
structure Holds (r : Reader) (title : Text) (finished : List Section)
    (current : Option Section) : Prop where
  inside : r.phase = .inside
  titled : r.title = title
  behind : r.finished = finished
  growing : r.flushEntry.current = current
  undescribed : r.description = none
  visible : r.hidden = false

section Holds

variable {r : Reader} {title : Text} {finished : List Section}
  {current : Option Section} {s : Section}

private theorem holds_openRegion (title : Text) :
    (({} : Reader).openRegion title).Holds title [] none :=
  ⟨rfl, rfl, rfl, rfl, rfl, rfl⟩

/-- Between two items nothing would be dropped. -/
theorem Holds.dropWaiting_flushEntry (holds : r.Holds title finished current) :
    r.flushEntry.dropWaiting.Holds title finished current where
  inside := phase_flushEntry.trans holds.inside
  titled := title_flushEntry.trans holds.titled
  behind := finished_flushEntry.trans holds.behind
  growing := holds.growing
  undescribed := rfl
  visible := rfl

theorem Holds.list
    (holds : r.Holds title finished (some s)) (settled : r.entry = none)
    (keybind : Keybind) :
    (r.list keybind).Holds title finished (some (extend s [keybind])) := by
  have current : r.current = some s := by
    rw [← flushEntry_of_none settled]
    exact holds.growing
  have opened : r.openSection = s := by
    rw [openSection, current, Option.getD_some]
  have waiting : (r.list keybind).entry = none := settled
  refine ⟨holds.inside, holds.titled, holds.behind, ?_, holds.undescribed,
    holds.visible⟩
  rw [flushEntry_of_none waiting]
  simp [Reader.list, remark, opened, extend]

theorem Holds.heading
    (holds : r.Holds title finished current) (name : Text) :
    (r.read (.heading (some name))).Holds title (finished ++ current.toList)
      (some { name := some name }) := by
  have form :
      r.read (.heading (some name)) =
        r.flushEntry.dropWaiting.head (some name) :=
    read_of_inside holds.inside _
  have settled := holds.dropWaiting_flushEntry
  rw [form]
  refine ⟨settled.inside, settled.titled, ?_, rfl, rfl, rfl⟩
  have sections :
      r.flushEntry.sections = finished ++ current.toList := by
    rw [sections, finished_flushEntry, holds.behind, holds.growing]
  exact sections

end Holds

end Reader

namespace WrittenItem

/-- What a reader stores for an item, hidden or not. -/
def keybind : WrittenItem → Keybind
  | described text keys action =>
      { keys := keys, description := text, action := action }
  | entry keys text => Reader.entryKeybind keys text
  | hidden _ keys action =>
      { keys := keys, action := action, isIgnored := true }

/-- Only the items that are not hidden are shown. -/
theorem filter_keybind (sectionName : Text) (items : List WrittenItem) :
    ((items.map keybind).map fun k =>
        { k with sectionName := some sectionName }).filter
          (fun k => !k.isIgnored) =
      items.filterMap (·.listed? sectionName) := by
  induction items with
  | nil => rfl
  | cons item items inductionHypothesis =>
      rw [List.map_cons, List.map_cons]
      cases item with
      | described text keys action =>
          rw [List.filter_cons_of_pos rfl, inductionHypothesis]
          rfl
      | entry keys text =>
          rw [List.filter_cons_of_pos rfl, inductionHypothesis]
          rfl
      | hidden note keys action =>
          rw [List.filter_cons_of_neg (by simp [keybind]), inductionHypothesis,
            List.filterMap_cons_none rfl]

end WrittenItem

namespace Reader

section Holds

variable {r : Reader} {title : Text} {finished : List Section}
  {current : Option Section} {s : Section}

/-- A binding right behind an annotation that is no entry. -/
theorem readAll_annotated
    {mark : Line} {line keys action : Text} (inside : r.phase = .inside)
    (stays : (r.readInside mark).phase = .inside)
    (settled : (r.readInside mark).entry = none)
    (found : binding? line = some (keys, action)) :
    r.readAll [mark, .code line] =
      (r.readInside mark).dropWaiting.list
        { keys := keys,
          description := (r.readInside mark).description.getD [],
          action := action, isIgnored := (r.readInside mark).hidden } := by
  have second :
      (r.readInside mark).read (.code line) =
        (r.readInside mark).readCode line :=
    read_of_inside stays _
  rw [← List.singleton_append, readAll_append, readAll_singleton,
    readAll_singleton, read_of_inside inside, second,
    readCode_of_binding settled found]

private theorem Holds.readAll_described
    (holds : r.Holds title finished current) {line keys action : Text}
    (found : binding? line = some (keys, action)) (text : Text) :
    r.readAll [.description text, .code line] =
      r.flushEntry.dropWaiting.list
        { keys := keys, description := text, action := action } := by
  have stays : (r.readInside (.description text)).phase = .inside :=
    phase_flushEntry.trans holds.inside
  have settled : (r.readInside (.description text)).entry = none :=
    entry_flushEntry
  have visible : (r.readInside (.description text)).hidden = false :=
    hidden_flushEntry.trans holds.visible
  rw [readAll_annotated holds.inside stays settled found, visible]
  rfl

private theorem Holds.readAll_hidden
    (holds : r.Holds title finished current) {line keys action : Text}
    (found : binding? line = some (keys, action)) (note : Text) :
    r.readAll [.hide note, .code line] =
      r.flushEntry.dropWaiting.list
        { keys := keys, action := action, isIgnored := true } := by
  have stays : (r.readInside (.hide note)).phase = .inside :=
    phase_flushEntry.trans holds.inside
  have settled : (r.readInside (.hide note)).entry = none :=
    entry_flushEntry
  have undescribed : (r.readInside (.hide note)).description = none :=
    description_flushEntry.trans holds.undescribed
  rw [readAll_annotated holds.inside stays settled found, undescribed]
  rfl

/-- An entry is listed once the wait is over, as if it were listed at once. -/
theorem Holds.readAll_entry
    (holds : r.Holds title finished (some s)) (keys text : Text) :
    (r.readAll [.entry keys text]).Holds title finished
      (some (extend s [entryKeybind keys text])) := by
  have form :
      r.readAll [.entry keys text] = r.readInside (.entry keys text) := by
    rw [readAll_singleton, read_of_inside holds.inside]
  have settled := holds.dropWaiting_flushEntry
  have listed := settled.list rfl (entryKeybind keys text)
  have waiting :
      (r.flushEntry.dropWaiting.list (entryKeybind keys text)).entry = none :=
    rfl
  have growing := listed.growing
  rw [flushEntry_of_none waiting] at growing
  -- The entry is not listed yet, so the section is looked at behind the wait.
  have waits : (r.readInside (.entry keys text)).entry = some (keys, text) :=
    rfl
  rw [form]
  refine ⟨settled.inside, settled.titled, settled.behind, ?_, rfl,
    hidden_flushEntry.trans holds.visible⟩
  rw [flushEntry_of_some waits]
  exact growing

/-- Every item stores its keybind at the end of the section, and leaves nothing
but an entry that waits. -/
theorem Holds.readItem
    (holds : r.Holds title finished (some s)) {item : WrittenItem}
    (writable : item.Writable) :
    (r.readAll item.meaning).Holds title finished
      (some (extend s [item.keybind])) := by
  have settled := holds.dropWaiting_flushEntry
  cases item with
  | described text keys action =>
      obtain ⟨_, quotable, enclosable⟩ := writable
      have found :=
        binding?_bindingLine quotable enclosable.plain enclosable.closes
      rw [WrittenItem.meaning, holds.readAll_described found]
      exact settled.list rfl _
  | entry keys text => exact holds.readAll_entry keys text
  | hidden note keys action =>
      obtain ⟨_, quotable, enclosable⟩ := writable
      have found :=
        binding?_bindingLine quotable enclosable.plain enclosable.closes
      rw [WrittenItem.meaning, holds.readAll_hidden found]
      exact settled.list rfl _

private theorem Holds.readItems
    (holds : r.Holds title finished (some s)) {items : List WrittenItem}
    (writable : ∀ item ∈ items, item.Writable) :
    (r.readAll (items.flatMap WrittenItem.meaning)).Holds title finished
      (some (extend s (items.map WrittenItem.keybind))) := by
  induction items generalizing r s with
  | nil =>
      rw [List.map_nil, extend_nil]
      exact holds
  | cons item items inductionHypothesis =>
      have first := holds.readItem (writable item (List.Mem.head items))
      have rest :=
        inductionHypothesis first fun other member =>
          writable other (List.Mem.tail item member)
      rw [List.flatMap_cons, readAll_append, List.map_cons,
        ← List.singleton_append, ← extend_extend]
      exact rest

end Holds

end Reader

namespace WrittenSection

def stored (s : WrittenSection) : Section :=
  extend { name := some s.name } (s.items.map WrittenItem.keybind)

private theorem visibleSection_stored (s : WrittenSection) :
    Reader.visibleSection s.stored = s.listed := by
  rw [Reader.visibleSection, listed, stored, extend, List.nil_append,
    WrittenItem.filter_keybind]

end WrittenSection

namespace Reader

section Holds

variable {r : Reader} {title : Text} {finished : List Section}
  {current : Option Section}

private theorem Holds.readSection
    (holds : r.Holds title finished current) {s : WrittenSection}
    (writable : s.Writable) :
    (r.readAll s.meaning).Holds title (finished ++ current.toList)
      (some s.stored) :=
  (holds.heading s.name).readItems writable.items

/-- All sections are there at the end, the last of them as the one that grows. -/
theorem Holds.readSections
    (holds : r.Holds title finished current) {sections : List WrittenSection}
    (writable : ∀ s ∈ sections, s.Writable) :
    ∃ finished' current',
      (r.readAll (sections.flatMap WrittenSection.meaning)).Holds title
          finished' current' ∧
        finished' ++ current'.toList =
          finished ++ current.toList ++ sections.map WrittenSection.stored := by
  -- A heading finishes the section in front of it, so the finished sections and
  -- the current one are fixed together.
  induction sections generalizing r finished current with
  | nil =>
      exact ⟨finished, current, holds, (List.append_nil _).symm⟩
  | cons s sections inductionHypothesis =>
      have first := holds.readSection (writable s (List.Mem.head sections))
      obtain ⟨finished', current', rest, all⟩ :=
        inductionHypothesis first fun other member =>
          writable other (List.Mem.tail s member)
      refine ⟨finished', current', ?_, ?_⟩
      · rw [List.flatMap_cons, readAll_append]
        exact rest
      · rw [all, Option.toList_some, List.append_assoc, List.singleton_append,
          List.map_cons]

/-- The region mark ends the last section and with it the keymap. -/
theorem Holds.keymap_closing
    (holds : r.Holds title finished current) :
    (r.read .closing).settle.keymap =
      { title := title,
        sections := ((finished ++ current.toList).map visibleSection).filter
          fun s => s.name.isSome || !s.keybinds.isEmpty,
        hasRegion := true, closed := true } := by
  have form : r.read .closing = r.closeRegion :=
    read_of_inside holds.inside _
  have titled : r.closeRegion.title = title := by
    have flushed : (r.remark .closed).flushEntry.title = r.title :=
      title_flushEntry
    exact flushed.trans holds.titled
  have sections : r.closeRegion.sections = finished ++ current.toList := by
    rw [sections_closeRegion, Reader.sections, finished_flushEntry,
      holds.behind, holds.growing]
  have after : r.closeRegion.phase = .after := rfl
  rw [form, settle_of_after after, keymap, titled, sections, after]
  rfl

end Holds

end Reader

/-! ## The round trip -/

private theorem ofLines_writtenKeymap
    {title : Text} {sections : List WrittenSection}
    (writable : ∀ s ∈ sections, s.Writable) :
    Keymap.ofLines
        (.opening title ::
          (sections.flatMap WrittenSection.meaning ++ [.closing])) =
      writtenKeymap title sections := by
  obtain ⟨finished, current, holds, all⟩ :=
    (Reader.holds_openRegion title).readSections writable
  have visible :
      (sections.map WrittenSection.stored).map Reader.visibleSection =
        sections.map WrittenSection.listed := by
    rw [List.map_map]
    exact List.map_congr_left fun s _ => s.visibleSection_stored
  have named :
      (sections.map WrittenSection.listed).filter
          (fun s => s.name.isSome || !s.keybinds.isEmpty) =
        sections.map WrittenSection.listed := by
    rw [List.filter_eq_self]
    intro s member
    obtain ⟨written, _, rfl⟩ := List.mem_map.mp member
    rfl
  rw [Keymap.ofLines, Reader.readAll_opening, Reader.readAll_append,
    Reader.readAll_singleton, holds.keymap_closing, all, Option.toList_none,
    List.append_nil, List.nil_append, visible, named, writtenKeymap]

/-- A keymap that can be written is read back as it was, without the items that
are hidden. -/
theorem ofSource_writtenSource
    {title : Text} {sections : List WrittenSection}
    (plain : Plain title) (titled : title ≠ [])
    (writable : ∀ s ∈ sections, s.Writable) :
    Keymap.ofSource (writtenSource title sections) =
      writtenKeymap title sections := by
  rw [Keymap.ofSource, readLines_writtenSource plain titled writable,
    ofLines_writtenKeymap writable]

def choreSections : List WrittenSection :=
  [ { name := ['a'],
      items :=
        [.described ['d'] ['k'] ['f', ' ', '(', 'x', ')'],
          .hidden [] ['h'] ['g'], .entry ['e'] []] },
    { name := ['b'], items := [] } ]

theorem ofSource_writtenSource_chores :
    Plain ['t'] ∧ ['t'] ≠ ([] : Text) ∧
      (∀ s ∈ choreSections, s.Writable) ∧
      writtenSource ['t'] choreSections =
        Text.ofString
          "-- # t\n-- ## a\n-- d\n  , (\"k\", f (x))\n-- ! \n  , (\"h\", g)\n-- \"e\" \n-- ## b\n-- #" ∧
      Keymap.ofSource (writtenSource ['t'] choreSections) =
        { title := ['t'],
          sections :=
            [ { name := some ['a'],
                keybinds :=
                  [ { keys := ['k'], description := ['d'],
                      action := ['f', ' ', '(', 'x', ')'],
                      sectionName := some ['a'] },
                    { keys := ['e'], isFake := true,
                      sectionName := some ['a'] } ] },
              { name := some ['b'] } ],
          hasRegion := true, closed := true } := by
  have plain : Plain ['t'] := by
    decide
  have titled : ['t'] ≠ ([] : Text) := by
    decide
  have writable : ∀ s ∈ choreSections, s.Writable := by
    decide
  refine ⟨plain, titled, writable, by decide, ?_⟩
  rw [ofSource_writtenSource plain titled writable]
  rfl

end Keychart.Markup
