import Keychart.Proofs.Text.Pieces
import Keychart.Settings.Load
import Keychart.Theme.Palette

/-!
# Styles that take no columns

What a style writes around a text is made of escape sequences, so it takes no columns.
The parts of a colour stand in such a sequence as numbers, where a minus sign may not:
behind one the sequence is plain text.
-/

namespace Keychart

namespace Text

private theorem isParameter_of_mem_ofNat {n : Nat} {c : Char} (member : c ∈ ofNat n) :
    isParameter c = true := by
  have digit : c.isDigit = true :=
    Nat.isDigit_of_mem_toDigits (by decide) (by decide) member
  have bounds : 48 ≤ c.toNat ∧ c.toNat ≤ 57 := by
    simpa [Char.isDigit, UInt32.le_iff_toNat_le] using digit
  have least : '0' ≤ c := bounds.1
  have most : c ≤ '9' := bounds.2
  simp only [isParameter, least, most, decide_true, Bool.and_self, Bool.true_or]

private theorem mem_ofInt {n : Int} {c : Char} (member : c ∈ ofInt n) :
    isParameter c = true ∨ (c = '-' ∧ n < 0) := by
  cases n with
  | ofNat n => exact Or.inl (isParameter_of_mem_ofNat member)
  | negSucc n =>
      rcases List.mem_cons.mp member with rfl | digit
      · exact Or.inr ⟨rfl, Int.negSucc_lt_zero n⟩
      · exact Or.inl (isParameter_of_mem_ofNat digit)

private theorem minus_mem_ofInt {n : Int} (negative : n < 0) : '-' ∈ ofInt n := by
  cases n with
  | ofNat n => exact absurd negative (Int.not_lt.mpr (Int.natCast_nonneg n))
  | negSucc n => exact List.mem_cons_self

private theorem stripEscapes_control
    (parameters : Text) (known : ∀ c ∈ parameters, isParameter c = true) (rest : Text) :
    stripEscapes ('\x1b' :: '[' :: (parameters ++ 'm' :: rest)) = stripEscapes rest := by
  have sequence := stripEscapes_sequence (.control parameters 'm' known rfl) rest
  simpa only [List.cons_append, List.append_assoc, List.nil_append] using sequence

/-- A minus sign among the parameters ends what could have been a control sequence. -/
theorem escapeLength_of_minus
    {parameters : Text} (known : ∀ c ∈ parameters, isParameter c = true ∨ c = '-')
    (minus : '-' ∈ parameters) (rest : Text) :
    escapeLength ('\x1b' :: '[' :: (parameters ++ rest)) = 0 := by
  obtain ⟨front, back, rfl, first⟩ := List.eq_append_cons_of_mem minus
  have all : ∀ c ∈ front, isParameter c = true := by
    intro c member
    rcases known c (List.mem_append_left _ member) with parameter | rfl
    · exact parameter
    · exact absurd member first
  obtain ⟨-, stopped⟩ :=
    takeWhile_append_cons all (by decide : isParameter '-' = false) (back ++ rest)
  rw [List.append_assoc, List.cons_append, escapeLength, stopped]
  rfl

end Text

def Rgb.IsNatural (color : Rgb) : Prop := 0 ≤ color.red ∧ 0 ≤ color.green ∧ 0 ≤ color.blue

instance (color : Rgb) : Decidable color.IsNatural :=
  inferInstanceAs (Decidable (_ ∧ _ ∧ _))

namespace Style

/-- What a style writes is taken away by stripping and takes no columns. -/
def IsUnseen (style : Style) : Prop :=
  ∀ text, '\x1b' ∉ text →
    Text.stripEscapes (style.apply text) = text ∧
      Text.visibleWidth (style.apply text) = Text.visibleWidth text

/-- Both ends of a style are stripped, whatever stands behind them. -/
structure Stripped (style : Style) : Prop where
  front : ∀ rest, Text.stripEscapes (style.front ++ rest) = Text.stripEscapes rest
  back : ∀ rest, Text.stripEscapes (style.back ++ rest) = Text.stripEscapes rest

theorem Stripped.within {inner outer : Style} (inside : inner.Stripped)
    (outside : outer.Stripped) : (inner.within outer).Stripped := by
  constructor
  · intro rest
    rw [Style.within, List.append_assoc, outside.front, inside.front]
  · intro rest
    rw [Style.within, List.append_assoc, inside.back, outside.back]

private theorem Stripped.isUnseen {style : Style} (stripped : style.Stripped) : style.IsUnseen := by
  intro text plain
  have shown : ∀ c ∈ text, c ≠ '\x1b' := fun c member same => plain (same ▸ member)
  have same : Text.stripEscapes (style.apply text) = text := by
    have nothing : Text.stripEscapes style.back = [] := by
      have alone := stripped.back []
      rw [List.append_nil] at alone
      exact alone
    rw [apply, List.append_assoc, stripped.front, Text.stripEscapes_append_of_plain shown, nothing,
      List.append_nil]
  refine ⟨same, ?_⟩
  rw [Text.visibleWidth, Text.measured, same, Text.visibleWidth, Text.measured,
    Text.stripEscapes_eq_self shown]

theorem stripped_plain : plain.Stripped := ⟨fun _ => rfl, fun _ => rfl⟩

private theorem stripped_bold : bold.Stripped :=
  ⟨Text.stripEscapes_control ['1'] (List.all_eq_true.mp rfl),
    Text.stripEscapes_control ['2', '2'] (List.all_eq_true.mp rfl)⟩

private theorem stripped_emphasis : emphasis.Stripped :=
  ⟨Text.stripEscapes_control ['1', ';', '4'] (List.all_eq_true.mp rfl),
    Text.stripEscapes_control ['2', '2', ';', '2', '4'] (List.all_eq_true.mp rfl)⟩

def parameters (layer : Char) (color : Rgb) : Text :=
  layer :: '8' :: ';' :: '2' :: ';' :: parts color

section Parameters

variable {layer : Char} {color : Rgb}

private theorem mem_parts {c : Char} (member : c ∈ parts color) :
    Text.isParameter c = true ∨ (c = '-' ∧ ¬ color.IsNatural) := by
  simp only [parts, List.mem_append, List.mem_cons, or_assoc] at member
  have separator : Text.isParameter ';' = true := by decide
  rcases member with red | rfl | green | rfl | blue
  · exact (Text.mem_ofInt red).imp_right <|
      And.imp_right fun negative natural => Int.not_le.mpr negative natural.1
  · exact Or.inl separator
  · exact (Text.mem_ofInt green).imp_right <|
      And.imp_right fun negative natural => Int.not_le.mpr negative natural.2.1
  · exact Or.inl separator
  · exact (Text.mem_ofInt blue).imp_right <|
      And.imp_right fun negative natural => Int.not_le.mpr negative natural.2.2

private theorem minus_mem_parts (negative : ¬ color.IsNatural) : '-' ∈ parts color := by
  simp only [parts, List.mem_append, List.mem_cons, or_assoc]
  by_cases red : color.red < 0
  · exact Or.inl (Text.minus_mem_ofInt red)
  · by_cases green : color.green < 0
    · exact Or.inr (Or.inr (Or.inl (Text.minus_mem_ofInt green)))
    · have blue : color.blue < 0 := by
        by_contra blue
        exact negative ⟨Int.not_lt.mp red, Int.not_lt.mp green, Int.not_lt.mp blue⟩
      exact Or.inr (Or.inr (Or.inr (Or.inr (Text.minus_mem_ofInt blue))))

private theorem mem_parameters (known : Text.isParameter layer = true) {c : Char}
    (member : c ∈ parameters layer color) :
    Text.isParameter c = true ∨ (c = '-' ∧ ¬ color.IsNatural) := by
  simp only [parameters, List.mem_cons] at member
  rcases member with rfl | rfl | rfl | rfl | rfl | member
  · exact Or.inl known
  · exact Or.inl rfl
  · exact Or.inl rfl
  · exact Or.inl rfl
  · exact Or.inl rfl
  · exact mem_parts member

private theorem stripEscapes_parameters (known : Text.isParameter layer = true)
    (natural : color.IsNatural) (rest : Text) :
    Text.stripEscapes ('\x1b' :: '[' :: (parameters layer color ++ 'm' :: rest)) =
      Text.stripEscapes rest := by
  refine Text.stripEscapes_control _ (fun c member => ?_) rest
  rcases mem_parameters known member with parameter | ⟨-, negative⟩
  · exact parameter
  · exact absurd natural negative

/-- A sequence with a negative part stays. -/
theorem stripEscapes_parameters_ne_nil (known : Text.isParameter layer = true)
    (negative : ¬ color.IsNatural) (rest : Text) :
    Text.stripEscapes ('\x1b' :: '[' :: (parameters layer color ++ rest)) ≠ [] := by
  have minus : '-' ∈ parameters layer color := by
    simp only [parameters, List.mem_cons]
    exact Or.inr (Or.inr (Or.inr (Or.inr (Or.inr (minus_mem_parts negative)))))
  have plain := Text.escapeLength_of_minus
    (fun c member => (mem_parameters known member).imp_right And.left) minus rest
  rw [Text.stripEscapes_plain plain]
  exact List.cons_ne_nil _ _

end Parameters

private theorem stripEscapes_of_isUnseen {style : Style} (unseen : style.IsUnseen) :
    Text.stripEscapes (style.front ++ style.back) = [] := by
  have nothing := (unseen [] List.not_mem_nil).1
  rw [apply, List.append_nil] at nothing
  exact nothing

/-- A style that sets a colour, and hides what it writes otherwise. -/
structure Sets (style : Style) (layer : Char) (color : Rgb) : Prop where
  known : Text.isParameter layer = true
  front : ∀ rest, Text.stripEscapes (style.front ++ rest) =
    Text.stripEscapes ('\x1b' :: '[' :: (parameters layer color ++ 'm' :: rest))
  back : ∀ rest, Text.stripEscapes (style.back ++ rest) = Text.stripEscapes rest

theorem Sets.stripped {style : Style} {layer : Char} {color : Rgb}
    (sets : style.Sets layer color) (natural : color.IsNatural) : style.Stripped :=
  ⟨fun rest => by rw [sets.front, stripEscapes_parameters sets.known natural], sets.back⟩

theorem Sets.isUnseen_iff {style : Style} {layer : Char} {color : Rgb}
    (sets : style.Sets layer color) : style.IsUnseen ↔ color.IsNatural := by
  constructor
  · intro unseen
    by_contra negative
    have nothing := stripEscapes_of_isUnseen unseen
    rw [sets.front] at nothing
    exact stripEscapes_parameters_ne_nil sets.known negative _ nothing
  · exact fun natural => (sets.stripped natural).isUnseen

theorem Sets.within {inner outer : Style} {layer : Char} {color : Rgb}
    (sets : inner.Sets layer color) (outside : outer.Stripped) :
    (inner.within outer).Sets layer color := by
  refine ⟨sets.known, fun rest => ?_, fun rest => ?_⟩
  · rw [Style.within, List.append_assoc, outside.front, sets.front]
  · rw [Style.within, List.append_assoc, sets.back, outside.back]

private theorem sets_foreground (color : Rgb) : (foreground (some color)).Sets '3' color := by
  refine ⟨rfl, fun rest => ?_, ?_⟩
  · simp only [foreground, parameters, List.append_assoc]
    rfl
  · exact Text.stripEscapes_control ['3', '9'] (List.all_eq_true.mp rfl)

private theorem sets_background (color : Rgb) : (background (some color)).Sets '4' color := by
  refine ⟨rfl, fun rest => ?_, ?_⟩
  · simp only [background, parameters, List.append_assoc]
    rfl
  · exact Text.stripEscapes_control ['4', '9'] (List.all_eq_true.mp rfl)

section Colored

variable {color : Option Rgb}

private theorem stripped_foreground (natural : ∀ c ∈ color, c.IsNatural) :
    (foreground color).Stripped := by
  cases color with
  | none => exact stripped_plain
  | some color => exact (sets_foreground color).stripped (natural color rfl)

private theorem stripped_background (natural : ∀ c ∈ color, c.IsNatural) :
    (background color).Stripped := by
  cases color with
  | none => exact stripped_plain
  | some color => exact (sets_background color).stripped (natural color rfl)

private theorem stripped_boldForeground (natural : ∀ c ∈ color, c.IsNatural) :
    (boldForeground color).Stripped := (stripped_foreground natural).within stripped_bold

theorem isUnseen_foreground_iff : (foreground color).IsUnseen ↔ ∀ c ∈ color, c.IsNatural := by
  refine ⟨?_, fun natural => (stripped_foreground natural).isUnseen⟩
  rintro unseen c rfl
  exact (sets_foreground c).isUnseen_iff.mp unseen

theorem isUnseen_background_iff : (background color).IsUnseen ↔ ∀ c ∈ color, c.IsNatural := by
  refine ⟨?_, fun natural => (stripped_background natural).isUnseen⟩
  rintro unseen c rfl
  exact (sets_background c).isUnseen_iff.mp unseen

theorem isUnseen_boldForeground_iff :
    (boldForeground color).IsUnseen ↔ ∀ c ∈ color, c.IsNatural := by
  refine ⟨?_, fun natural => (stripped_boldForeground natural).isUnseen⟩
  rintro unseen c rfl
  exact ((sets_foreground c).within stripped_bold).isUnseen_iff.mp unseen

end Colored

end Style

/-! ## Themes -/

namespace Theme

def styles (theme : Theme) : List Style :=
  [theme.title, theme.heading, theme.keys, theme.description, theme.comment, theme.highlight,
    theme.scrollInfo, theme.noMatch, theme.status, theme.error, theme.prompt, theme.background]

private theorem isNatural_usual {shade : Shade} {name : ColorName} {color : Rgb}
    (counts : usual shade name = some color) : color.IsNatural := by
  cases shade <;> cases name <;> cases counts <;> decide

/-- The usual colours are natural, so it comes to those that are given. -/
theorem forall_get_isNatural_iff (colors : Colors) (shade : Shade) :
    (∀ name, ∀ c ∈ colors.get (usual shade) name, c.IsNatural) ↔
      ∀ name color, colors.choice name = .rgb color → color.IsNatural := by
  constructor
  · intro natural name color given
    apply natural name
    rw [Colors.get, given]
    rfl
  · intro natural name color counts
    cases given : colors.choice name with
    | unset =>
        rw [Colors.get, given] at counts
        exact isNatural_usual counts
    | none =>
        rw [Colors.get, given] at counts
        cases counts
    | rgb other =>
        rw [Colors.get, given] at counts
        cases counts
        exact natural name color given

section Alternatives

variable {first second : Option Rgb}

private theorem forall_mem_or
    (firsts : ∀ c ∈ first, c.IsNatural) (seconds : ∀ c ∈ second, c.IsNatural) :
    ∀ c ∈ first.or second, c.IsNatural := by
  cases first with
  | none => exact seconds
  | some color => exact firsts

private theorem forall_mem_of_or (natural : ∀ c ∈ first.or second, c.IsNatural) :
    ∀ c ∈ first, c.IsNatural := by
  cases first with
  | none => exact nofun
  | some color => exact natural

end Alternatives

/-- The styles of natural colours are stripped. -/
theorem stripped_of_mem_styles
    {colors : Colors} {shade : Shade}
    (natural : ∀ name, ∀ c ∈ colors.get (usual shade) name, c.IsNatural) :
    ∀ style ∈ (ofColors colors shade).styles, style.Stripped := by
  have comment := forall_mem_or (natural .comment) (natural .scrollbar)
  simp only [styles, ofColors, List.forall_mem_cons]
  exact ⟨Style.stripped_boldForeground (forall_mem_or (natural .title) (natural .keys)),
    Style.stripped_boldForeground (forall_mem_or (natural .heading) (natural .fg)),
    Style.stripped_foreground (natural .keys), Style.stripped_foreground (natural .fg),
    Style.stripped_foreground comment, Style.stripped_emphasis,
    Style.stripped_foreground (natural .scrollbar), Style.stripped_foreground comment,
    Style.stripped_foreground (natural .scrollbar), Style.stripped_boldForeground (natural .error),
    Style.stripped_boldForeground (natural .keys), Style.stripped_background (natural .bg), nofun⟩

/-- Each colour counts in some style, and each style in front of others. -/
theorem forall_styles_isUnseen_iff (colors : Colors) (shade : Shade) :
    (∀ style ∈ (ofColors colors shade).styles, style.IsUnseen) ↔
      ∀ name, ∀ c ∈ colors.get (usual shade) name, c.IsNatural := by
  constructor
  · simp only [styles, ofColors, List.forall_mem_cons, Style.isUnseen_foreground_iff,
      Style.isUnseen_background_iff, Style.isUnseen_boldForeground_iff]
    rintro ⟨title, heading, keys, fg, comment, -, scrollbar, -, -, error, -, bg, -⟩ name
    cases name with
    | fg => exact fg
    | bg => exact bg
    | title => exact forall_mem_of_or title
    | heading => exact forall_mem_of_or heading
    | keys => exact keys
    | comment => exact forall_mem_of_or comment
    | scrollbar => exact scrollbar
    | error => exact error
  · exact fun natural style member => (stripped_of_mem_styles natural style member).isUnseen

theorem isWritable_iff (colors : Colors) :
    isWritable colors ↔
      ∀ name color, colors.choice name = .rgb color → Style.isWritable color := by
  rw [isWritable, List.all_eq_true]
  constructor
  · intro all name color given
    have known : name ∈ ColorName.all := by cases name <;> decide
    have here := all name known
    rw [given] at here
    exact here
  · intro writable name _
    cases given : colors.choice name with
    | unset => rfl
    | none => rfl
    | rgb color => exact writable name color given

/-- Colours make a theme if they can be written, and its styles take no columns exactly if no
given colour has a negative part. -/
theorem styles_isUnseen_iff_isNatural (colors : Colors) (shade : Shade) :
    ((∃ theme, ofColors? colors shade = some theme) ↔
        ∀ name color, colors.choice name = .rgb color → Style.isWritable color) ∧
      ∀ theme, ofColors? colors shade = some theme →
        ((∀ style ∈ theme.styles, ∀ text, '\x1b' ∉ text →
            Text.stripEscapes (style.apply text) = text ∧
              Text.visibleWidth (style.apply text) = Text.visibleWidth text) ↔
          ∀ name color, colors.choice name = .rgb color → color.IsNatural) := by
  rw [← isWritable_iff, ofColors?]
  by_cases writable : isWritable colors = true
  · rw [if_pos writable]
    refine ⟨⟨fun _ => writable, fun _ => ⟨_, rfl⟩⟩, ?_⟩
    rintro theme made
    cases made
    exact (forall_styles_isUnseen_iff colors shade).trans (forall_get_isNatural_iff colors shade)
  · rw [if_neg writable]
    refine ⟨⟨?_, fun written => absurd written writable⟩, nofun⟩
    rintro ⟨theme, made⟩
    cases made

/-- A grey comment of a letter and a tab takes four columns on a light screen. -/
theorem styles_isUnseen_iff_isNatural_grey :
    let colors : Colors :=
      ⟨fun name => if name = .comment then .rgb ⟨0x80, 0x80, 0x80⟩ else .unset⟩
    ∃ theme, ofColors? colors .light = some theme ∧
      Text.stripEscapes (theme.comment.apply ['a', '\t']) = ['a', '\t'] ∧
      Text.visibleWidth (theme.comment.apply ['a', '\t']) = 4 := by
  intro colors
  have grey : ∀ name color, colors.choice name = .rgb color → color = ⟨0x80, 0x80, 0x80⟩ := by
    intro name color given
    cases name <;> cases given
    rfl
  obtain ⟨⟨-, makes⟩, unseen⟩ := styles_isUnseen_iff_isNatural colors .light
  obtain ⟨theme, made⟩ := makes fun name color given => grey name color given ▸ by decide
  have natural : ∀ name color, colors.choice name = .rgb color → color.IsNatural :=
    fun name color given => grey name color given ▸ by decide
  have member : theme.comment ∈ theme.styles := by simp [styles]
  obtain ⟨same, width⟩ := (unseen theme made).mpr natural _ member ['a', '\t'] (by decide)
  refine ⟨theme, made, same, ?_⟩
  rw [width]
  decide

/-- A colour of three minus signs is accepted, and what sets it is not stripped. -/
theorem not_unseen_signed :
    ∃ settings theme,
      Settings.parse (Text.ofString "[colors]\nfg = \"#-1-1-1\"\n") = .ok settings ∧
        ofSettings? settings = some theme ∧ theme.description ∈ theme.styles ∧
        Text.stripEscapes (theme.description.apply ['x']) ≠ ['x'] ∧
        Text.visibleWidth (theme.description.apply ['x']) ≠ Text.visibleWidth ['x'] := by
  let choices : List (ColorName × ColorChoice) :=
    ColorName.all.map fun name => (name, if name = .fg then .rgb ⟨-1, -1, -1⟩ else .unset)
  let settings : Settings := { colors := ⟨Settings.lookupColor choices⟩ }
  have table : Settings.Toml.parse (Text.ofString "[colors]\nfg = \"#-1-1-1\"\n") =
      .ok (.table [(Text.ofString "colors",
        .table [(Text.ofString "fg", .string (Text.ofString "#-1-1-1"))])]) := by
    cbv
  refine ⟨settings, _, ?_, rfl, by decide, by decide, by decide⟩
  rw [Settings.parse, table]
  rfl

end Theme

end Keychart
