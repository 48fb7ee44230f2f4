import Keychart.Key.Parse
import Keychart.Log
import Keychart.Text.Quoted

/-!
# Bindings of the viewer

Which keys trigger which action of the viewer.  Settings can give an action
other keys than the usual ones.
-/

namespace Keychart

/-- What a key can make the viewer do. -/
inductive Action where
  | quit
  | reload
  | scrollUp
  | scrollDown
  | pageUp
  | pageDown
  | scrollTop
  | scrollBottom
  | cursorLeft
  | cursorRight
  | cursorWordLeft
  | cursorWordRight
  | cursorLineStart
  | cursorLineEnd
  | deleteCharBackward
  | deleteCharForward
  | deleteWordBackward
  | deleteToLineStart
  | deleteToLineEnd
deriving DecidableEq, Repr

namespace Action

def all : List Action :=
  [quit, reload, scrollUp, scrollDown, pageUp, pageDown, scrollTop, scrollBottom, cursorLeft,
   cursorRight, cursorWordLeft, cursorWordRight, cursorLineStart, cursorLineEnd,
   deleteCharBackward, deleteCharForward, deleteWordBackward, deleteToLineStart,
   deleteToLineEnd]

def name : Action → Text
  | quit => Text.ofString "quit"
  | reload => Text.ofString "reload"
  | scrollUp => Text.ofString "scrollUp"
  | scrollDown => Text.ofString "scrollDown"
  | pageUp => Text.ofString "pageUp"
  | pageDown => Text.ofString "pageDown"
  | scrollTop => Text.ofString "scrollTop"
  | scrollBottom => Text.ofString "scrollBottom"
  | cursorLeft => Text.ofString "cursorLeft"
  | cursorRight => Text.ofString "cursorRight"
  | cursorWordLeft => Text.ofString "cursorWordLeft"
  | cursorWordRight => Text.ofString "cursorWordRight"
  | cursorLineStart => Text.ofString "cursorLineStart"
  | cursorLineEnd => Text.ofString "cursorLineEnd"
  | deleteCharBackward => Text.ofString "deleteCharBackward"
  | deleteCharForward => Text.ofString "deleteCharForward"
  | deleteWordBackward => Text.ofString "deleteWordBackward"
  | deleteToLineStart => Text.ofString "deleteToLineStart"
  | deleteToLineEnd => Text.ofString "deleteToLineEnd"

def ofName? (wanted : Text) : Option Action := all.find? fun a => a.name = wanted

/-- The keys that trigger an action unless settings say otherwise. -/
def usualKeys : Action → List Text
  | quit => [Key.escape, Key.ctrl ['c']]
  | reload => [Key.ctrl ['r']]
  | scrollUp => [Key.up, Key.ctrl ['p']]
  | scrollDown => [Key.down, Key.ctrl ['n']]
  | pageUp => [Key.pageUp]
  | pageDown => [Key.pageDown]
  | scrollTop => [Key.ctrl Key.home]
  | scrollBottom => [Key.ctrl Key.endKey]
  | cursorLeft => [Key.left, Key.ctrl ['b']]
  | cursorRight => [Key.right, Key.ctrl ['f']]
  | cursorWordLeft => [Key.alt Key.left, Key.ctrl Key.left, Key.alt ['b']]
  | cursorWordRight => [Key.alt Key.right, Key.ctrl Key.right, Key.alt ['f']]
  | cursorLineStart => [Key.home, Key.ctrl ['a']]
  | cursorLineEnd => [Key.endKey, Key.ctrl ['e']]
  | deleteCharBackward => [Key.backspace]
  | deleteCharForward => [Key.delete, Key.ctrl ['d']]
  | deleteWordBackward => [Key.ctrl ['w'], Key.alt Key.backspace]
  | deleteToLineStart => [Key.ctrl ['u']]
  | deleteToLineEnd => [Key.ctrl ['k']]

end Action

/-- The keys that settings give one action: one name, or a list of names. -/
inductive KeyChoice where
  | one (key : Text)
  | many (keys : List Text)
deriving DecidableEq, Repr

def KeyChoice.keys : KeyChoice → List Text
  | one key => [key]
  | many keys => keys

/-- The keys of every action. -/
structure Bindings where
  keys : Action → List Text

namespace Bindings

def usual : Bindings := ⟨Action.usualKeys⟩

def set (b : Bindings) (action : Action) (keys : List Text) : Bindings :=
  ⟨fun a => if a = action then keys else b.keys a⟩

/-- The usual keys with those of the settings in their place; names of unknown
actions are left out. -/
def ofChoices (choices : List (Text × KeyChoice)) : Bindings :=
  choices.foldl
    (fun b (name, choice) =>
      match Action.ofName? name with
      | some action => b.set action choice.keys
      | none => b)
    usual

/-- Reports the names of unknown actions. -/
def warnings (choices : List (Text × KeyChoice)) : List Log.Record :=
  choices.filterMap fun (name, _) =>
    match Action.ofName? name with
    | some _ => none
    | none =>
      some
        ⟨.warning, Text.ofString "apekey.tui.keybindings",
          Text.ofString "Ignoring keybinding for unknown action " ++ Text.quoted name⟩

def triggers (b : Bindings) (data : Text) (action : Action) : Bool :=
  (b.keys action).any fun key => Key.isKey data key

end Bindings

end Keychart
