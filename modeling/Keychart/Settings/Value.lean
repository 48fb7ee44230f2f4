import Keychart.Number.Binary
import Keychart.Text.Basic

/-!
# Values of a settings document

What a document can hold before anything is asked of it.  The members of a table
keep their order.
-/

namespace Keychart.Settings

inductive Value where
  | null
  | bool (b : Bool)
  | integer (n : Int)
  | float (d : Number.Double)
  | string (text : Text)
  /-- A date, a time, or both. -/
  | moment
  | list (items : List Value)
  | table (members : List (Text × Value))
deriving Inhabited

def member? (name : Text) (members : List (Text × Value)) : Option Value :=
  (members.find? fun m => m.1 = name).map Prod.snd

end Keychart.Settings
