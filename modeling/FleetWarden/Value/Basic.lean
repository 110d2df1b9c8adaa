import FleetWarden.Numeral.Binary64
import FleetWarden.Value.Calendar

/-!
# Values of settings and remote fields

Configuration files and remote answers hold values whose kind is only known when they are read.
`isTrue` says which values count as set: everything but nothing at all, false, zeros, and empty
texts, lists and tables.
-/

namespace FleetWarden

open Numeral

/-- A value of a kind that is only known when it is read. -/
inductive Value where
  | null
  | bool (b : Bool)
  | int (n : Int)
  | float (x : Binary64)
  | text (s : String)
  | date (d : Date)
  | time (t : TimeOfDay)
  | moment (m : Moment)
  | list (items : List Value)
  | table (entries : List (String × Value))
deriving Inhabited

namespace Value

/-- Whether the value counts as set. -/
def isTrue : Value → Bool
  | null => false
  | bool b => b
  | int n => n ≠ 0
  | float (.finite _ code) => code.val ≠ 0
  | float _ => true
  | text s => s ≠ ""
  | date _ => true
  | time _ => true
  | moment _ => true
  | list items => !items.isEmpty
  | table entries => !entries.isEmpty

/-- Whether the value may be looked up as a key; lists and tables may not. -/
def isKey : Value → Bool
  | list _ => false
  | table _ => false
  | _ => true

/-- Whether the value stands for a setting left out: nothing at all or the empty text. -/
def isUnset : Value → Bool
  | null => true
  | text s => s = ""
  | _ => false

end Value
end FleetWarden
