import FleetWarden.Text.Quoted
import FleetWarden.Numeral.Quantity
import FleetWarden.Value.Basic

/-!
# Values as text

`literal` is the form of a value inside lists, tables and messages: texts are quoted. `shown` is
the form in running text, which differs for texts and for dates and times standing alone.
`isWritable` says whether every whole number in a value is short enough to be written at all.
-/

namespace FleetWarden

open Numeral Text

/-- A call with the given arguments. -/
def callText (name : String) (args : List String) : String :=
  name ++ "(" ++ String.intercalate ", " args ++ ")"

/-- A field of a date or a time as an argument. -/
def fieldText (n : Nat) : String := Whole.text n

namespace Date

/-- The date as a constructor call. -/
def literal (d : Date) : String := callText "datetime.date" (d.fields.map fieldText)

end Date

namespace TimeOfDay

def literal (t : TimeOfDay) : String := callText "datetime.time" (t.fields.map fieldText)

end TimeOfDay

namespace Moment

/-- A zone by its distance from universal time, in days and seconds of a day. -/
def zoneLiteral (minutes : Int) : String :=
  if minutes = 0 then "datetime.timezone.utc"
  else
    let seconds := (minutes * 60) % 86400
    let args := (if minutes < 0 then ["days=-1"] else []) ++
      (if seconds = 0 then [] else ["seconds=" ++ Whole.text seconds])
    callText "datetime.timezone" [callText "datetime.timedelta" args]

def literal (m : Moment) : String :=
  callText "datetime.datetime"
    (m.date.fields.map fieldText ++ m.time.fields.map fieldText ++
      (m.offset.map fun minutes => "tzinfo=" ++ zoneLiteral minutes).toList)

end Moment

namespace Value

mutual

/-- The form of a value inside lists, tables and messages. -/
def literal : Value → String
  | null => "None"
  | bool b => truthText b
  | int n => Whole.text n
  | float x => x.text
  | text s => quoted s
  | date d => d.literal
  | time t => t.literal
  | moment m => m.literal
  | list items => "[" ++ String.intercalate ", " (itemLiterals items) ++ "]"
  | table entries => "\x7b" ++ String.intercalate ", " (entryLiterals entries) ++ "\x7d"

def itemLiterals : List Value → List String
  | [] => []
  | v :: rest => literal v :: itemLiterals rest

def entryLiterals : List (String × Value) → List String
  | [] => []
  | (key, v) :: rest => (quoted key ++ ": " ++ literal v) :: entryLiterals rest

end

/-- The form of a value in running text. -/
def shown : Value → String
  | text s => s
  | date d => d.text
  | time t => t.text
  | moment m => m.text
  | v => v.literal

mutual

/-- Whether no whole number in the value has too many digits to be written. -/
def isWritable : Value → Bool
  | int n => (Whole.write? n).isSome
  | list items => allWritable items
  | table entries => entriesWritable entries
  | _ => true

def allWritable : List Value → Bool
  | [] => true
  | v :: rest => isWritable v && allWritable rest

def entriesWritable : List (String × Value) → Bool
  | [] => true
  | (_, v) :: rest => isWritable v && entriesWritable rest

end

end Value
end FleetWarden
