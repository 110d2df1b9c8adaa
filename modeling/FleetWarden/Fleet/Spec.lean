import FleetWarden.Numeral.Whole
import FleetWarden.Text.Quoted

/-!
# Fleets and their size bounds

A fleet is a scale set that is to be tracked: its name, which must not be blank, and the bounds of
its size. `FleetSpec.read` reads the form `MIN:MAX:NAME`; the name may hold further colons.

A tracked `Fleet` has a number of its own, so that two fleets registered with the same name and
bounds stay different fleets.
-/

namespace FleetWarden

open Text Numeral

/-- A named scale set with the least and the largest size it should have. -/
structure FleetSpec where
  name : String
  minSize : Nat
  maxSize : Nat
  name_isSet : blank name = false
  min_le_max : minSize ≤ maxSize
deriving DecidableEq

/-- Why there is no such fleet. -/
inductive SpecError where
  | blankName
  | negativeMin (minSize : Int)
  | maxBelowMin (maxSize minSize : Int)
  | notThreeParts (text : String)
  | boundsNotWhole (text : String)
deriving DecidableEq

namespace SpecError

def message : SpecError → String
  | blankName => "Fleet name must not be empty"
  | negativeMin n => "min_size must be >= 0, got " ++ Whole.text n
  | maxBelowMin m n =>
    "max_size (" ++ Whole.text m ++ ") must be >= min_size (" ++ Whole.text n ++ ")"
  | notThreeParts s => "Fleet spec must be MIN:MAX:NAME, got: " ++ quoted s
  | boundsNotWhole s => "Fleet size bounds must be integers: " ++ quoted s

end SpecError

namespace FleetSpec

/-- The fleet with the given name and bounds; the name is looked at first, then the lower bound. -/
def make (name : String) (minSize maxSize : Int) : Except SpecError FleetSpec :=
  if hn : blank name = false then
    if hm : 0 ≤ minSize then
      if h : minSize ≤ maxSize then .ok ⟨name, minSize.toNat, maxSize.toNat, hn, by omega⟩
      else .error (.maxBelowMin maxSize minSize)
    else .error (.negativeMin minSize)
  else .error .blankName

/-- What stands before the first colon and what stands after it. -/
def splitColon? : List Char → Option (List Char × List Char)
  | [] => none
  | c :: rest =>
    if c = ':' then some ([], rest)
    else (splitColon? rest).map fun (before, after) => (c :: before, after)

/-- The texts before, between and after the first two colons. -/
def threeParts? (s : String) : Option (String × String × String) :=
  match splitColon? s.toList with
  | none => none
  | some (first, rest) =>
    match splitColon? rest with
    | none => none
    | some (second, third) => some (.ofList first, .ofList second, .ofList third)

/-- Reads a fleet from the form `MIN:MAX:NAME`. -/
def read (s : String) : Except SpecError FleetSpec :=
  match threeParts? s with
  | none => .error (.notThreeParts s)
  | some (low, high, name) =>
    match Whole.read low, Whole.read high with
    | .ok minSize, .ok maxSize => make (trim name) minSize maxSize
    | _, _ => .error (.boundsNotWhole s)

/-- The fleet in the form that `read` takes. -/
def written (f : FleetSpec) : String :=
  Whole.text f.minSize ++ ":" ++ Whole.text f.maxSize ++ ":" ++ f.name

/-- The fleet as messages show it. -/
def shown (f : FleetSpec) : String :=
  "FleetDescriptor(name=" ++ quoted f.name ++ ", bounds=(" ++ Whole.text f.minSize ++ ", " ++
    Whole.text f.maxSize ++ "))"

end FleetSpec

/-- A fleet together with notes of the caller, which nothing here reads. -/
structure AnnotatedFleet (μ : Type) where
  spec : FleetSpec
  notes : μ

/-- A tracked fleet. -/
structure Fleet where
  id : Nat
  spec : FleetSpec
deriving DecidableEq

namespace Fleet

def name (f : Fleet) : String := f.spec.name

end Fleet
end FleetWarden
