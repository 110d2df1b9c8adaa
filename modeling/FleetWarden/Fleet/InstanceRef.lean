import FleetWarden.Text.Blank
import FleetWarden.Text.Case

/-!
# References to instances

An instance is known by the key of its resource id: trimmed, in lower case, and behind the scheme
`azure://`. The same instance is reported with and without the scheme and in any case, so keys and
not resource ids are compared. `ofRaw?_eq_none_iff` says that the blank texts are the only ones
without a key.
-/

namespace FleetWarden

open Text

/-- What every key begins with. -/
def scheme : String := "azure://"

def hasScheme (s : String) : Bool := scheme.toList.isPrefixOf s.toList

/-- Puts the scheme in front of a text that does not begin with it. -/
def withScheme (s : String) : String := if hasScheme s then s else scheme ++ s

/-- The key of a resource id; a blank text has none. -/
def instanceKey? (raw : String) : Option String :=
  if trim raw = "" then none else some (withScheme (lower (trim raw)))

/-- A reference to an instance by its key. -/
structure InstanceRef where
  key : String
  isKey : ∃ raw, instanceKey? raw = some key
deriving DecidableEq

namespace InstanceRef

/-- The reference that a resource id stands for. -/
def ofRaw? (raw : String) : Option InstanceRef :=
  match h : instanceKey? raw with
  | none => none
  | some key => some ⟨key, raw, h⟩

theorem map_key_ofRaw? (raw : String) : (ofRaw? raw).map key = instanceKey? raw := by
  unfold ofRaw?
  split <;> simp [*]

theorem ofRaw?_eq_none_iff {raw : String} : ofRaw? raw = none ↔ blank raw = true := by
  rw [← Option.map_eq_none_iff, map_key_ofRaw?, instanceKey?, ← trim_eq_empty_iff]
  by_cases h : trim raw = "" <;> simp [h]

/-- The key without its scheme. -/
def resourceId (ref : InstanceRef) : String :=
  String.ofList (ref.key.toList.drop scheme.toList.length)

end InstanceRef
end FleetWarden
