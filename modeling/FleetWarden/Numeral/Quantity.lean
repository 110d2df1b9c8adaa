import FleetWarden.Numeral.Shortest

/-!
# Quantities

A quantity is a whole number of any size, a double-precision number or a truth value, which counts
as one or zero. It keeps the form it was given in: `0`, `0.0` and `False` are shown differently.
`wholeText?` has no answer for whole numbers beyond all double-precision numbers.
-/

namespace FleetWarden.Numeral

/-- A number that keeps the form it was given in. -/
inductive Quantity where
  | int (n : Int)
  | float (x : Binary64)
  | truth (b : Bool)
deriving DecidableEq, Repr

/-- The word for a truth value. -/
def truthText (b : Bool) : String := if b then "True" else "False"

namespace Quantity

/-- Whether the quantity is zero or less. A NaN is not. -/
def atMostZero : Quantity → Bool
  | int n => n ≤ 0
  | float x => x.atMostZero
  | truth b => !b

/-- Whether so many seconds are more than so many microseconds. A NaN is not. -/
def exceeds (micros : Nat) : Quantity → Bool
  | int n => (micros : Int) < 1000000 * n
  | float .nan => false
  | float (.infinite negative) => !negative
  | float (.finite negative code) =>
    !negative && micros * Binary64.unitsPerOne < 1000000 * Binary64.units code
  | truth b => b && micros < 1000000

/-- The quantity as a double-precision number, if it lies in their range. -/
def number? : Quantity → Option Binary64
  | int n => Binary64.ofInt? n
  | float x => some x
  | truth b => some (if b then .ofNat 1 else .zero)

/-- The quantity in full. -/
def text : Quantity → String
  | int n => Whole.text n
  | float x => x.text
  | truth b => truthText b

/-- The quantity rounded to a whole number. -/
def wholeText? (q : Quantity) : Option String := q.number?.map (·.fixed 0)

end Quantity
end FleetWarden.Numeral
