/-!
# Double-precision numbers

A number is a NaN, an infinity, or a sign with a magnitude. Magnitudes are numbered in increasing
order, so `code + 1` is the next larger one, and the even codes are those with an even
significand. Every magnitude is a whole number of units of 2⁻¹⁰⁷⁴.

`ofRatio` rounds an exact quotient to the nearest magnitude, a tie to the even code. All
arithmetic is exact arithmetic on units followed by one rounding.
-/

namespace FleetWarden.Numeral

/-- The number of magnitudes in a binade, 2⁵². -/
abbrev binadeSize : Nat := 4503599627370496

/-- The number of finite magnitudes. -/
abbrev magnitudes : Nat := 2047 * binadeSize

/-- A power of two. -/
def twoTo (n : Nat) : Nat := Nat.pow 2 n

/-- A double-precision number; there is one NaN. -/
inductive Binary64 where
  | nan
  | infinite (negative : Bool)
  | finite (negative : Bool) (code : Fin magnitudes)
deriving DecidableEq, Repr

namespace Binary64

/-- The units 2⁻¹⁰⁷⁴ in a magnitude. -/
def units (code : Nat) : Nat :=
  let binade := code / binadeSize
  let fraction := code % binadeSize
  if binade = 0 then fraction else (binadeSize + fraction) * twoTo (binade - 1)

/-- The units in one: a magnitude's value is its units over this number. -/
def unitsPerOne : Nat := twoTo 1074

/-- The code nearest to `num / den` units, or a code too large for a magnitude. -/
def nearestCode (num den : Nat) : Nat :=
  let shift := (num / den).log2 - 52
  let step := den * twoTo shift
  let code := shift * binadeSize + num / step
  let rest := num % step
  if 2 * rest > step ∨ (2 * rest = step ∧ code % 2 = 1) then code + 1 else code

/-- The number of a sign and a code; codes past the last magnitude stand for infinity. -/
def ofCode (negative : Bool) (code : Nat) : Binary64 :=
  if h : code < magnitudes then .finite negative ⟨code, h⟩ else .infinite negative

/-- The number nearest to `num / den`. -/
def ofRatio (negative : Bool) (num den : Nat) : Binary64 :=
  ofCode negative (nearestCode (num * unitsPerOne) den)

/-- The zero of a sign. -/
def signedZero (negative : Bool) : Binary64 := .finite negative 0

def zero : Binary64 := signedZero false

/-- The number nearest to a natural number. -/
def ofNat (n : Nat) : Binary64 := ofRatio false n 1

/-- The number itself, unless it is infinite. -/
def bounded? : Binary64 → Option Binary64
  | .infinite _ => none
  | x => some x

/-- The nearest number to an integer, unless the integer lies beyond all numbers. -/
def ofInt? (n : Int) : Option Binary64 := (ofRatio (n < 0) n.natAbs 1).bounded?

/-- The signed units of a finite number. -/
def signedUnits (negative : Bool) (code : Nat) : Int :=
  if negative then -(units code : Int) else units code

/-- The nearest number to an integral count of `1 / den` units. -/
def ofUnits (n : Int) (den : Nat) : Binary64 :=
  ofCode (n < 0) (nearestCode n.natAbs den)

/-- The sum, rounded once. A sum of two negative zeros is negative. -/
def add : Binary64 → Binary64 → Binary64
  | .finite false ⟨0, _⟩, .finite true ⟨0, _⟩ => zero
  | .finite true ⟨0, h⟩, .finite true ⟨0, _⟩ => .finite true ⟨0, h⟩
  | .finite s a, .finite t b => ofUnits (signedUnits s a + signedUnits t b) 1
  | .nan, _ => .nan
  | _, .nan => .nan
  | .infinite s, .infinite t => if s = t then .infinite s else .nan
  | .infinite s, _ => .infinite s
  | _, .infinite t => .infinite t

/-- The number with the other sign. -/
def neg : Binary64 → Binary64
  | .nan => .nan
  | .infinite s => .infinite !s
  | .finite s code => .finite (!s) code

/-- The difference, rounded once. -/
def sub (x y : Binary64) : Binary64 := add x (neg y)

/-- The product, rounded once. -/
def mul : Binary64 → Binary64 → Binary64
  | .finite s a, .finite t b => ofCode (s != t) (nearestCode (units a * units b) unitsPerOne)
  | .nan, _ => .nan
  | _, .nan => .nan
  | .infinite s, .finite t b => if b.val = 0 then .nan else .infinite (s != t)
  | .finite s a, .infinite t => if a.val = 0 then .nan else .infinite (s != t)
  | .infinite s, .infinite t => .infinite (s != t)

/-- The order of numbers; a NaN is less than nothing. -/
def lt : Binary64 → Binary64 → Bool
  | .nan, _ => false
  | _, .nan => false
  | .infinite s, .infinite t => s && !t
  | .infinite s, .finite _ _ => s
  | .finite _ _, .infinite t => !t
  | .finite s a, .finite t b => signedUnits s a < signedUnits t b

/-- Whether the number is at most zero, of either sign. -/
def atMostZero : Binary64 → Bool
  | .nan => false
  | .infinite s => s
  | .finite s code => s || code.val = 0

/-- The integer next to the number towards zero. -/
def truncate (negative : Bool) (code : Nat) : Int :=
  if negative then -((units code / unitsPerOne : Nat) : Int) else (units code / unitsPerOne : Nat)

/-- The quotient rounded to a whole number, a tie to the even one. -/
def roundHalfEven (num den : Nat) : Nat :=
  let quotient := num / den
  let rest := num % den
  if 2 * rest > den ∨ (2 * rest = den ∧ quotient % 2 = 1) then quotient + 1 else quotient

end Binary64
end FleetWarden.Numeral
