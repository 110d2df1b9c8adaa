import FleetWarden.Numeral.Binary64
import FleetWarden.Numeral.Whole

/-!
# The shortest decimal form

A finite number is written with the fewest significant digits that read back as the same number.
For each count of digits the two neighbours of the number on the decimal grid are tried; of two
that read back the nearer one is taken, and of two equally near ones the even one.

## Implementation notes

`Layout` holds what is a matter of format and not of arithmetic: which exponents are written
positionally, and how an exponent looks. Seventeen digits always read back, so the last resort of
`shortest`, the exact value, is never needed; it makes the function total without an appeal to
that fact.
-/

namespace FleetWarden.Numeral

/-- The decimal `significand · 10 ^ exponent`. -/
structure Decimal where
  significand : Nat
  exponent : Int
deriving DecidableEq, Repr

namespace Decimal

/-- The decimal as a quotient of natural numbers. -/
def ratio (d : Decimal) : Nat × Nat :=
  (d.significand * Whole.tenTo d.exponent.toNat, Whole.tenTo (-d.exponent).toNat)

/-- The code of the magnitude that the decimal reads as. -/
def code (d : Decimal) : Nat :=
  Binary64.nearestCode (d.ratio.1 * Binary64.unitsPerOne) d.ratio.2

/-- Whether the decimal reads as the magnitude. -/
def readsAs (d : Decimal) (code : Nat) : Bool := d.code == code

/-- The place of the first significant digit of `code`: its value is at least `10 ^ (place - 1)`
and less than `10 ^ place`. -/
def place (code : Nat) : Int :=
  ((Whole.digits (Binary64.units code * Whole.tenTo 340 / Binary64.unitsPerOne)).length : Int) - 340

/-- The neighbours of a magnitude among the decimals with the given exponent, nearer one first. -/
def neighbours (code : Nat) (exponent : Int) : List Decimal :=
  let num := Binary64.units code * Whole.tenTo (-exponent).toNat
  let den := Binary64.unitsPerOne * Whole.tenTo exponent.toNat
  let below := num / den
  let nearer := Binary64.roundHalfEven num den
  let farther := if nearer = below then below + 1 else below
  [⟨nearer, exponent⟩, ⟨farther, exponent⟩]

/-- The first decimal that passes a test, on the grids of `count`, `count + 1`, … digits. -/
def firstOn (grid : Nat → List Decimal) (test : Decimal → Bool) : Nat → Nat → Option Decimal
  | 0, _ => none
  | more + 1, count =>
    match (grid count).find? test with
    | some d => some d
    | none => firstOn grid test more (count + 1)

/-- The first neighbour that reads back, among grids of `count`, `count + 1`, … digits. -/
def search (code : Nat) (place : Int) (more count : Nat) : Option Decimal :=
  firstOn (fun count => neighbours code (place - count)) (·.readsAs code) more count

/-- The exact value of a magnitude. -/
def exact (code : Nat) : Decimal :=
  ⟨Binary64.units code * Nat.pow 5 1074, -1074⟩

/-- The decimal with the fewest digits that reads as the magnitude. -/
def shortest (code : Nat) : Decimal :=
  (search code (place code) 17 1).getD (exact code)

end Decimal

/-- How a decimal is laid out as text. -/
structure Layout where
  /-- Positional form is used when the first digit stands after this place … -/
  above : Int
  /-- … and not after this one. -/
  upTo : Int
  /-- The least number of digits of an exponent. -/
  exponentWidth : Nat
deriving DecidableEq, Repr

/-- Positional from 0.0001 up to sixteen places before the point, exponents of two digits. -/
def standardLayout : Layout := ⟨-4, 16, 2⟩

namespace Layout

/-- The text of digits whose value is `0.d₁d₂… · 10 ^ place`. -/
def render (layout : Layout) (ds : List Char) (place : Int) : List Char :=
  if layout.above < place ∧ place ≤ layout.upTo then
    if place ≤ 0 then
      '0' :: '.' :: (List.replicate (-place).toNat '0' ++ ds)
    else
      let before := place.toNat
      ds.take before ++ List.replicate (before - ds.length) '0' ++
        '.' :: (if ds.length ≤ before then ['0'] else ds.drop before)
  else
    let power := place - 1
    let width := Whole.digits power.natAbs
    let point := match ds.tail with
      | [] => []
      | rest => '.' :: rest
    ds.take 1 ++ point ++ 'e' :: (if power < 0 then '-' else '+') ::
      (List.replicate (layout.exponentWidth - width.length) '0' ++ width)

end Layout

/-- The digits of a number without the zeros at its end. -/
def significantDigits (n : Nat) : List Char :=
  ((Whole.digits n).reverse.dropWhile (· = '0')).reverse

/-- The shortest text of a magnitude. -/
def magnitudeText (code : Nat) : List Char :=
  if code = 0 then ['0', '.', '0']
  else
    let d := Decimal.shortest code
    standardLayout.render (significantDigits d.significand)
      ((Whole.digits d.significand).length + d.exponent)

namespace Binary64

/-- The shortest text that reads back as the number. -/
def text : Binary64 → String
  | .nan => "nan"
  | .infinite s => if s then "-inf" else "inf"
  | .finite s code => String.ofList ((if s then ['-'] else []) ++ magnitudeText code)

/-- The number with a fixed number of places after the point, a half going to the even digit. -/
def fixed (places : Nat) : Binary64 → String
  | .nan => "nan"
  | .infinite s => if s then "-inf" else "inf"
  | .finite s code =>
    let scaled := roundHalfEven (units code * Whole.tenTo places) unitsPerOne
    let whole := Whole.digits (scaled / Whole.tenTo places)
    let part := Whole.digits (scaled % Whole.tenTo places)
    let point :=
      if places = 0 then [] else '.' :: (List.replicate (places - part.length) '0' ++ part)
    String.ofList ((if s then ['-'] else []) ++ whole ++ point)

end Binary64
end FleetWarden.Numeral
