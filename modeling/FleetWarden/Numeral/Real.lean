import FleetWarden.Numeral.Binary64
import FleetWarden.Numeral.Whole

/-!
# Decimal numbers as text

A written number has an optional sign, digits with at most one point among or around them, and an
optional exponent; single underscores may stand between two digits and blanks around the whole.
The words for infinity and NaN are read in any case of their letters. The text stands for the
double-precision number nearest to its exact value.
-/

namespace FleetWarden.Numeral.Real

open Text

/-- A numeral in parts: the digits before and after the point, and the exponent. -/
structure Parts where
  whole : List Nat
  fraction : List Nat
  exponent : Int
deriving DecidableEq, Repr

/-- Drops the underscores of a text, each of which must stand between two digits. -/
def dropUnderscores (afterDigit : Bool) : List Char → Option (List Char)
  | [] => some []
  | '_' :: rest =>
    match rest with
    | c :: _ => if afterDigit && (digitValue? c).isSome then dropUnderscores false rest else none
    | [] => none
  | c :: rest => (dropUnderscores (digitValue? c).isSome rest).map (c :: ·)

/-- The values of the digits at the front of a text, and what follows them. -/
def spanDigits : List Char → List Nat × List Char
  | [] => ([], [])
  | c :: rest =>
    match digitValue? c with
    | some d => ((d :: (spanDigits rest).1), (spanDigits rest).2)
    | none => ([], c :: rest)

/-- An exponent that ends the text. -/
def exponent? : List Char → Option Int
  | [] => some 0
  | c :: rest =>
    if c = 'e' ∨ c = 'E' then
      let (negative, cs) := Whole.splitSign rest
      match spanDigits cs with
      | (d :: ds, []) =>
        let n := Whole.ofDigits (d :: ds)
        some (if negative then -(n : Int) else n)
      | _ => none
    else none

/-- The parts of an unsigned numeral. -/
def parts? (cs : List Char) : Option Parts :=
  let (whole, afterWhole) := spanDigits cs
  let (fraction, rest) := match afterWhole with
    | '.' :: more => spanDigits more
    | _ => ([], afterWhole)
  if whole.isEmpty && fraction.isEmpty then none
  else (exponent? rest).map (Parts.mk whole fraction)

/-- The number nearest to a numeral. The decimal point of the first digit that counts settles the
numerals that lie beyond all numbers or below them. -/
def Parts.number (negative : Bool) (p : Parts) : Binary64 :=
  let ds := (p.whole ++ p.fraction).dropWhile (· = 0)
  let exponent := p.exponent - p.fraction.length
  let place := (ds.length : Int) + exponent
  if ds = [] ∨ place < -330 then .signedZero negative
  else if 310 < place then .infinite negative
  else
    .ofRatio negative (Whole.ofDigits ds * Whole.tenTo exponent.toNat)
      (Whole.tenTo (-exponent).toNat)

/-- A word for a number that has no digits. -/
def word? (negative : Bool) (cs : List Char) : Option Binary64 :=
  let s := String.ofList (cs.map Char.toLower)
  if s = "inf" ∨ s = "infinity" then some (.infinite negative)
  else if s = "nan" then some .nan
  else none

/-- Reads an unsigned numeral or word. -/
def magnitude? (negative : Bool) (cs : List Char) : Option Binary64 :=
  match word? negative cs with
  | some x => some x
  | none => (dropUnderscores false cs).bind fun ds => (parts? ds).map (·.number negative)

/-- Reads a number from a text. -/
def read? (s : String) : Option Binary64 :=
  let (negative, cs) := Whole.splitSign (trimBy isNumeralBlank s.toList)
  magnitude? negative cs

end FleetWarden.Numeral.Real
