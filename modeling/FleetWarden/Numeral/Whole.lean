import FleetWarden.Text.Blank
import FleetWarden.Text.Digit

/-!
# Whole numbers as text

A written whole number is an optional sign and decimal digits of any script; single underscores
may stand between digits and blanks around the whole. At most 4300 digits are read or written, so
that no text makes the program do unbounded work.
-/

namespace FleetWarden.Numeral.Whole

open Text

/-- The most digits that a written whole number may have. -/
def digitLimit : Nat := 4300

/-- Why a text is no whole number. -/
inductive ReadError where
  | malformed
  | tooLong (digits : Nat)
deriving DecidableEq, Repr

/-- A power of ten. -/
def tenTo (n : Nat) : Nat := Nat.pow 10 n

/-- The decimal digits of a natural number, most significant first. -/
def digits (n : Nat) : List Char := Nat.toDigits 10 n

/-- The decimal form of an integer. -/
def signedDigits : Int → List Char
  | .ofNat n => digits n
  | .negSucc n => '-' :: digits (n + 1)

/-- The decimal form of an integer as a text. -/
def text (n : Int) : String := String.ofList (signedDigits n)

/-- The decimal form of an integer, unless it has too many digits. -/
def write? (n : Int) : Option String :=
  if (digits n.natAbs).length ≤ digitLimit then some (text n) else none

/-- The values of digits with single underscores between them; `afterDigit` says that a digit
stands right before. -/
def digitValues? (afterDigit : Bool) : List Char → Option (List Nat)
  | [] => if afterDigit then some [] else none
  | c :: rest =>
    if c = '_' then
      if afterDigit then digitValues? false rest else none
    else
      match digitValue? c with
      | some d => (digitValues? true rest).map (d :: ·)
      | none => none

/-- The number with the given digit values, most significant first. -/
def ofDigits (ds : List Nat) : Nat := ds.foldl (fun n d => 10 * n + d) 0

/-- Splits a sign off; `true` stands for a minus sign. -/
def splitSign : List Char → Bool × List Char
  | '-' :: rest => (true, rest)
  | '+' :: rest => (false, rest)
  | cs => (false, cs)

/-- Whether a character may stand in a numeral behind its sign. -/
def isNumeralChar (c : Char) : Bool := c = '_' || (digitValue? c).isSome

/-- Reads an unsigned numeral. Its length is looked at before what follows it. -/
def readDigits (cs : List Char) : Except ReadError Nat :=
  match digitValues? false (cs.takeWhile isNumeralChar) with
  | none => .error .malformed
  | some ds =>
    if digitLimit < ds.length then .error (.tooLong ds.length)
    else if cs.all isNumeralChar then .ok (ofDigits ds)
    else .error .malformed

/-- Reads an integer from a text. -/
def read (s : String) : Except ReadError Int :=
  let (negative, cs) := splitSign (trimBy isNumeralBlank s.toList)
  (readDigits cs).map fun n => if negative then -(n : Int) else n

end FleetWarden.Numeral.Whole
