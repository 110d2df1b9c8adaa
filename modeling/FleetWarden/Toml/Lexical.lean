import FleetWarden.Limits
import FleetWarden.Numeral.Real

/-!
# Lexical parts of configuration documents

Blanks and comments, quoted texts, numbers, dates and times. Each reader takes the rest of a
document and answers with what it read and the rest after it.

## Implementation notes

Quoted texts are read by one pass with a state, so that the pass is a recursion on the document.
A malformed document is not told in detail: every fault of the notation is `malformed`. The other
faults are limits: on the digits of a whole number, the depth of a value and the parts of a key.
-/

namespace FleetWarden.Toml

open Numeral

/-- Why a text is no document: it is malformed, or goes past a limit. -/
inductive ReadError where
  | malformed
  | tooLong (digits : Nat)
  | tooDeep
  | tooManyParts
deriving DecidableEq, Repr

/-- What is said about a value that stands too deep. -/
def tooDeepText (limits : Limits) : String :=
  "TOML inline arrays/tables are nested more than the allowed " ++
    Whole.text limits.nesting ++ " levels"

/-- What is said about a key of too many parts. -/
def tooManyPartsText (limits : Limits) : String :=
  "TOML key has more than the allowed " ++ Whole.text limits.keyParts ++ " parts"

/-- Controls, the tab left out. -/
def isControl (c : Char) : Bool := (c.toNat < 0x20 && c ≠ '\t') || c.toNat = 0x7F

/-- Characters that may not stand in a comment or a text on one line. -/
def illegalInLine (c : Char) : Bool := isControl c

/-- Characters that may not stand in a text over several lines. -/
def illegalInBlock (c : Char) : Bool := isControl c && c ≠ '\n'

/-- Characters of keys that need no quotes. -/
def isBareKeyChar (c : Char) : Bool := c.isAlphanum || c = '-' || c = '_'

def isSpace (c : Char) : Bool := c = ' ' || c = '\t'

/-- Drops the carriage returns that stand before a line feed. -/
def dropReturns : List Char → List Char
  | [] => []
  | '\r' :: '\n' :: rest => '\n' :: dropReturns rest
  | c :: rest => c :: dropReturns rest

def skipSpaces (cs : List Char) : List Char := cs.dropWhile isSpace

/-- Skips a comment up to the end of its line. -/
def skipComment : List Char → Except ReadError (List Char)
  | [] => .ok []
  | c :: rest =>
    if c = '#' then
      if (rest.takeWhile (· ≠ '\n')).any illegalInLine then .error .malformed
      else .ok (rest.dropWhile (· ≠ '\n'))
    else .ok (c :: rest)

/-- Skips spaces, line ends and comments. -/
def skipFill (inComment : Bool) : List Char → Except ReadError (List Char)
  | [] => .ok []
  | c :: rest =>
    if c = '\n' then skipFill false rest
    else if inComment then
      if illegalInLine c then .error .malformed else skipFill true rest
    else if isSpace c then skipFill false rest
    else if c = '#' then skipFill true rest
    else .ok (c :: rest)

/-- Where the reader of a quoted text stands. -/
inductive QuoteState where
  /-- Between characters; `skipping` after a line continuation. -/
  | plain (skipping : Bool)
  | escape
  /-- In the digits of a character code. -/
  | code (left value : Nat)
  /-- After a backslash and spaces, before the end of the line. -/
  | lineEnd
deriving DecidableEq, Repr

/-- The value of a hexadecimal digit. -/
def hexValue? (c : Char) : Option Nat :=
  if '0' ≤ c ∧ c ≤ '9' then some (c.toNat - 0x30)
  else if 'a' ≤ c ∧ c ≤ 'f' then some (c.toNat - 0x57)
  else if 'A' ≤ c ∧ c ≤ 'F' then some (c.toNat - 0x37)
  else none

/-- The character that a short escape stands for. -/
def shortEscape? (c : Char) : Option Char :=
  if c = 'b' then some '\x08'
  else if c = 't' then some '\t'
  else if c = 'n' then some '\n'
  else if c = 'f' then some '\x0c'
  else if c = 'r' then some '\r'
  else if c = 'e' then some '\x1b'
  else if c = '"' then some '"'
  else if c = '\\' then some '\\'
  else none

/-- The number of digits of a character code by the letter before it. -/
def codeLength? (c : Char) : Option Nat :=
  if c = 'x' then some 2 else if c = 'u' then some 4 else if c = 'U' then some 8 else none

/-- The character with a code, if there is one. -/
def charOfCode? (n : Nat) : Option Char := if n.isValidChar then some (Char.ofNat n) else none

/-- A result with one more character in front. -/
def withChar (c : Char) :
    Except ReadError (List Char × List Char) → Except ReadError (List Char × List Char)
  | .ok (cs, rest) => .ok (c :: cs, rest)
  | .error e => .error e

/-- The rest after the two further quotes that end a text over several lines. -/
def afterClosing? : List Char → Option (List Char)
  | '"' :: '"' :: rest => some rest
  | _ => none

/-- Reads a text up to its closing quotes; `block` says that it may run over several lines and is
closed by three of them. -/
def readQuoted (block : Bool) :
    QuoteState → List Char → Except ReadError (List Char × List Char)
  | _, [] => .error .malformed
  | .plain skipping, c :: rest =>
    if skipping && (isSpace c || c = '\n') then readQuoted block (.plain true) rest
    else if c = '"' then
      if block then
        match afterClosing? rest with
        | some after => .ok ([], after)
        | none => withChar '"' (readQuoted block (.plain false) rest)
      else .ok ([], rest)
    else if c = '\\' then readQuoted block .escape rest
    else if (if block then illegalInBlock c else illegalInLine c) then .error .malformed
    else withChar c (readQuoted block (.plain false) rest)
  | .escape, c :: rest =>
    if block && isSpace c then readQuoted block .lineEnd rest
    else if block && c = '\n' then readQuoted block (.plain true) rest
    else
      match codeLength? c with
      | some n => readQuoted block (.code n 0) rest
      | none =>
        match shortEscape? c with
        | some d => withChar d (readQuoted block (.plain false) rest)
        | none => .error .malformed
  | .code left value, c :: rest =>
    match hexValue? c with
    | none => .error .malformed
    | some d =>
      if left ≤ 1 then
        match charOfCode? (16 * value + d) with
        | some e => withChar e (readQuoted block (.plain false) rest)
        | none => .error .malformed
      else readQuoted block (.code (left - 1) (16 * value + d)) rest
  | .lineEnd, c :: rest =>
    if isSpace c then readQuoted block .lineEnd rest
    else if c = '\n' then readQuoted block (.plain true) rest
    else .error .malformed

/-- Reads a text between single quotes, in which nothing is an escape. -/
def readLiteral : List Char → Except ReadError (List Char × List Char)
  | [] => .error .malformed
  | c :: rest =>
    if c = '\'' then .ok ([], rest)
    else if illegalInLine c then .error .malformed
    else withChar c (readLiteral rest)

/-- Reads a text up to three single quotes. -/
def readLiteralBlock : List Char → Except ReadError (List Char × List Char)
  | [] => .error .malformed
  | '\'' :: '\'' :: '\'' :: rest => .ok ([], rest)
  | c :: rest =>
    if illegalInBlock c then .error .malformed else withChar c (readLiteralBlock rest)

/-- Up to two more quotes before the end of a text over several lines belong to it. -/
def withLateQuotes (quote : Char) (text : List Char) : List Char → List Char × List Char
  | [] => (text, [])
  | c :: rest =>
    if c = quote then
      match rest with
      | [] => (text ++ [quote], [])
      | d :: more =>
        if d = quote then (text ++ [quote, quote], more) else (text ++ [quote], d :: more)
    else (text, c :: rest)

/-- A line end right after the opening quotes does not count. -/
def dropFirstLineEnd : List Char → List Char
  | '\n' :: rest => rest
  | cs => cs

/-- Reads the rest of a text that begins with a double quote. -/
def readBasicText : List Char → Except ReadError (List Char × List Char)
  | '"' :: '"' :: rest => do
    let (text, after) ← readQuoted true (.plain false) (dropFirstLineEnd rest)
    .ok (withLateQuotes '"' text after)
  | cs => readQuoted false (.plain false) cs

/-- Reads the rest of a text that begins with a single quote. -/
def readLiteralText : List Char → Except ReadError (List Char × List Char)
  | '\'' :: '\'' :: rest => do
    let (text, after) ← readLiteralBlock (dropFirstLineEnd rest)
    .ok (withLateQuotes '\'' text after)
  | cs => readLiteral cs

/-- The value of an ASCII digit. -/
def digit? (c : Char) : Option Nat := if c.isDigit then some (c.toNat - 0x30) else none

/-- The number written with exactly so many digits. -/
def fixedDigits? : Nat → List Char → Option (Nat × List Char)
  | 0, cs => some (0, cs)
  | n + 1, c :: rest => do
    let d ← digit? c
    let (value, after) ← fixedDigits? n rest
    some (d * Whole.tenTo n + value, after)
  | _ + 1, [] => none

/-- What follows a given character. -/
def after? (c : Char) : List Char → Option (List Char)
  | [] => none
  | d :: rest => if d = c then some rest else none

/-- Reads the date at the front; the day need not exist. -/
def date? (cs : List Char) : Option (Date × List Char) := do
  let (year, cs) ← fixedDigits? 4 cs
  let cs ← after? '-' cs
  let (month, cs) ← fixedDigits? 2 cs
  guard (1 ≤ month ∧ month ≤ 12)
  let cs ← after? '-' cs
  let (day, cs) ← fixedDigits? 2 cs
  guard (1 ≤ day ∧ day ≤ 31)
  some (⟨year, month, day⟩, cs)

/-- The microseconds that digits after the point stand for; digits after the sixth do not
count. -/
def microseconds (ds : List Char) : Nat :=
  let kept := ds.take 6
  Whole.ofDigits (kept.filterMap digit?) * Whole.tenTo (6 - kept.length)

/-- Reads a fraction of a second. -/
def fraction? (cs : List Char) : Option (Nat × List Char) := do
  let cs ← after? '.' cs
  let ds := cs.takeWhile Char.isDigit
  guard (ds ≠ [])
  some (microseconds ds, cs.dropWhile Char.isDigit)

/-- Reads seconds with their colon. -/
def seconds? (cs : List Char) : Option ((Nat × Nat) × List Char) := do
  let cs ← after? ':' cs
  let (second, cs) ← fixedDigits? 2 cs
  guard (second < 60)
  match fraction? cs with
  | some (micro, after) => some ((second, micro), after)
  | none => some ((second, 0), cs)

/-- Reads hours and minutes. -/
def clock? (cs : List Char) : Option ((Nat × Nat) × List Char) := do
  let (hour, cs) ← fixedDigits? 2 cs
  guard (hour < 24)
  let cs ← after? ':' cs
  let (minute, cs) ← fixedDigits? 2 cs
  guard (minute < 60)
  some ((hour, minute), cs)

/-- Reads a time of day; its seconds may be left out. -/
def time? (cs : List Char) : Option (TimeOfDay × List Char) := do
  let ((hour, minute), cs) ← clock? cs
  match seconds? cs with
  | some ((second, micro), after) => some (⟨hour, minute, second, micro⟩, after)
  | none => some (⟨hour, minute, 0, 0⟩, cs)

/-- Reads a distance from universal time. -/
def offset? : List Char → Option (Int × List Char)
  | [] => none
  | c :: rest =>
    if c = 'Z' ∨ c = 'z' then some (0, rest)
    else if c = '+' ∨ c = '-' then do
      let ((hour, minute), after) ← clock? rest
      let minutes : Int := hour * 60 + minute
      some (if c = '-' then -minutes else minutes, after)
    else none

/-- Reads what follows a date: a time of day with or without an offset, or nothing. -/
def afterDate (d : Date) (cs : List Char) : Value × List Char :=
  match cs with
  | c :: rest =>
    if c = 'T' ∨ c = 't' ∨ c = ' ' then
      match time? rest with
      | some (t, after) =>
        match offset? after with
        | some (minutes, more) => (.moment ⟨d, t, some minutes⟩, more)
        | none => (.moment ⟨d, t, none⟩, after)
      | none => (.date d, cs)
    else (.date d, cs)
  | [] => (.date d, [])

/-- Reads a date, a moment or a time of day, if there is one. -/
def calendar? (cs : List Char) : Option (Except ReadError (Value × List Char)) :=
  match date? cs with
  | some (d, rest) => some (if d.exists? then .ok (afterDate d rest) else .error .malformed)
  | none =>
    match time? cs with
    | some (t, rest) => some (.ok (.time t, rest))
    | none => none

/-- The rest of a run of digits, single underscores between digits left out. -/
def digitRun (p : Char → Bool) : List Char → List Char × List Char
  | [] => ([], [])
  | c :: rest =>
    if p c then
      let (ds, after) := digitRun p rest
      (c :: ds, after)
    else if c = '_' then
      match rest with
      | d :: more =>
        if p d then
          let (ds, after) := digitRun p more
          (d :: ds, after)
        else ([], c :: rest)
      | [] => ([], [c])
    else ([], c :: rest)

/-- A run of digits that begins with a digit. -/
def digitRun? (p : Char → Bool) : List Char → Option (List Char × List Char)
  | [] => none
  | c :: rest =>
    if p c then
      let (ds, after) := digitRun p rest
      some (c :: ds, after)
    else none

/-- The whole number with the given digits in a base. -/
def ofBase (base : Nat) (ds : List Char) : Nat :=
  (ds.filterMap hexValue?).foldl (fun n d => base * n + d) 0

/-- The base that a letter after a zero stands for, and its digits. -/
def base? (c : Char) : Option (Nat × (Char → Bool)) :=
  if c = 'x' then some (16, fun d => (hexValue? d).isSome)
  else if c = 'o' then some (8, fun d => '0' ≤ d ∧ d ≤ '7')
  else if c = 'b' then some (2, fun d => d = '0' ∨ d = '1')
  else none

/-- Reads a whole number in a base other than ten. -/
def basedNumber? : List Char → Option (Value × List Char)
  | '0' :: c :: rest => do
    let (base, p) ← base? c
    let (ds, after) ← digitRun? p rest
    some (.int (ofBase base ds), after)
  | _ => none

/-- The digits of the part of a number before its point, which has no needless zeros in front. -/
def wholePart? : List Char → Option (List Char × List Char)
  | [] => none
  | c :: rest =>
    if c = '0' then some ([c], rest)
    else if c.isDigit then
      let (ds, after) := digitRun Char.isDigit rest
      some (c :: ds, after)
    else none

/-- The digits after the point, if there are any. -/
def fractionPart (cs : List Char) : List Char × List Char :=
  match (after? '.' cs).bind (digitRun? Char.isDigit) with
  | some (ds, after) => (ds, after)
  | none => ([], cs)

/-- The exponent, if there is one. -/
def exponentPart? : List Char → Option (Int × List Char)
  | [] => none
  | c :: rest =>
    if c = 'e' ∨ c = 'E' then
      let (negative, cs) := Whole.splitSign rest
      match digitRun? Char.isDigit cs with
      | some (ds, after) =>
        let n : Int := ofBase 10 ds
        some (if negative then -n else n, after)
      | none => none
    else none

/-- A whole number in base ten. -/
def wholeNumber (negative : Bool) (ds : List Char) : Except ReadError Value :=
  if ds.length ≤ Whole.digitLimit then
    let n : Int := ofBase 10 ds
    .ok (.int (if negative then -n else n))
  else .error (.tooLong ds.length)

/-- A number with a point or an exponent. -/
def realNumber (negative : Bool) (whole fraction : List Char) (exponent : Int) : Value :=
  .float (Real.Parts.number negative
    ⟨whole.filterMap digit?, fraction.filterMap digit?, exponent⟩)

/-- Reads a number in base ten. -/
def decimalNumber? (cs : List Char) : Option (Except ReadError (Value × List Char)) := do
  let (negative, cs) := Whole.splitSign cs
  let (whole, cs) ← wholePart? cs
  let (fraction, afterFraction) := fractionPart cs
  match exponentPart? afterFraction with
  | some (exponent, after) => some (.ok (realNumber negative whole fraction exponent, after))
  | none =>
    if fraction = [] then some ((wholeNumber negative whole).map (·, cs))
    else some (.ok (realNumber negative whole fraction 0, afterFraction))

/-- The number that a word stands for. -/
def numberWord? (cs : List Char) : Option (Value × List Char) :=
  let (negative, rest) := Whole.splitSign cs
  match rest with
  | 'i' :: 'n' :: 'f' :: after => some (.float (.infinite negative), after)
  | 'n' :: 'a' :: 'n' :: after => some (.float .nan, after)
  | _ => none

/-- Reads a date, a time or a number. -/
def readScalar (cs : List Char) : Except ReadError (Value × List Char) :=
  match calendar? cs with
  | some result => result
  | none =>
    match basedNumber? cs with
    | some result => .ok result
    | none =>
      match decimalNumber? cs with
      | some result => result
      | none =>
        match numberWord? cs with
        | some result => .ok result
        | none => .error .malformed

end FleetWarden.Toml
