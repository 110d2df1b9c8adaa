import FleetWarden.Numeral.Whole
import FleetWarden.Text.Word

/-!
# Literals in tags

A tag may carry parameters, which are literals: numbers, texts, the names of constants, and tuples,
sets and tables of literals. `isLiteral` says whether a text is a literal. Texts are read into
tokens first, so that brackets and signs in quoted texts stand for themselves.

## Implementation notes

Square brackets end a tag, so no literal here holds any. The values of literals have no effect on a
plain console; all that is kept of a literal is its `Shape`, which says where it may stand.
-/

namespace FleetWarden.Console.Literal

open Text Numeral

/-- The parts that literals are made of. -/
inductive Token where
  | number (imaginary : Bool)
  | quote (bytes : Bool)
  | constant
  /-- The name of the empty set's constructor. -/
  | setName
  | sign
  | comma
  | colon
  | openTuple
  | closeTuple
  | openTable
  | closeTable
deriving DecidableEq, Repr

/-- Whether a character is a digit in a base up to sixteen. -/
def isDigit (base : Nat) (c : Char) : Bool :=
  let value := if c.isDigit then c.toNat - '0'.toNat else c.toLower.toNat - 'a'.toNat + 10
  c.isAlphanum && value < base

/-- Drops digits with single underscores between them; there must be one at least. -/
def afterDigits? (base : Nat) : List Char → Option (List Char)
  | [] => none
  | c :: rest =>
    if isDigit base c then
      match rest with
      | '_' :: d :: more => if isDigit base d then afterDigits? base (d :: more) else some rest
      | d :: more => if isDigit base d then afterDigits? base (d :: more) else some rest
      | [] => some []
    else none

/-- Drops digits, if there are any. -/
def afterOptionalDigits (cs : List Char) : List Char := (afterDigits? 10 cs).getD cs

/-- The base that a mark behind a zero asks for. -/
def baseOf? (c : Char) : Option Nat :=
  if c = 'x' ∨ c = 'X' then some 16
  else if c = 'o' ∨ c = 'O' then some 8
  else if c = 'b' ∨ c = 'B' then some 2
  else none

/-- Drops the exponent of a number; a mark for one needs digits behind it. -/
def afterExponent? : List Char → Option (List Char)
  | c :: rest =>
    if c = 'e' ∨ c = 'E' then afterDigits? 10 (Whole.splitSign rest).2 else some (c :: rest)
  | [] => some []

/-- Whether digits are those of a whole number, which is zero or has no zero in front, and is not
too long. -/
def isWhole (digits : List Char) : Bool :=
  let ds := digits.filter (· ≠ '_')
  (ds.all (· = '0') || ds.head? ≠ some '0') && ds.length ≤ Whole.digitLimit

/-- A decimal number at the front of a text. -/
def decimal? (cs : List Char) : Option (Token × List Char) := do
  let afterWhole := afterOptionalDigits cs
  let afterPoint := match afterWhole with
    | '.' :: rest => afterOptionalDigits rest
    | rest => rest
  let rest ← afterExponent? afterPoint
  let digits := cs.take (cs.length - afterWhole.length)
  match rest with
  | c :: more =>
    if c = 'j' ∨ c = 'J' then some (.number true, more)
    else if rest.length < afterWhole.length ∨ isWhole digits then some (.number false, rest)
    else none
  | [] =>
    if 0 < afterWhole.length ∨ isWhole digits then some (.number false, []) else none

/-- A number at the front of a text, which no letter may follow. -/
def number? (cs : List Char) : Option (Token × List Char) := do
  let found ← match cs with
    | '0' :: mark :: rest =>
      match baseOf? mark with
      | some base => do
        let digits := if rest.head? = some '_' then rest.drop 1 else rest
        (afterDigits? base digits).map fun after => (Token.number false, after)
      | none => decimal? cs
    | _ => decimal? cs
  if found.2.head?.any isWordChar then none else some found

/-- How a quoted text is written: in bytes, without escapes, over several lines. -/
structure QuoteStyle where
  quote : Char
  bytes : Bool
  raw : Bool
  block : Bool
deriving DecidableEq, Repr

/-- The number of digits that an escape asks for. -/
def escapeDigits (style : QuoteStyle) (c : Char) : Nat :=
  if style.raw then 0
  else if c = 'x' then 2
  else if style.bytes then 0
  else if c = 'u' then 4
  else if c = 'U' then 8
  else 0

/-- Whether the digits of an escape are those of a character; the letters of names are not looked
up, so an escape by name is no escape. -/
def isEscape (style : QuoteStyle) (c : Char) (rest : List Char) : Bool :=
  let digits := rest.take (escapeDigits style c)
  let value := digits.foldl (fun n d =>
    16 * n + (if d.isDigit then d.toNat - '0'.toNat else d.toLower.toNat - 'a'.toNat + 10)) 0
  digits.length = escapeDigits style c && digits.all (isDigit 16) && value ≤ 0x10FFFF &&
    (style.raw || style.bytes || c ≠ 'N')

/-- The text behind the closing quotes, from inside a quoted text on; `escaped` says that a
backslash stands right before. -/
def afterQuote? (style : QuoteStyle) (escaped : Bool) : List Char → Option (List Char)
  | [] => none
  | c :: rest =>
    if style.bytes && 0x7F < c.toNat then none
    else if escaped then
      if isEscape style c rest then afterQuote? style false rest else none
    else if c = '\\' then afterQuote? style true rest
    else if c = style.quote then
      if style.block then
        if rest.take 2 = [c, c] then some (rest.drop 2) else afterQuote? style false rest
      else some rest
    else if c = '\n' && !style.block then none
    else afterQuote? style false rest

/-- The marks that may stand before a quoted text: for bytes, and for no escapes. -/
def quoteMarks : List (String × Bool × Bool) :=
  [("", false, false), ("r", false, true), ("u", false, false), ("b", true, false),
   ("br", true, true), ("rb", true, true)]

/-- A quoted text at the front of a text. -/
def quote? (cs : List Char) : Option (Token × List Char) := do
  let mark := cs.takeWhile Char.isAlpha
  let (bytes, raw) ← quoteMarks.lookup (String.ofList (mark.map Char.toLower))
  match cs.drop mark.length with
  | c :: rest =>
    if c = '\'' ∨ c = '"' then
      let block := rest.take 2 = [c, c]
      let after ← afterQuote? ⟨c, bytes, raw, block⟩ false (if block then rest.drop 2 else rest)
      pure (.quote bytes, after)
    else none
  | [] => none

/-- The names of constants. -/
def constants : List String := ["True", "False", "None"]

/-- A name at the front of a text. -/
def name? (cs : List Char) : Option (Token × List Char) :=
  let name := cs.takeWhile isWordChar
  let after := cs.drop name.length
  if constants.contains (String.ofList name) then some (.constant, after)
  else if name = "set".toList then some (.setName, after)
  else none

/-- The tokens of one character. -/
def marks : List (Char × Token) :=
  [('+', .sign), ('-', .sign), (',', .comma), (':', .colon), ('(', .openTuple),
   (')', .closeTuple), ('\x7b', .openTable), ('\x7d', .closeTable)]

/-- The token at the front of a text. -/
def token? (cs : List Char) : Option (Token × List Char) :=
  match cs with
  | '.' :: '.' :: '.' :: rest => some (.constant, rest)
  | '.' :: c :: _ => if c.isDigit then number? cs else none
  | c :: rest =>
    match marks.lookup c with
    | some t => some (t, rest)
    | none =>
      if c.isDigit then number? cs
      else match quote? cs with
        | some found => some found
        | none => name? cs
  | [] => none

/-- Blanks that separate tokens. -/
def isGap (c : Char) : Bool := c = ' ' || c = '\t' || c = '\x0C'

/-- The number of brackets that are open behind a token. -/
def depthAfter (depth : Nat) : Token → Nat
  | .openTuple => depth + 1
  | .openTable => depth + 1
  | .closeTuple => depth - 1
  | .closeTable => depth - 1
  | _ => depth

/-- The most brackets that may be open at once. -/
def depthLimit : Nat := 200

/-- The tokens of a text, given the number of open brackets. Outside of brackets a line feed ends
the literal if that has `begun`; else the literal begins right behind it. -/
def tokens? (begun : Bool) : Nat → Nat → List Char → Option (List Token)
  | 0, _, _ => none
  | _, _, [] => some []
  | fuel + 1, depth, c :: rest =>
    if isGap c then tokens? begun fuel depth rest
    else if c = '#' then tokens? begun fuel depth (rest.dropWhile (· ≠ '\n'))
    else if c = '\\' then
      match rest with
      | '\n' :: d :: more => tokens? begun fuel depth (d :: more)
      | _ => none
    else if c = '\n' then
      if begun then (tokens? begun fuel depth rest).filter fun ts => depth ≠ 0 || ts.isEmpty
      else if rest.head?.any isGap then none
      else tokens? begun fuel depth rest
    else
      match token? (c :: rest) with
      | none => none
      | some (t, after) =>
        let depth' := depthAfter depth t
        if depthLimit < depth' then none else (tokens? true fuel depth' after).map (t :: ·)

/-- What a literal is, as far as that says where it may stand. -/
inductive Shape where
  | number (imaginary : Bool)
  /-- A number with a sign. -/
  | signed (imaginary : Bool)
  /-- Any other literal; only a `fixed` one may be a key or the element of a set. -/
  | value (fixed : Bool)
deriving DecidableEq, Repr

namespace Shape

/-- Whether a literal is a number with no imaginary part. -/
def isReal : Shape → Bool
  | number imaginary => !imaginary
  | signed imaginary => !imaginary
  | value _ => false

/-- Whether a literal may be a key or the element of a set. -/
def isFixed : Shape → Bool
  | value fixed => fixed
  | _ => true

/-- The shape of literals between round brackets. -/
def ofItems (items : List Shape) (endsInComma : Bool) : Shape :=
  match items, endsInComma with
  | [item], false => item
  | _, _ => .value (items.all isFixed)

end Shape

/-- Drops quoted texts of one kind; texts that follow one another are one text. -/
def afterQuotes? (bytes : Bool) : List Token → Option (List Token)
  | .quote b :: rest => if b = bytes then afterQuotes? bytes rest else none
  | ts => some ts

/-- Whether a token closes brackets. -/
def Token.closes : Token → Bool
  | closeTuple => true
  | closeTable => true
  | _ => false

mutual

/-- A literal at the front of tokens: a term, or a real number with an imaginary one added. -/
def literal? : Nat → List Token → Option (Shape × List Token)
  | 0, _ => none
  | fuel + 1, ts => do
    let (left, rest) ← term? fuel ts
    match rest with
    | .sign :: more => do
      let (right, after) ← atom? fuel more
      if left.isReal && right = .number true then pure (.value true, after) else none
    | _ => pure (left, rest)

/-- An atom, or a number with a sign. -/
def term? : Nat → List Token → Option (Shape × List Token)
  | 0, _ => none
  | fuel + 1, .sign :: ts => do
    let (shape, rest) ← atom? fuel ts
    match shape with
    | .number imaginary => pure (.signed imaginary, rest)
    | _ => none
  | fuel + 1, ts => atom? fuel ts

/-- A number, a text, a constant, or literals in brackets. -/
def atom? : Nat → List Token → Option (Shape × List Token)
  | 0, _ => none
  | _, [] => none
  | fuel + 1, t :: ts =>
    match t with
    | .number imaginary => some (.number imaginary, ts)
    | .quote bytes => (afterQuotes? bytes ts).map (.value true, ·)
    | .constant => some (.value true, ts)
    | .setName =>
      match ts with
      | .openTuple :: .closeTuple :: rest => some (.value false, rest)
      | _ => none
    | .openTuple => do
      let (items, endsInComma, rest) ← items? fuel ts
      match rest with
      | .closeTuple :: after => pure (Shape.ofItems items endsInComma, after)
      | _ => none
    | .openTable => (table? fuel ts).map (.value false, ·)
    | _ => none

/-- Literals between commas, with whether a comma ends them. -/
def items? : Nat → List Token → Option (List Shape × Bool × List Token)
  | 0, _ => none
  | _, [] => some ([], false, [])
  | fuel + 1, t :: ts =>
    if t.closes then some ([], false, t :: ts)
    else do
      let (item, rest) ← literal? fuel (t :: ts)
      match rest with
      | .comma :: more => do
        let (items, endsInComma, after) ← items? fuel more
        pure (item :: items, items.isEmpty || endsInComma, after)
      | _ => pure ([item], false, rest)

/-- The rest behind a set or a table, from inside its brackets on. -/
def table? : Nat → List Token → Option (List Token)
  | 0, _ => none
  | _, .closeTable :: rest => some rest
  | fuel + 1, ts => do
    let (first, rest) ← literal? fuel ts
    match rest with
    | .colon :: _ => entries? fuel ts
    | _ => do
      let (items, _, after) ← items? fuel ts
      match after with
      | .closeTable :: more => if first.isFixed && items.all Shape.isFixed then pure more else none
      | _ => none

/-- The rest behind the entries of a table and its closing bracket. -/
def entries? : Nat → List Token → Option (List Token)
  | 0, _ => none
  | _, .closeTable :: rest => some rest
  | fuel + 1, ts => do
    let (key, rest) ← literal? fuel ts
    match rest with
    | .colon :: more => do
      let (_, after) ← literal? fuel more
      match key.isFixed, after with
      | true, .comma :: others => entries? fuel others
      | true, .closeTable :: others => pure others
      | _, _ => none
    | _ => none

end

/-- Returns and line feeds alike end a line. -/
def plainLines : List Char → List Char
  | [] => []
  | '\r' :: '\n' :: rest => '\n' :: plainLines rest
  | c :: rest => (if c = '\r' then '\n' else c) :: plainLines rest

/-- Whether a text is a literal, or literals between commas. -/
def isLiteral (cs : List Char) : Bool :=
  let lines := plainLines (cs.dropWhile fun c => c = ' ' || c = '\t')
  match tokens? false (lines.length + 1) 0 lines with
  | none => false
  | some ts =>
    match items? (8 * ts.length + 8) ts with
    | some (items, _, []) => !items.isEmpty
    | _ => false

end FleetWarden.Console.Literal
