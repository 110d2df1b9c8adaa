import FleetWarden.Toml.Lexical
import FleetWarden.Value.Text

/-!
# Writing configuration documents

Plain values are written as one line for each pair. A table is written as a section under a header
with its path, and a list of tables as a section for each item; sections come after the lines. A
table of nothing but sections needs no header of its own. Inside lists, tables are written in
braces. Two things keep a value from being written: that it holds nothing at all somewhere, and a
number of too many digits. `obstacle?` finds the first of these.

## Implementation notes

A section is set apart by an empty line when something was added to its table before it, whether
that is written before it or not. A table that was added first is set apart too if lines go before
it. Among the values of a table inside a document, tables come last.
-/

namespace FleetWarden.Toml

open Numeral

/-- A character inside double quotes. -/
def quotedChar (c : Char) : List Char :=
  if c = '"' then ['\\', '"']
  else if c = '\\' then ['\\', '\\']
  else if c = '\x08' then ['\\', 'b']
  else if c = '\t' then ['\\', 't']
  else if c = '\n' then ['\\', 'n']
  else if c = '\x0c' then ['\\', 'f']
  else if c = '\r' then ['\\', 'r']
  else if c.toNat < 0x20 || c.toNat = 0x7F then '\\' :: 'u' :: Text.hexDigits 4 c.toNat
  else [c]

def quotedText (s : String) : List Char := '"' :: s.toList.flatMap quotedChar ++ ['"']

/-- The written form of a part of a key. -/
def keyText (key : String) : List Char :=
  if key ≠ "" ∧ key.toList.all isBareKeyChar then key.toList else quotedText key

/-- A pair as it is written. -/
def pairText (key : String) (value : List Char) : List Char :=
  keyText key ++ [' ', '=', ' '] ++ value

/-- A value that was written, and whether it is a table. -/
structure Written where
  isTable : Bool
  text : List Char
deriving DecidableEq, Repr

/-- Values with the tables after all others. -/
def tablesLast (values : List Written) : List Written :=
  values.filter (!·.isTable) ++ values.filter (·.isTable)

def isTable : Value → Bool
  | .table _ => true
  | _ => false

mutual

/-- The written form of a value inside a line; nothing at all has none. A `tight` table has no
spaces after its commas. -/
def written? (tight : Bool) : Value → Option (List Char)
  | .null => none
  | .bool b => some (if b then ['t', 'r', 'u', 'e'] else ['f', 'a', 'l', 's', 'e'])
  | .int n => some (Whole.signedDigits n)
  | .float x => some x.text.toList
  | .text s => some (quotedText s)
  | .date d => some d.text.toList
  | .time t => some t.text.toList
  | .moment m => some m.text.toList
  | .list items =>
    (writtenItems? items).map fun parts => '[' :: List.intercalate [',', ' '] parts ++ [']']
  | .table entries =>
    (writtenEntries? entries).map fun parts =>
      '\x7b' :: List.intercalate (if tight then [','] else [',', ' '])
        ((tablesLast parts).map (·.text)) ++ ['\x7d']

def writtenItems? : List Value → Option (List (List Char))
  | [] => some []
  | v :: rest => do
    let part ← written? false v
    let parts ← writtenItems? rest
    some (part :: parts)

def writtenEntries? : List (String × Value) → Option (List Written)
  | [] => some []
  | (key, v) :: rest => do
    let part ← written? true v
    let parts ← writtenEntries? rest
    some (⟨isTable v, pairText key part⟩ :: parts)

end

/-- How an entry of a table is written: on a line, as a section, or as sections for each item. -/
inductive Layout where
  | line
  | section
  | sections
deriving DecidableEq, Repr

/-- An entry of a table as it is written, without the empty line before it. -/
structure Block where
  layout : Layout
  text : List Char
deriving DecidableEq, Repr

namespace Block

def isLine (b : Block) : Bool := b.layout = .line

/-- The block after an empty line, if it is to be set apart. -/
def setApart (apart : Bool) (b : Block) : List Char := if apart then '\n' :: b.text else b.text

/-- The text of the blocks of a table, in the order in which they were added. -/
def join (blocks : List Block) : List Char :=
  let lines := (blocks.filter isLine).flatMap (·.text)
  let sections := match blocks with
    | [] => []
    | first :: rest =>
      (if first.isLine then [] else first.setApart (first.layout = .section && rest.any isLine)) ++
        (rest.filter (!·.isLine)).flatMap (setApart true)
  lines ++ sections

/-- The blocks of a table inside a document, in the order in which they are added. -/
def inOrder (blocks : List Block) : List Block :=
  blocks.filter (·.layout ≠ .section) ++ blocks.filter (·.layout = .section)

/-- A section with its header. -/
def ofTable (path : List Char) (blocks : List Block) : Block :=
  let header := if blocks ≠ [] ∧ ¬ blocks.any isLine then [] else '[' :: path ++ [']', '\n']
  ⟨.section, header ++ join (inOrder blocks)⟩

/-- Sections for the items of a list. An item is set apart unless the one before is empty. -/
def ofItems (path : List Char) (items : List (List Block)) : Block :=
  let shown (blocks : List Block) : Block :=
    ⟨.section, '[' :: '[' :: path ++ [']', ']', '\n'] ++ join (inOrder blocks)⟩
  let texts := (items.zip ([] :: items)).map fun (blocks, before) =>
    (shown blocks).setApart (before ≠ [])
  ⟨.sections, texts.flatten⟩

end Block

/-- The path of an entry of a table, whose own path is given. -/
def pathBelow (path : List Char) (key : String) : List Char :=
  if path = [] then keyText key else path ++ '.' :: keyText key

mutual

/-- The block of an entry, given its path. -/
def block? (path : List Char) (key : String) : Value → Option Block
  | .table entries => (blocks? path entries).map (Block.ofTable path)
  | .list items =>
    if items ≠ [] ∧ items.all isTable then (itemBlocks? path items).map (Block.ofItems path)
    else (written? false (.list items)).map fun text => ⟨.line, pairText key text ++ ['\n']⟩
  | v => (written? false v).map fun text => ⟨.line, pairText key text ++ ['\n']⟩

/-- The blocks of each item of a list of tables. -/
def itemBlocks? (path : List Char) : List Value → Option (List (List Block))
  | [] => some []
  | .table entries :: rest => do
    let blocks ← blocks? path entries
    let others ← itemBlocks? path rest
    some (blocks :: others)
  | _ :: _ => none

/-- The blocks of a table, given its path. -/
def blocks? (path : List Char) : List (String × Value) → Option (List Block)
  | [] => some []
  | (key, v) :: rest => do
    let block ← block? (pathBelow path key) key v
    let others ← blocks? path rest
    some (block :: others)

end

/-- The document of a table. -/
def document? (entries : List (String × Value)) : Option (List Char) :=
  (blocks? [] entries).map Block.join

/-- What keeps a value from being written. -/
inductive Obstacle where
  /-- Nothing at all. -/
  | nothing
  /-- A whole number of too many digits. -/
  | tooManyDigits
deriving DecidableEq, Repr

mutual

/-- The first obstacle in a value, in the order in which its parts are converted. -/
def obstacle? : Value → Option Obstacle
  | .null => some .nothing
  | .int n => if (Whole.write? n).isSome then none else some .tooManyDigits
  | .list items => itemObstacle? items
  | .table entries => (entryObstacle? false entries).or (entryObstacle? true entries)
  | _ => none

def itemObstacle? : List Value → Option Obstacle
  | [] => none
  | v :: rest => (obstacle? v).or (itemObstacle? rest)

/-- The first obstacle in the entries of a table, of which either the tables or the others are
looked at. -/
def entryObstacle? (tables : Bool) : List (String × Value) → Option Obstacle
  | [] => none
  | (_, v) :: rest =>
    (if isTable v = tables then obstacle? v else none).or (entryObstacle? tables rest)

end

end FleetWarden.Toml
