import FleetWarden.Membership.InsertionMap
import FleetWarden.Toml.Lexical

/-!
# Configuration documents

A document is a run of statements, one a line: pairs of a key and a value, and headers that open a
table or a further item of a list of tables. `read` gives the table that a document stands for.

## Implementation notes

What may still be added to is kept in marks on paths. A table that was opened by a header, or
through dotted keys in an earlier section, may not be opened again; lists and tables written as
values may not be added to at all, and neither may anything below them.

Values nest, so the readers of values take fuel. Every second call takes a character at least, so
twice the length of the document is enough.
-/

namespace FleetWarden.Toml

open Numeral

abbrev Table := List (String × Value)

abbrev KeyPath := List String

/-- Reads one part of a key. -/
def readKeyPart : List Char → Except ReadError (String × List Char)
  | [] => .error .malformed
  | c :: rest =>
    if isBareKeyChar c then
      .ok (String.ofList ((c :: rest).takeWhile isBareKeyChar), (c :: rest).dropWhile isBareKeyChar)
    else if c = '\'' then do
      let (text, after) ← readLiteral rest
      .ok (String.ofList text, after)
    else if c = '"' then do
      let (text, after) ← readQuoted false (.plain false) rest
      .ok (String.ofList text, after)
    else .error .malformed

/-- Reads a key of parts with points between them, and the spaces after it, given how many parts
it may have. -/
def readParts : Nat → List Char → Except ReadError (KeyPath × List Char)
  | 0, cs => (readKeyPart cs).bind fun _ => .error .tooManyParts
  | left + 1, cs => do
    let (part, after) ← readKeyPart cs
    match skipSpaces after with
    | '.' :: rest => do
      let (parts, after) ← readParts left (skipSpaces rest)
      .ok (part :: parts, after)
    | other => .ok ([part], other)

/-- Reads a key. -/
def readKey (limits : Limits) (cs : List Char) : Except ReadError (KeyPath × List Char) :=
  readParts limits.keyParts cs

/-- Why a path is closed. -/
inductive Closure where
  /-- It was opened as a table. -/
  | opened
  /-- It, and all below it, is part of a value. -/
  | frozen
deriving DecidableEq, Repr

/-- A path that was closed, and why. -/
structure Mark where
  path : KeyPath
  closure : Closure
deriving DecidableEq, Repr

/-- Whether a mark closes a path. -/
def Mark.closes (m : Mark) (closure : Closure) (path : KeyPath) : Bool :=
  m.closure = closure &&
    (m.path = path || (closure = .frozen && m.path.isPrefixOf path))

def isClosed (marks : List Mark) (closure : Closure) (path : KeyPath) : Bool :=
  path ≠ [] && marks.any (·.closes closure path)

/-- Changes the table at a path; tables missing on the way are made. With `throughLists`, a list of
tables stands for its last item. -/
def updateAt (throughLists : Bool) (f : Table → Option Table) : KeyPath → Table → Option Table
  | [], table => f table
  | key :: path, table =>
    match table.lookup key with
    | none => (updateAt throughLists f path []).map fun inner => table ++ [(key, .table inner)]
    | some (.table inner) =>
      (updateAt throughLists f path inner).map fun inner' => putPair key (.table inner') table
    | some (.list items) =>
      if throughLists then
        match items.getLast? with
        | some (.table inner) =>
          (updateAt throughLists f path inner).map fun inner' =>
            putPair key (.list (items.dropLast ++ [.table inner'])) table
        | _ => none
      else none
    | some _ => none

/-- Adds a pair under a key that is not there yet. -/
def addNew (key : String) (v : Value) (table : Table) : Option Table :=
  match table.lookup key with
  | none => some (table ++ [(key, v)])
  | some _ => none

/-- Adds an empty table to a list of tables, which is made if it is missing. -/
def addItem (key : String) (table : Table) : Option Table :=
  match table.lookup key with
  | none => some (table ++ [(key, .list [.table []])])
  | some (.list items) => some (putPair key (.list (items ++ [.table []])) table)
  | some _ => none

def isNested : Value → Bool
  | .list _ => true
  | .table _ => true
  | _ => false

/-- A key without its last part, and the last part. -/
def splitLast (path : KeyPath) : KeyPath × String := (path.dropLast, path.getLast?.getD "")

/-- The result of a check. -/
def orMalformed {α : Type} : Option α → Except ReadError α
  | some a => .ok a
  | none => .error .malformed

def require (ok : Bool) : Except ReadError Unit := if ok then .ok () else .error .malformed

/-- The equals sign after a key, and the spaces after it. -/
def afterEquals (cs : List Char) : Except ReadError (List Char) :=
  (orMalformed (after? '=' cs)).map skipSpaces

section
variable (limits : Limits)

mutual

/-- Reads a value that stands in so many lists and tables. -/
def readValue : Nat → Nat → List Char → Except ReadError (Value × List Char)
  | 0, _, _ => .error .malformed
  | fuel + 1, depth, cs =>
    if limits.nesting < depth then .error .tooDeep
    else
      match cs with
      | '"' :: rest => do
        let (text, after) ← readBasicText rest
        .ok (.text (String.ofList text), after)
      | '\'' :: rest => do
        let (text, after) ← readLiteralText rest
        .ok (.text (String.ofList text), after)
      | 't' :: 'r' :: 'u' :: 'e' :: rest => .ok (.bool true, rest)
      | 'f' :: 'a' :: 'l' :: 's' :: 'e' :: rest => .ok (.bool false, rest)
      | '[' :: rest => do
        let (items, after) ← readItems fuel (depth + 1) rest
        .ok (.list items, after)
      | '\x7b' :: rest => do
        let (table, after) ← readPairs fuel (depth + 1) [] [] rest
        .ok (.table table, after)
      | _ => readScalar cs

/-- Reads the items of a list up to its closing bracket. -/
def readItems : Nat → Nat → List Char → Except ReadError (List Value × List Char)
  | 0, _, _ => .error .malformed
  | fuel + 1, depth, cs => do
    let cs ← skipFill false cs
    match after? ']' cs with
    | some after => .ok ([], after)
    | none => do
      let (v, after) ← readValue fuel depth cs
      let after ← skipFill false after
      match after with
      | ']' :: rest => .ok ([v], rest)
      | ',' :: rest => do
        let (vs, after) ← readItems fuel depth rest
        .ok (v :: vs, after)
      | _ => .error .malformed

/-- Reads the pairs of a table up to its closing brace, given the pairs before and their marks. -/
def readPairs : Nat → Nat → Table → List Mark → List Char → Except ReadError (Table × List Char)
  | 0, _, _, _, _ => .error .malformed
  | fuel + 1, depth, table, marks, cs => do
    let cs ← skipFill false cs
    match after? '\x7d' cs with
    | some after => .ok (table, after)
    | none => do
      let (key, after) ← readKey limits cs
      let after ← afterEquals after
      let (v, after) ← readValue fuel depth after
      require (!isClosed marks .frozen key)
      let (parent, last) := splitLast key
      let table ← orMalformed (updateAt false (addNew last v) parent table)
      let marks := if isNested v then ⟨key, .frozen⟩ :: marks else marks
      let after ← skipFill false after
      match after with
      | '\x7d' :: rest => .ok (table, rest)
      | ',' :: rest => readPairs fuel depth table marks rest
      | _ => .error .malformed

end

end

/-- A document as far as it was read. -/
structure Draft where
  table : Table
  marks : List Mark
  /-- Tables opened through dotted keys of the present section; they close with it. -/
  pending : List KeyPath
  /-- The path of the present section. -/
  header : KeyPath

namespace Draft

def empty : Draft := ⟨[], [], [], []⟩

/-- Closes the tables that were opened through dotted keys. -/
def endSection (d : Draft) : Draft :=
  { d with marks := d.pending.map (⟨·, .opened⟩) ++ d.marks, pending := [] }

/-- The paths of the tables that a dotted key goes through. -/
def tablesThrough (header key : KeyPath) : List KeyPath :=
  (List.range key.length).filterMap fun i =>
    if i = 0 then none else some (header ++ key.take i)

/-- Adds a pair to the present section. -/
def addPair (d : Draft) (key : KeyPath) (v : Value) : Except ReadError Draft := do
  let through := tablesThrough d.header key
  require (!through.any (isClosed d.marks .opened))
  let (parent, last) := splitLast key
  require (!isClosed d.marks .frozen (d.header ++ parent))
  let table ← orMalformed (updateAt true (addNew last v) (d.header ++ parent) d.table)
  .ok { d with
    table
    marks := if isNested v then ⟨d.header ++ key, .frozen⟩ :: d.marks else d.marks
    pending := d.pending ++ through }

/-- Opens a table. -/
def openTable (d : Draft) (path : KeyPath) : Except ReadError Draft := do
  require (!isClosed d.marks .opened path && !isClosed d.marks .frozen path)
  let table ← orMalformed (updateAt true some path d.table)
  .ok { d with table, marks := ⟨path, .opened⟩ :: d.marks, header := path }

/-- Opens a further item of a list of tables; what was said about the item before no longer
holds. -/
def openItem (d : Draft) (path : KeyPath) : Except ReadError Draft := do
  require (!isClosed d.marks .frozen path)
  let (parent, last) := splitLast path
  let table ← orMalformed (updateAt true (addItem last) parent d.table)
  .ok { d with
    table
    marks := ⟨path, .opened⟩ :: d.marks.filter fun m => !path.isPrefixOf m.path
    header := path }

end Draft

section
variable (limits : Limits)

/-- Reads a header after its first bracket. -/
def readHeader (d : Draft) (cs : List Char) : Except ReadError (Draft × List Char) :=
  match cs with
  | '[' :: rest => do
    let (path, after) ← readKey limits (skipSpaces rest)
    let d ← d.endSection.openItem path
    let after ← orMalformed ((after? ']' after).bind (after? ']'))
    .ok (d, after)
  | _ => do
    let (path, after) ← readKey limits (skipSpaces cs)
    let d ← d.endSection.openTable path
    let after ← orMalformed (after? ']' after)
    .ok (d, after)

/-- Reads a pair of a key and a value. -/
def readPair (d : Draft) (cs : List Char) : Except ReadError (Draft × List Char) := do
  let (key, after) ← readKey limits cs
  let after ← afterEquals after
  let (v, after) ← readValue limits (2 * after.length + 2) 0 after
  let d ← d.addPair key v
  .ok (d, after)

/-- Reads one statement; a comment is none. -/
def readStatement (d : Draft) (cs : List Char) : Except ReadError (Draft × List Char) :=
  match cs with
  | [] => .ok (d, [])
  | c :: rest =>
    if isBareKeyChar c || c = '"' || c = '\'' then readPair limits d cs
    else if c = '[' then readHeader limits d rest
    else if c = '#' then .ok (d, cs)
    else .error .malformed

/-- Reads statements line by line. -/
def readLines : Nat → Draft → List Char → Except ReadError Draft
  | 0, _, _ => .error .malformed
  | fuel + 1, d, cs =>
    match skipSpaces cs with
    | [] => .ok d
    | '\n' :: rest => readLines fuel d rest
    | start => do
      let (d, after) ← readStatement limits d start
      let after ← skipComment (skipSpaces after)
      match after with
      | [] => .ok d
      | '\n' :: rest => readLines fuel d rest
      | _ => .error .malformed

/-- The table that a document stands for. -/
def read (s : String) : Except ReadError Table :=
  let cs := dropReturns s.toList
  (readLines limits (cs.length + 1) .empty cs).map (·.table)

end

end FleetWarden.Toml
