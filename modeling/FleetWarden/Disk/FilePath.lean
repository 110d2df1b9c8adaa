import FleetWarden.Text.Quoted

/-!
# Paths

A path is a root, which is empty for relative paths, and parts without slashes. Empty parts and
single dots are dropped when a path is read; double dots are kept.
-/

namespace FleetWarden

/-- A path, taken apart. -/
structure FilePath where
  root : String
  parts : List String
deriving DecidableEq, Repr

namespace FilePath

/-- The parts of a text between slashes. -/
def splitSlashes (cs : List Char) : List (List Char) :=
  cs.foldr (fun c parts =>
    if c = '/' then [] :: parts
    else match parts with
      | [] => [[c]]
      | part :: rest => (c :: part) :: rest) [[]]

/-- The root of a text: exactly two slashes at the front are a root of their own. -/
def rootOf : List Char → String
  | '/' :: '/' :: '/' :: _ => "/"
  | '/' :: '/' :: _ => "//"
  | '/' :: _ => "/"
  | _ => ""

/-- The path that a text stands for. -/
def ofText (s : String) : FilePath where
  root := rootOf s.toList
  parts := ((splitSlashes s.toList).filter fun part => part ≠ [] && part ≠ ['.']).map String.ofList

/-- The written form of a path; the empty path is a dot. -/
def text (p : FilePath) : String :=
  if p.root = "" && p.parts.isEmpty then "."
  else p.root ++ String.intercalate "/" p.parts

/-- The path as messages show it. -/
def quoted (p : FilePath) : String := Text.quoted p.text

/-- The last part, where there is one. -/
def name? (p : FilePath) : Option String := p.parts.getLast?

/-- The path without its last part. -/
def parent (p : FilePath) : FilePath := { p with parts := p.parts.dropLast }

/-- The part of a name before its suffix. A suffix begins at the last dot, unless that is the
first or the last character. -/
def stem (name : String) : String :=
  let before := (name.toList.reverse.dropWhile (· ≠ '.')).drop 1
  if before.isEmpty || name.toList.getLast? = some '.' then name
  else String.ofList before.reverse

/-- The path with another suffix, if it has a name. -/
def withSuffix? (p : FilePath) (suffix : String) : Option FilePath :=
  p.name?.map fun name => { p with parts := p.parts.dropLast ++ [stem name ++ suffix] }

end FilePath
end FleetWarden
