import FleetWarden.Text.Parts
import FleetWarden.Text.Width

/-!
# Lines on a console

Texts are broken into lines that fit a number of columns. A line is broken between words; a word
that fits no line is folded, or left to be cut with an ellipsis, as the layout asks.
-/

namespace FleetWarden.Console

open Text

/-- What becomes of a word that fits no line. -/
inductive Overflow where
  | fold
  | ellipsis
deriving DecidableEq, Repr

/-- The side that a line is set to; a free line is left as it is. -/
inductive Justify where
  | free
  | left
  | center
  | right
deriving DecidableEq, Repr

/-- The distance between two tab stops. -/
def tabSize : Nat := 8

/-- Joins the parts between tabs, given the column before them. A tab is one space at least, and
more up to the next stop. -/
def fillTabs (column : Nat) : List (List Char) → List Char
  | [] => []
  | [part] => part
  | part :: rest =>
    let reached := column + width (part ++ [' '])
    let stop := (reached + tabSize - 1) / tabSize * tabSize
    part ++ ' ' :: spaces (stop - reached) ++ fillTabs stop rest

/-- A line with its tabs filled up. -/
def expandTabs (line : List Char) : List Char := fillTabs 0 (splitBetween '\t' line)

def dropBlanksEnd (cs : List Char) : List Char := (cs.reverse.dropWhile isBlank).reverse

/-- Splits the first word off, with the blanks around it. -/
def firstWord (cs : List Char) : List Char × List Char :=
  let blanks := cs.takeWhile isBlank
  let fromWord := cs.dropWhile isBlank
  let word := fromWord.takeWhile fun c => !isBlank c
  let rest := fromWord.dropWhile fun c => !isBlank c
  (blanks ++ word ++ rest.takeWhile isBlank, rest.dropWhile isBlank)

/-- The words of a text with the blanks around them; blanks alone are no word. -/
def wordsOf : Nat → List Char → List (List Char)
  | 0, _ => []
  | fuel + 1, cs =>
    if cs.all isBlank then []
    else (firstWord cs).1 :: wordsOf fuel (firstWord cs).2

/-- The parts of a text that fill so many columns each, given the columns taken already. -/
def chop (columns taken : Nat) : List Cluster → List (List Char)
  | [] => [[]]
  | k :: rest =>
    if columns < taken + k.columns then
      match chop columns k.columns rest with
      | part :: parts => [] :: (k.chars ++ part) :: parts
      | [] => [[], k.chars]
    else
      match chop columns (taken + k.columns) rest with
      | part :: parts => (k.chars ++ part) :: parts
      | [] => [k.chars]

/-- Lines as they are built: the finished ones and the one at hand, each last first. -/
structure Lines where
  finished : List (List Char)
  current : List Char
  column : Nat
deriving DecidableEq

namespace Lines

def start : Lines := ⟨[], [], 0⟩

/-- Begins a new line, unless nothing was written yet. -/
def newLine (l : Lines) : Lines :=
  if l.finished = [] ∧ l.current = [] then l else ⟨l.current :: l.finished, [], 0⟩

def write (l : Lines) (cs : List Char) : Lines :=
  { l with current := l.current ++ cs, column := l.column + width cs }

/-- Writes parts on lines of their own. -/
def writeParts (l : Lines) (parts : List (List Char)) : Lines :=
  parts.foldl (fun l part => l.newLine.write part) l

/-- Writes a word where it fits. -/
def writeWord (columns : Nat) (overflow : Overflow) (l : Lines) (word : List Char) : Lines :=
  let size := width (dropBlanksEnd word)
  if size + l.column ≤ columns then l.write word
  else if columns < size then
    match overflow with
    | .fold => l.writeParts (chop columns 0 (clusters word))
    | .ellipsis => l.newLine.write word
  else if l.column = 0 then l.write word
  else l.newLine.write word

def toList (l : Lines) : List (List Char) := (l.current :: l.finished).reverse

end Lines

/-- Takes blanks away at the end of a line as far as it is too long. -/
def trimExcess (columns : Nat) (line : List Char) : List Char :=
  let blanks := line.length - (dropBlanksEnd line).length
  line.take (line.length - min blanks (line.length - columns))

/-- A line cut to a number of columns. -/
def truncate (columns : Nat) (overflow : Overflow) (line : List Char) : List Char :=
  if width line ≤ columns then line
  else
    match overflow with
    | .fold => fit columns line
    | .ellipsis => fit (columns - 1) line ++ ['…']

/-- A line set to one side. -/
def justify (columns : Nat) (overflow : Overflow) : Justify → List Char → List Char
  | .free, line => line
  | .left, line =>
    let cut := truncate columns overflow line
    cut ++ spaces (columns - width cut)
  | .center, line =>
    let cut := truncate columns overflow (dropBlanksEnd line)
    let left := spaces ((columns - width cut) / 2) ++ cut
    left ++ spaces (columns - width left)
  | .right, line =>
    let cut := truncate columns overflow (dropBlanksEnd line)
    spaces (columns - width cut) ++ cut

/-- One line of a text, broken to fit; a line of blanks stays as it is. -/
def breakLine (columns : Nat) (overflow : Overflow) (line : List Char) : List (List Char) :=
  let expanded := expandTabs line
  if expanded.all isBlank then [expanded]
  else ((wordsOf (expanded.length + 1) expanded).foldl (Lines.writeWord columns overflow)
    Lines.start).toList

/-- The lines of a text on a number of columns. -/
def layOut (columns : Nat) (overflow : Overflow) (side : Justify) (cs : List Char) :
    List (List Char) :=
  (splitBetween '\n' cs).flatMap fun line =>
    (breakLine columns overflow line).map fun part =>
      truncate columns overflow (justify columns overflow side (trimExcess columns part))

/-- Lines with line feeds after them. -/
def endLines (lines : List (List Char)) : List Char := lines.flatMap (· ++ ['\n'])

/-- The text of lines as printed. -/
def printed (columns : Nat) (cs : List Char) : String :=
  String.ofList (endLines (layOut columns .fold .free cs))

end FleetWarden.Console
