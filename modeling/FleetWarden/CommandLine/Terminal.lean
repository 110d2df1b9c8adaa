import FleetWarden.Console.Layout
import FleetWarden.Console.Markup
import FleetWarden.Text.Case
import FleetWarden.Text.ControlSequence

/-!
# The terminal

What a command writes goes to one of two channels, and what a user types comes in lines. A
question is asked again until it is answered or there is nothing left to read; what was typed shows
behind the question.
-/

namespace FleetWarden.CommandLine

open Text

/-- What was written to the two channels, and what is still to be read. -/
structure Terminal where
  stdout : String
  stderr : String
  /-- The lines that are still to be read. -/
  input : List String
deriving DecidableEq, Repr

namespace Terminal

/-- The lines of a text; a carriage return ends a line too, alone or before a line feed. -/
def linesOf : List Char → List (List Char)
  | [] => []
  | '\r' :: '\n' :: rest => [] :: linesOf rest
  | c :: rest =>
    if c = '\n' ∨ c = '\r' then [] :: linesOf rest
    else
      match rest, linesOf rest with
      | [], _ => [[c]]
      | _ :: _, line :: more => (c :: line) :: more
      | _ :: _, [] => [[c]]

/-- A terminal with a text to be read. -/
def withInput (s : String) : Terminal := ⟨"", "", (linesOf s.toList).map String.ofList⟩

/-- Writes to the first channel. -/
def write (s : String) (t : Terminal) : Terminal := { t with stdout := t.stdout ++ s }

/-- Writes a text and a line feed; control sequences are left out. -/
def writeLine (s : String) (t : Terminal) : Terminal := t.write (dropControlSequences s ++ "\n")

/-- Writes to the second channel; control sequences are left out. -/
def writeError (s : String) (t : Terminal) : Terminal :=
  { t with stderr := t.stderr ++ dropControlSequences s }

/-- The columns of the terminal. -/
def columns : Nat := 200

/-- Writes a text with markup. -/
def writeMarkup (s : String) (t : Terminal) : Except Console.MarkupError Terminal :=
  (Console.plain s).map fun cs => t.write (Console.printed columns cs)

/-- The answer that a typed line gives; no answer stands for no. -/
def answer? (line : String) : Option Bool :=
  let s := trim (lower line)
  if s = "y" ∨ s = "yes" then some true
  else if s = "n" ∨ s = "no" ∨ s = "" then some false
  else none

/-- What asking a question comes to: what was written, the answer, and the lines not read. -/
structure Asked where
  written : String
  answer : Option Bool
  unread : List String
deriving DecidableEq, Repr

/-- Asks a question of the lines that are typed. -/
def ask (prompt : String) : List String → Asked
  | [] => ⟨prompt, none, []⟩
  | line :: rest =>
    match answer? line with
    | some b => ⟨prompt ++ line ++ "\n", some b, rest⟩
    | none =>
      let again := ask prompt rest
      { again with written := prompt ++ line ++ "\nError: invalid input\n" ++ again.written }

/-- Asks whether to go on. -/
def confirm (question : String) (t : Terminal) : Option Bool × Terminal :=
  let asked := ask (question ++ " [y/N]: ") t.input
  (asked.answer, { t.write asked.written with input := asked.unread })

end Terminal
end FleetWarden.CommandLine
