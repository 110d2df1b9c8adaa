import FleetWarden.Text.Parts

/-!
# Control sequences

A control sequence begins with an escape and an opening bracket. Parameters and intermediate
characters follow, and one final character ends it. It tells a terminal something and is no part of
what is written, so texts that are not for a terminal go without.
-/

namespace FleetWarden.Text

/-- The character that a control sequence begins with. -/
def escapeChar : Char := '\x1B'

def isParameter (c : Char) : Bool := '0' ≤ c && c ≤ '?'

def isIntermediate (c : Char) : Bool := ' ' ≤ c && c ≤ '/'

def isFinal (c : Char) : Bool := '@' ≤ c && c ≤ '~'

/-- The control sequence at the front of a text. -/
def controlSequence? : List Char → Option Stretch
  | c :: '[' :: rest =>
    let parameters := rest.takeWhile isParameter
    let intermediates := (rest.drop parameters.length).takeWhile isIntermediate
    let size := parameters.length + intermediates.length
    if c = escapeChar && (rest.drop size).head?.any isFinal then some ⟨size + 2, []⟩ else none
  | _ => none

/-- A text without its control sequences. -/
def dropControlSequences (s : String) : String :=
  String.ofList (replaceStretches controlSequence? s.toList)

end FleetWarden.Text
