import FleetWarden.Text.Blank

/-!
# Parts of texts

A text split at separators or into words, and a text searched for stretches that something else
takes the place of.
-/

namespace FleetWarden.Text

/-- The parts of a text between separators. -/
def splitBetween (separator : Char) (cs : List Char) : List (List Char) :=
  cs.foldr (fun c parts =>
    if c = separator then [] :: parts
    else match parts with
      | [] => [[c]]
      | part :: rest => (c :: part) :: rest) [[]]

/-- The words of a text, which stand between blanks. -/
def words (cs : List Char) : List (List Char) :=
  (cs.splitBy fun a b => isBlank a == isBlank b).filter fun w => !w.all isBlank

/-- A stretch at the front of a text: how many characters it has behind the first one, and what
takes its place. -/
structure Stretch where
  more : Nat
  shown : List Char
deriving DecidableEq, Repr

/-- The text with each stretch that `find?` sees replaced, from left to right; `skip` characters
belong to a stretch that was replaced already. -/
def replaceFrom (find? : List Char → Option Stretch) (skip : Nat) : List Char → List Char
  | [] => []
  | c :: rest =>
    match skip with
    | n + 1 => replaceFrom find? n rest
    | 0 =>
      match find? (c :: rest) with
      | some s => s.shown ++ replaceFrom find? s.more rest
      | none => c :: replaceFrom find? 0 rest

/-- The text with each stretch that `find?` sees replaced. -/
def replaceStretches (find? : List Char → Option Stretch) (cs : List Char) : List Char :=
  replaceFrom find? 0 cs

/-- Where nothing is seen, nothing is replaced. -/
theorem replaceStretches_of_none {find? : List Char → Option Stretch}
    (h : ∀ cs, find? cs = none) (cs : List Char) : replaceStretches find? cs = cs := by
  unfold replaceStretches
  induction cs with
  | nil => rfl
  | cons c rest ih => simp [replaceFrom, h, ih]

end FleetWarden.Text
