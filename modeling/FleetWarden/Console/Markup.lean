import FleetWarden.Console.Emoji
import FleetWarden.Console.Literal
import FleetWarden.Console.Style

/-!
# Markup

Console texts may hold tags in square brackets. An opening tag switches a style on and its closing
tag switches it off; `[/]` closes the latest one. A backslash before a bracket takes its meaning
away. A tag whose name begins with an at sign is an action instead, with parameters behind an
equals sign, which must be literals when the tag is closed. Between tags, names between colons
stand for emoji. `plain` gives the text without its tags.

## Implementation notes

Styles have no effect on a plain console, so only their names are kept.
-/

namespace FleetWarden.Console

open Text

/-- A stretch of text or a tag. -/
inductive Piece where
  | text (cs : List Char)
  | tag (cs : List Char)
deriving DecidableEq, Repr

/-- Whether a tag may begin with a character. -/
def beginsTag (c : Char) : Bool :=
  ('a' ≤ c && c ≤ 'z') || c = '#' || c = '/' || c = '@'

/-- What stands before the closing bracket of a tag and what stands after it; another opening
bracket means that there is no tag. -/
def untilBracket? : List Char → Option (List Char × List Char)
  | [] => none
  | c :: rest =>
    if c = ']' then some ([], rest)
    else if c = '[' then none
    else (untilBracket? rest).map fun (inside, after) => (c :: inside, after)

/-- The tag at an opening bracket. -/
def tagAt? : List Char → Option (List Char × List Char)
  | '[' :: c :: rest =>
    if beginsTag c then (untilBracket? rest).map fun (inside, after) => (c :: inside, after)
    else none
  | _ => none

/-- The pieces of a text. `slashes` counts the backslashes right before, and `seen` holds the
characters before them, last first. -/
def pieces : Nat → Nat → List Char → List Char → List Piece
  | 0, _, _, _ => []
  | fuel + 1, slashes, seen, cs =>
    let before := List.replicate slashes '\\' ++ seen
    match cs with
    | [] => [.text before.reverse]
    | c :: rest =>
      if c = '\\' then pieces fuel (slashes + 1) seen rest
      else
        match tagAt? cs with
        | none => pieces fuel 0 (c :: before) rest
        | some (tag, after) =>
          let kept := List.replicate (slashes / 2) '\\'
          if slashes % 2 = 1 then
            .text seen.reverse :: .text kept :: .text ('[' :: tag ++ [']']) ::
              pieces fuel 0 [] after
          else .text seen.reverse :: .text kept :: .tag tag :: pieces fuel 0 [] after

/-- Takes away backslashes before opening brackets that are no tags. -/
def unescape : List Char → List Char
  | [] => []
  | '\\' :: '[' :: rest => '[' :: unescape rest
  | c :: rest => c :: unescape rest

/-- Why markup cannot be shown. -/
inductive MarkupError where
  /-- A closing tag that closes nothing. -/
  | unmatched
  /-- An action whose parameters are no literals. -/
  | badParameters
  /-- A colour with a part that is no number. -/
  | badColour (error : WholeError)
deriving DecidableEq

/-- A tag as it is opened: the name that closes it, and what is assigned to it. -/
structure OpenTag where
  name : String
  parameters : Option (List Char)
deriving DecidableEq

namespace OpenTag

/-- Whether the tag is an action. -/
def isAction (t : OpenTag) : Bool := t.name.toList.head? = some '@'

/-- The literals in the parameters of an action. A handler's name may stand before its arguments
in brackets, or alone. -/
def literals (parameters : List Char) : List Char :=
  let cs := trimBy isBlank parameters
  let isHandlerChar (c : Char) := c = '.' || isWordChar c
  let arguments := cs.dropWhile isHandlerChar
  if arguments = [] then ['(', ')']
  else if arguments.head? = some '(' ∧ arguments.getLast? = some ')' ∧ ¬ arguments.contains '\n'
  then arguments
  else cs

/-- Checks what is needed to close the tag. -/
def checkClose (t : OpenTag) : Except MarkupError Unit :=
  match t.parameters with
  | none => .ok ()
  | some cs =>
    if cs.isEmpty || !t.isAction || Literal.isLiteral (literals cs) then .ok ()
    else .error .badParameters

end OpenTag

/-- Splits a tag at its first equals sign. -/
def splitTag (cs : List Char) : List Char × Option (List Char) :=
  match cs.dropWhile (· ≠ '=') with
  | [] => (cs, none)
  | _ :: parameters => (cs.takeWhile (· ≠ '='), some parameters)

/-- The name of a style in a tag. -/
def nameOf (cs : List Char) : Except MarkupError String := (styleName cs).mapError .badColour

/-- Takes the latest open tag of a name out of the open tags, latest first. -/
def take? (name : String) : List OpenTag → Option (OpenTag × List OpenTag)
  | [] => none
  | t :: rest =>
    if t.name = name then some (t, rest)
    else (take? name rest).map fun (found, others) => (found, t :: others)

/-- The open tags, latest first, after another tag. -/
def afterTag (opened : List OpenTag) (tag : List Char) : Except MarkupError (List OpenTag) :=
  let (name, parameters) := splitTag tag
  let close (found : Option (OpenTag × List OpenTag)) := match found with
    | none => .error .unmatched
    | some (t, rest) => t.checkClose.map fun _ => rest
  match name with
  | '/' :: closed =>
    let style := trimBy isBlank closed
    if style = [] then
      close (opened.head?.map fun t => (t, opened.drop 1))
    else (nameOf style).bind fun s => close (take? s opened)
  | _ => (nameOf name).map fun s => ⟨s, parameters⟩ :: opened

/-- The text of pieces, given the open tags. -/
def textOf : List OpenTag → List Piece → Except MarkupError (List Char)
  | _, [] => .ok []
  | opened, .text cs :: rest => (textOf opened rest).map (showEmoji (unescape cs) ++ ·)
  | opened, .tag tag :: rest => (afterTag opened tag).bind fun opened' => textOf opened' rest

/-- Controls that a console does not show. -/
def isDropped (c : Char) : Bool :=
  c.toNat = 7 || c.toNat = 8 || c.toNat = 11 || c.toNat = 12 || c.toNat = 13

/-- The text that markup stands for. -/
def plain (s : String) : Except MarkupError (List Char) :=
  let cs := s.toList
  let shown := if cs.contains '[' then textOf [] (pieces (cs.length + 1) 0 [] cs)
    else .ok (showEmoji cs)
  shown.map fun text => text.filter fun c => !isDropped c

end FleetWarden.Console
