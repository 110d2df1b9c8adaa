import FleetWarden.Console.EmojiTable
import FleetWarden.Text.Case
import FleetWarden.Text.Parts
import FleetWarden.Text.Width

/-!
# Emoji codes

A name between colons stands for an emoji; a name that is not known stands for itself, colons
included. The case of the name does not matter. A name may end in a mark that asks for the text
form or the emoji form.
-/

namespace FleetWarden.Console

open Text

/-- Words taken two by two. -/
def pairUp : List String → List (String × String)
  | name :: shown :: rest => (name, shown) :: pairUp rest
  | _ => []

/-- The pairs of words in a table. -/
def wordPairs (table : List String) : List (String × String) :=
  table.flatMap fun line => pairUp ((words line.toList).map String.ofList)

/-- The skin tones by the ends of the names that ask for them. -/
def skinTones : List (String × Char) :=
  [("_light_skin_tone", '🏻'), ("_medium-light_skin_tone", '🏼'), ("_medium_skin_tone", '🏽'),
   ("_medium-dark_skin_tone", '🏾'), ("_dark_skin_tone", '🏿')]

/-- What stands before an ending. -/
def beforeEnding? (ending name : String) : Option String :=
  let cs := name.toList
  let size := cs.length - ending.length
  if cs.drop size = ending.toList then some (String.ofList (cs.take size)) else none

/-- An emoji in a skin tone. The tone stands in for a selector behind the first character. -/
def withTone (tone : Char) : List Char → List Char
  | c :: rest => c :: tone :: (if rest.head? = some emojiSelector then rest.drop 1 else rest)
  | [] => []

/-- The emoji of people and hands. -/
def tonedEmoji : List (String × String) := wordPairs tonedEmojiWords

/-- The emoji of a person or hand, in a skin tone if the name ends in one. -/
def tonedEmoji? (name : String) : Option (List Char) :=
  match tonedEmoji.lookup name with
  | some emoji => some emoji.toList
  | none =>
    skinTones.findSome? fun (ending, tone) => do
      let person ← beforeEnding? ending name
      let emoji ← tonedEmoji.lookup person
      pure (withTone tone emoji.toList)

/-- The mark of names that stand for flags. -/
def flagMark : String := "flag_for_"

/-- The flag of a region by its letters. -/
def flagOf (letters : String) : List Char :=
  letters.toList.map fun c => Char.ofNat (0x1F1E6 + (c.toNat - 'A'.toNat))

/-- The regions whose flags go by a name without the mark. -/
def bareRegions : List (String × String) := wordPairs (regionWords ++ bareRegionWords)

/-- The regions whose flags go by a name behind the mark. -/
def markedRegions : List (String × String) := wordPairs (regionWords ++ markedRegionWords)

/-- The flag that a name stands for. -/
def flag? (name : String) : Option (List Char) :=
  let cs := name.toList
  let letters :=
    if cs.take flagMark.length = flagMark.toList then
      markedRegions.lookup (String.ofList (cs.drop flagMark.length))
    else bareRegions.lookup name
  letters.map flagOf

/-- The emoji that come in one form only. -/
def plainEmoji : List (String × String) := wordPairs plainEmojiWords

/-- The emoji that goes by a name. -/
def emoji? (name : String) : Option (List Char) :=
  match plainEmoji.lookup name with
  | some emoji => some emoji.toList
  | none =>
    match tonedEmoji? name with
    | some emoji => some emoji
    | none => flag? name

/-- The endings of codes that ask for a form, and the characters that select it. -/
def selectors : List (String × Char) := [("-emoji", emojiSelector), ("-text", textSelector)]

/-- A code without its ending, and the selector that the ending asks for. -/
def splitSelector (code : String) : String × List Char :=
  let ends := selectors.findSome? fun (ending, selector) =>
    (beforeEnding? ending code).map fun name => (name, [selector])
  ends.getD (code, [])

/-- What the code between two colons stands for. -/
def codeShown (code : List Char) : List Char :=
  let (name, selector) := splitSelector (String.ofList code)
  match emoji? (lower name) with
  | some emoji => emoji ++ selector
  | none => ':' :: code ++ [':']

/-- The code at the front of a text: no blank may stand between its colons. -/
def code? : List Char → Option Stretch
  | ':' :: rest =>
    let code := rest.takeWhile fun c => c ≠ ':' && !isBlank c
    if (rest.drop code.length).head? = some ':' then some ⟨code.length + 1, codeShown code⟩
    else none
  | _ => none

/-- A text with emoji in the place of their codes. -/
def showEmoji (cs : List Char) : List Char := replaceStretches code? cs

end FleetWarden.Console
