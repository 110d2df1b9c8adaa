import FleetWarden.Fault
import FleetWarden.Text.Parts

/-!
# Styles

A style is written as words: attributes, which `not` takes back, a colour, a colour behind `on` for
the background, and a target behind `link`. `Style.name` writes a style with its parts in one fixed
order, so two spellings of a style have the same name. A text that is no style is its own name, up
to case.

## Implementation notes

Styles have no effect on a plain console, so colours are kept by their names only.
-/

namespace FleetWarden.Console

open Text Numeral

/-- The attributes of a style by their names, the long one first. -/
def attributes : List (String × String) :=
  [("bold", "b"), ("dim", "d"), ("italic", "i"), ("underline", "u"), ("blink", "blink"),
   ("blink2", "blink2"), ("reverse", "r"), ("conceal", "c"), ("strike", "s"),
   ("underline2", "uu"), ("frame", "frame"), ("encircle", "encircle"), ("overline", "o")]

/-- The long name of an attribute. -/
def attribute? (word : String) : Option String :=
  (attributes.find? fun p => p.1 = word || p.2 = word).map (·.1)

/-- The names of colours, by lines of words. -/
def colourWords : List String :=
  ["black red green yellow blue magenta cyan white bright_black bright_red bright_green",
   "bright_yellow bright_blue bright_magenta bright_cyan bright_white grey0 gray0 navy_blue",
   "dark_blue blue3 blue1 dark_green deep_sky_blue4 dodger_blue3 dodger_blue2 green4",
   "spring_green4 turquoise4 deep_sky_blue3 dodger_blue1 green3 spring_green3 dark_cyan",
   "light_sea_green deep_sky_blue2 deep_sky_blue1 spring_green2 cyan3 dark_turquoise",
   "turquoise2 green1 spring_green1 medium_spring_green cyan2 cyan1 dark_red deep_pink4",
   "purple4 purple3 blue_violet orange4 grey37 gray37 medium_purple4 slate_blue3 royal_blue1",
   "chartreuse4 dark_sea_green4 pale_turquoise4 steel_blue steel_blue3 cornflower_blue",
   "chartreuse3 cadet_blue sky_blue3 steel_blue1 pale_green3 sea_green3 aquamarine3",
   "medium_turquoise chartreuse2 sea_green2 sea_green1 aquamarine1 dark_slate_gray2",
   "dark_magenta dark_violet purple light_pink4 plum4 medium_purple3 slate_blue1 yellow4",
   "wheat4 grey53 gray53 light_slate_grey light_slate_gray medium_purple light_slate_blue",
   "dark_olive_green3 dark_sea_green light_sky_blue3 sky_blue2 dark_sea_green3",
   "dark_slate_gray3 sky_blue1 chartreuse1 light_green pale_green1 dark_slate_gray1 red3",
   "medium_violet_red magenta3 dark_orange3 indian_red hot_pink3 medium_orchid3 medium_orchid",
   "medium_purple2 dark_goldenrod light_salmon3 rosy_brown grey63 gray63 medium_purple1 gold3",
   "dark_khaki navajo_white3 grey69 gray69 light_steel_blue3 light_steel_blue yellow3",
   "dark_sea_green2 light_cyan3 light_sky_blue1 green_yellow dark_olive_green2 dark_sea_green1",
   "pale_turquoise1 deep_pink3 magenta2 hot_pink2 orchid medium_orchid1 orange3 light_pink3",
   "pink3 plum3 violet light_goldenrod3 tan misty_rose3 thistle3 plum2 khaki3 light_goldenrod2",
   "light_yellow3 grey84 gray84 light_steel_blue1 yellow2 dark_olive_green1 honeydew2",
   "light_cyan1 red1 deep_pink2 deep_pink1 magenta1 orange_red1 indian_red1 hot_pink",
   "dark_orange salmon1 light_coral pale_violet_red1 orchid2 orchid1 orange1 sandy_brown",
   "light_salmon1 light_pink1 pink1 plum1 gold1 navajo_white1 misty_rose1 thistle1 yellow1",
   "light_goldenrod1 khaki1 wheat1 cornsilk1 grey100 gray100 grey3 gray3 grey7 gray7 grey11",
   "gray11 grey15 gray15 grey19 gray19 grey23 gray23 grey27 gray27 grey30 gray30 grey35 gray35",
   "grey39 gray39 grey42 gray42 grey46 gray46 grey50 gray50 grey54 gray54 grey58 gray58 grey62",
   "gray62 grey66 gray66 grey70 gray70 grey74 gray74 grey78 gray78 grey82 gray82 grey85 gray85",
   "grey89 gray89 grey93 gray93"]

/-- The names of colours. -/
def colourNames : List String :=
  "default" :: colourWords.flatMap fun line => (words line.toList).map String.ofList

/-- Why words are no style. A part of a colour that is no number is a fault of its own. -/
inductive StyleError where
  | malformed
  | badPart (error : WholeError)
deriving DecidableEq

/-- What stands in the brackets behind a word. -/
def inBrackets? (word : String) (cs : List Char) : Option (List Char) :=
  let opening := word.toList ++ ['(']
  let inside := cs.drop opening.length
  if cs.take opening.length = opening ∧ inside.getLast? = some ')' then some inside.dropLast
  else none

/-- The largest part of a colour. -/
def colourLimit : Int := 255

/-- Whether a text is the code of a colour: a hash and six digits. -/
def isColourCode (cs : List Char) : Bool :=
  match cs with
  | '#' :: digits =>
    digits.length = 6 && digits.all fun c => c.isDigit || ('a' ≤ c && c ≤ 'f')
  | _ => false

/-- Whether digits in brackets are the number of a colour. -/
def isColourNumber (digits : List Char) : Bool :=
  0 < digits.length && digits.length ≤ 3 && digits.all Char.isDigit &&
    (match Whole.read (String.ofList digits) with
      | .ok n => n ≤ colourLimit
      | .error _ => false)

/-- Checks the three parts of a colour in brackets. -/
def checkParts (cs : List Char) : Except StyleError Unit :=
  match splitBetween ',' cs with
  | [red, green, blue] => do
    let parts ← [red, green, blue].mapM fun part =>
      (Value.text (String.ofList part)).whole.mapError StyleError.badPart
    if parts.all (· ≤ colourLimit) then .ok () else .error .malformed
  | _ => .error .malformed

/-- Whether a character may stand between the brackets of a colour in parts. -/
def isPartChar (c : Char) : Bool := c = ',' || (digitValue? c).isSome

/-- The name of the colour that a word stands for. -/
def colourName (word : String) : Except StyleError String :=
  let name := lower word
  let cs := name.toList
  if colourNames.contains name ∨ isColourCode cs then .ok name
  else
    match inBrackets? "color" cs, inBrackets? "rgb" cs with
    | some digits, _ => if isColourNumber digits then .ok name else .error .malformed
    | none, some parts =>
      if parts ≠ [] ∧ parts.all isPartChar then (checkParts parts).map fun _ => name
      else .error .malformed
    | none, none => .error .malformed

/-- A style: what it says about attributes, the latest first, and its colours and target. -/
structure Style where
  attributes : List (String × Bool)
  colour : Option String
  background : Option String
  link : Option String
deriving DecidableEq, Repr

namespace Style

/-- The style that says nothing. -/
def empty : Style := ⟨[], none, none, none⟩

/-- The style with one more attribute switched on or off. -/
def withAttribute (s : Style) (name : String) (on : Bool) : Style :=
  { s with attributes := (name, on) :: s.attributes }

/-- A style with more words read into it. -/
def readWords (s : Style) : List String → Except StyleError Style
  | [] => .ok s
  | word :: rest =>
    let small := lower word
    if small = "on" then
      match rest with
      | [] => .error .malformed
      | colour :: more => do
        let name ← colourName colour
        readWords { s with background := some name } more
    else if small = "not" then
      match rest with
      | [] => .error .malformed
      | taken :: more =>
        match attribute? taken with
        | some name => readWords (s.withAttribute name false) more
        | none => .error .malformed
    else if small = "link" then
      match rest with
      | [] => .error .malformed
      | target :: more => readWords { s with link := some target } more
    else
      match attribute? small with
      | some name => readWords (s.withAttribute name true) rest
      | none => do
        let name ← colourName small
        readWords { s with colour := some name } rest

/-- What a style says about an attribute. -/
def attributeText (s : Style) (name : String) : Option String :=
  (s.attributes.lookup name).map fun on => if on then name else "not " ++ name

/-- The one spelling of a style. -/
def name (s : Style) : String :=
  let parts := Console.attributes.filterMap (fun p => s.attributeText p.1) ++ s.colour.toList ++
    (s.background.map ("on " ++ ·)).toList ++ (s.link.map ("link " ++ ·)).toList
  if parts.isEmpty then "none" else String.intercalate " " parts

end Style

/-- The name that a style in any spelling goes by. -/
def styleName (cs : List Char) : Except WholeError String :=
  match Style.empty.readWords ((words cs).map String.ofList) with
  | .ok s => .ok s.name
  | .error .malformed => .ok (lower (trim (String.ofList cs)))
  | .error (.badPart e) => .error e

end FleetWarden.Console
