import FleetWarden.Text.Blank
import FleetWarden.Text.Quoted
import FleetWarden.Text.SymbolTable
import FleetWarden.Text.Width

/-!
# Characters of words

Letters and digits of all scripts, told by what they are not: blanks, punctuation, symbols, and
characters without columns or a printed form. The vowels and finals of a Hangul syllable, and the
fillers for missing letters, take no columns of their own and are letters all the same.
-/

namespace FleetWarden.Text

/-- The vowels and finals that are written into the syllable before them, and the fillers that
stand for a missing letter. -/
def hangulJoined : List Span :=
  [(0x1160, 0x11FF), (0x3164, 0x3164), (0xD7B0, 0xD7FF), (0xFFA0, 0xFFA0)]

/-- Whether a character is a letter, a digit or an underscore. -/
def isWordChar (c : Char) : Bool :=
  isPrintable c && (charWidth c ≠ 0 || inSpans hangulJoined c) && !isBlank c &&
    !inSpans symbolSpans c

/-- Whether a character is a letter or a digit. -/
def isLetterOrDigit (c : Char) : Bool := isWordChar c && c ≠ '_'

end FleetWarden.Text
