import FleetWarden.Text.WidthTable

/-!
# Widths of texts

The columns that a text takes on a terminal, and texts cut or filled to a number of columns.
Characters that are shown in one place form a cluster, and no cluster is cut in two: a mark belongs
to the character before it, a joiner takes the next character into the cluster without more
columns, and the emoji selector widens the character before it if that has a wider emoji form.

## Implementation notes

`width` measures a whole text and `clusters` measures it piece by piece. They agree except where a
text begins with a joiner, which takes the next character along in `width` only.
-/

namespace FleetWarden.Text

/-- The columns that a character takes; controls take none. -/
def charWidth (c : Char) : Nat :=
  if c.toNat < 0x20 then 0
  else if c.toNat < 0x7F then 1
  else if c.toNat < 0xA0 then 0
  else if inSpans zeroWidthSpans c then 0
  else if inSpans wideSpans c then 2
  else 1

/-- The character that joins its neighbours into one. -/
def joiner : Char := '\u200D'

/-- The character that asks for the emoji form of the one before it. -/
def emojiSelector : Char := '\uFE0F'

/-- The character that asks for the text form of the one before it. -/
def textSelector : Char := '\uFE0E'

/-- The columns that the emoji selector adds to the character before it. -/
def gain (last : Option Char) : Nat :=
  if last.any (inSpans widenedSpans) then 1 else 0

/-- The columns that the rest of a text takes. `joined` says that a joiner stands right before, and
`last` is the latest character with columns. -/
def widthFrom (joined : Bool) (last : Option Char) : List Char → Nat
  | [] => 0
  | c :: rest =>
    if joined then widthFrom false last rest
    else if c = joiner then widthFrom true last rest
    else if c = emojiSelector then gain last + widthFrom false none rest
    else if charWidth c = 0 then widthFrom false last rest
    else charWidth c + widthFrom false (some c) rest

/-- The columns that a text takes. -/
def width (cs : List Char) : Nat := widthFrom false none cs

/-- Characters that are shown in one place, and the columns that they take. -/
structure Cluster where
  chars : List Char
  columns : Nat
deriving DecidableEq, Repr

namespace Cluster

/-- A cluster with one more character and so many more columns. -/
def add (k : Cluster) (c : Char) (columns : Nat) : Cluster := ⟨k.chars ++ [c], k.columns + columns⟩

end Cluster

/-- The clusters of a text from the one at hand on, with the rest of the text behind it. -/
def clustersFrom (k : Cluster) (joined : Bool) (last : Option Char) :
    List Char → List Cluster
  | [] => [k]
  | c :: rest =>
    if joined then clustersFrom (k.add c 0) false last rest
    else if c = joiner then clustersFrom (k.add c 0) true last rest
    else if c = emojiSelector then
      clustersFrom (k.add c (gain last)) false (if gain last = 0 then last else none) rest
    else if charWidth c = 0 then clustersFrom (k.add c 0) false last rest
    else k :: clustersFrom ⟨[c], charWidth c⟩ false (some c) rest

/-- The clusters of a text. -/
def clusters : List Char → List Cluster
  | [] => []
  | c :: rest =>
    clustersFrom ⟨[c], charWidth c⟩ false (if charWidth c = 0 then none else some c) rest

def spaces (n : Nat) : List Char := List.replicate n ' '

/-- The longest beginning of a text that takes so many columns at most; a column that half a
cluster would take is left blank. -/
def cut : Nat → List Cluster → List Char
  | _, [] => []
  | columns, k :: rest =>
    if k.columns ≤ columns then k.chars ++ cut (columns - k.columns) rest else spaces columns

/-- A text cut or filled with spaces to a number of columns. -/
def fit (columns : Nat) (cs : List Char) : List Char :=
  if columns = 0 then []
  else if width cs ≤ columns then cs ++ spaces (columns - width cs)
  else cut columns (clusters cs)

end FleetWarden.Text
