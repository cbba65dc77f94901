/-!
# Blank text

Ids and recipients that hold nothing but white space count as absent, and settings are read
without the white space around them. White space is what Unicode gives the property
`White_Space`; the zero-width characters do not have it.
-/

namespace ControlChannel.Text

/-- The ranges of code points with the property `White_Space`. -/
def blankRanges : List (Nat × Nat) :=
  [(0x09, 0x0D), (0x20, 0x20), (0x85, 0x85), (0xA0, 0xA0), (0x1680, 0x1680), (0x2000, 0x200A),
    (0x2028, 0x2029), (0x202F, 0x202F), (0x205F, 0x205F), (0x3000, 0x3000)]

/-- The code point lies in one of the ranges, ends included. -/
def inRanges (ranges : List (Nat × Nat)) (code : Nat) : Bool :=
  ranges.any fun range => range.1 ≤ code && code ≤ range.2

/-- The character is white space. -/
def isBlankChar (c : Char) : Bool :=
  inRanges blankRanges c.toNat

/-- The text is empty or white space throughout. -/
def isBlank (s : String) : Bool :=
  s.toList.all isBlankChar

/-- The characters without the white space at either end. -/
def trim (cs : List Char) : List Char :=
  ((cs.dropWhile isBlankChar).reverse.dropWhile isBlankChar).reverse

end ControlChannel.Text
