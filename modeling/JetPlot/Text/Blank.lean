/-!
# White space

The white space of a text is every character with the `White_Space` property:
the blanks and line breaks of ASCII, and the spaces and separators of other
scripts. `trim` takes it off both ends of a line. Characters that only look
empty, such as the zero-width space or the byte order mark, are not white space.
-/

namespace JetPlot.Text

/-- The code points with the `White_Space` property, as ranges. -/
def blankRanges : List (Nat × Nat) :=
  [(0x9, 0xd), (0x20, 0x20), (0x85, 0x85), (0xa0, 0xa0), (0x1680, 0x1680), (0x2000, 0x200a),
   (0x2028, 0x2029), (0x202f, 0x202f), (0x205f, 0x205f), (0x3000, 0x3000)]

/-- Whether a character is white space. -/
def isBlank (c : Char) : Bool :=
  blankRanges.any fun range => range.1 ≤ c.toNat ∧ c.toNat ≤ range.2

/-- A text without the white space in front of it. -/
def skipBlanks (cs : List Char) : List Char := cs.dropWhile isBlank

/-- A text without the white space at either end. -/
def trim (cs : List Char) : List Char := (skipBlanks (skipBlanks cs).reverse).reverse

end JetPlot.Text
