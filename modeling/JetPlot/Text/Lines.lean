/-!
# Lines of a text

A line ends with a newline, or with a carriage return and a newline; the last
one may end with the text. A text that ends with a newline has no empty line
after it, and a carriage return anywhere else is a character like any other.
-/

namespace JetPlot.Text

/-- Puts a character in front of the first of some lines. -/
def pushChar (c : Char) : List (List Char) → List (List Char)
  | [] => [[c]]
  | line :: rest => (c :: line) :: rest

/-- The lines of a text, without their ends. -/
def lines : List Char → List (List Char)
  | [] => []
  | '\r' :: '\n' :: cs => [] :: lines cs
  | '\n' :: cs => [] :: lines cs
  | c :: cs => pushChar c (lines cs)

/-- Whether a text occurs within another one. -/
def occursIn (part : List Char) : List Char → Bool
  | [] => part.isEmpty
  | c :: cs => part.isPrefixOf (c :: cs) || occursIn part cs

end JetPlot.Text
