import JetPlot.Program.Basic
import JetPlot.Text.Blank
import JetPlot.Text.Lines
import JetPlot.Text.UpperCase

/-!
# Lines of a program

A line of a program text, trimmed, is blank, opens or closes the shutter, starts
a motion, or is skipped (`Line.classify`). Letter case never matters. What a line
is gets decided in this order:

* a line that begins with `!` is a comment, one that begins with `#` a header;
* a line whose first word is a control word is skipped as a whole;
* a line that mentions the opening or closing of the shutter does just that;
* a line that begins with a motion keyword is a motion, whatever follows it.
-/

namespace JetPlot

/-- What a line of a program text is. -/
inductive Line
  /-- There is nothing in the line. -/
  | blank
  /-- The line is skipped. -/
  | skip (reason : SkipReason)
  /-- The line opens or closes the shutter. -/
  | shutter (opens : Bool)
  /-- The line begins with a motion keyword. -/
  | motion (keyword : Keyword)
  deriving DecidableEq

namespace Line

/-- The words that control the run of a program. -/
def controlWords : List String := ["IF", "END", "STOP", "TILL", "WAIT"]

/-- The mark of a line that opens the shutter. -/
def opening : String := "SHUTTEROPEN"

/-- The mark of a line that closes the shutter. -/
def closing : String := "SHUTTERCLOSE"

/-- The first word of a line: its letters, digits and underscores up to any
    other character. -/
def firstWord (cs : List Char) : List Char := cs.takeWhile fun c => c.isAlphanum || c = '_'

/-- What a line in upper case is, if it is neither blank nor marked. -/
def classifyUpper (upper : List Char) : Line :=
  match controlWords.find? fun word => word.toList = firstWord upper with
  | some word => skip (.control word)
  | none =>
    -- A motion in a line about the shutter does not count.
    if Text.occursIn opening.toList upper then shutter true
    else if Text.occursIn closing.toList upper then shutter false
    else match Keyword.all.find? fun k => k.text.toList.isPrefixOf upper with
      | some k => motion k
      | none => skip .unrecognized

/-- What a line is. White space around it is not taken off. -/
def classify : List Char → Line
  | [] => blank
  | '!' :: _ => skip .comment
  | '#' :: _ => skip .header
  | cs => classifyUpper (Text.upper cs)

end Line

end JetPlot
