import JetPlot.Geometry.Point

/-!
# Motion commands

A command moves the nozzle or groups the moves that follow. It consists of a
keyword, mostly a target point, and for an arc the angle it sweeps. What a
command says besides, such as its speed, is kept but never drawn.
-/

namespace JetPlot

/-- The keyword of a motion command. -/
inductive Keyword
  /-- A rapid move from point to point. -/
  | ptp
  /-- A straight line. -/
  | line
  /-- A circular arc, given by its end and the angle it sweeps. -/
  | arc2
  /-- The beginning of a segment of moves. -/
  | mseg
  /-- The end of a segment of moves. -/
  | ends
  deriving DecidableEq

namespace Keyword

/-- The keywords in the order in which a line is compared with them. -/
def all : List Keyword := [mseg, ends, line, arc2, ptp]

/-- The written form of a keyword, in upper case. -/
def text : Keyword → String
  | ptp => "PTP"
  | line => "LINE"
  | arc2 => "ARC2"
  | mseg => "MSEG"
  | ends => "ENDS"

/-- Whether a command with this keyword makes no sense without a point. -/
def needsPoint : Keyword → Bool
  | ends => false
  | _ => true

end Keyword

/-- A motion command. -/
structure Command where
  /-- What the command does. -/
  keyword : Keyword
  /-- The target point. -/
  point : Option Point
  /-- The angle that an arc sweeps, in radians; positive angles run
      counterclockwise in the picture. -/
  angle : Option Float
  /-- The speed of the move. -/
  speed : Option Float
  /-- The number of the line that holds the command, counted from one. -/
  lineNumber : Nat
  deriving DecidableEq

/-- A command in one line: its keyword, its point and its angle. -/
def Command.text (c : Command) : String :=
  c.keyword.text ++ (c.point.elim "" fun p => " " ++ p.text) ++
    c.angle.elim "" fun a => " angle=" ++ Style.plain.text a

end JetPlot
