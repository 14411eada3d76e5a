import JetPlot.Program.Basic
import JetPlot.Toolpath.Arc

/-!
# Blocks of a program

What a program draws can be told without carrying it out. The commands `MSEG`,
`ENDS` and `PTP` are its *boundaries*: they split the other commands into
*blocks*. At every position there is a cursor, found by searching the commands
before it backwards (`Program.cursorAt`), and hence a stroke for every drawing
command (`Program.strokeAt?`).

A block is named by the position where it ends, which is that of a boundary or the
end of the program (`Program.blockEnds`). A block opened by a segment command is a
path with all of its strokes; of any other block only the last stroke is a path
(`Program.candidate?`).

* `cursorAt_succ`, `boundaryBefore?_succ`, `drawnBefore_succ`: what one more
  command makes of the cursor, the last boundary and the strokes since then.
-/

namespace JetPlot

/-- The stroke from one point to another that sweeps an angle: an arc, or a line if
    there is no radius. -/
def Stroke.ofAngle (start target : Point) (angle : Float) : Stroke :=
  (Arc.ofAngle? start target angle).elim (.line target) .arc

@[simp] theorem Stroke.target_ofAngle (start target : Point) (angle : Float) :
    (Stroke.ofAngle start target angle).target = target := by
  rw [Stroke.ofAngle]
  cases h : Arc.ofAngle? start target angle with
  | none => rfl
  | some arc => exact Arc.target_of_ofAngle? h

namespace Command

/-- Whether a command ends one block and begins the next one. -/
def isBoundary (c : Command) : Bool :=
  match c.keyword with
  | .mseg | .ends | .ptp => true
  | .line | .arc2 => false

/-- Whether a command draws: a line to a point, or an arc to a point by a finite
    angle. -/
def draws (c : Command) : Bool :=
  match c.keyword with
  | .line => c.point.isSome
  | .arc2 => c.point.isSome && c.angle.any Float.isFinite
  | .mseg | .ends | .ptp => false

/-- The point to which a command moves the cursor, if it does. -/
def landing? (c : Command) : Option Point :=
  if c.keyword = .mseg ∨ c.keyword = .ptp ∨ c.draws then c.point else none

/-- Where the segment begins that a command opens, if it does. -/
def segmentStart? (c : Command) : Option Point := if c.keyword = .mseg then c.point else none

/-- The stroke that a command draws from the cursor, if it draws. -/
def stroke? (cursor : Point) (c : Command) : Option Stroke :=
  match c.keyword, c.point with
  | .line, some target => some (.line target)
  | .arc2, some target => (c.angle.filter Float.isFinite).map (Stroke.ofAngle cursor target)
  | _, _ => none

/-- The commands that draw are those with a stroke, wherever the cursor is. -/
theorem isSome_stroke? (cursor : Point) (c : Command) :
    (c.stroke? cursor).isSome = c.draws := by
  obtain ⟨keyword, point, angle, speed, number⟩ := c
  cases keyword with
  | ptp | mseg | ends => rfl
  | line => cases point <;> rfl
  | arc2 =>
    cases point with
    | none => rfl
    | some target =>
      -- The stroke is there if the angle is, and is finite.
      rw [stroke?, draws, Option.isSome_map, Option.isSome_some, Bool.true_and]
      exact Option.isSome_filter

/-- A command that draws moves the cursor to the end of its stroke. -/
theorem landing?_of_stroke? {cursor : Point} {c : Command} {s : Stroke}
    (h : c.stroke? cursor = some s) : c.landing? = some s.target := by
  have hd : c.draws = true := by rw [← isSome_stroke? cursor, h]; rfl
  rw [landing?, if_pos (.inr (.inr hd))]
  rw [stroke?] at h
  split at h
  · next target _ hp =>
    rw [hp, ← Option.some.inj h]
    rfl
  · next target _ hp =>
    obtain ⟨angle, -, rfl⟩ := Option.map_eq_some_iff.1 h
    rw [hp, Stroke.target_ofAngle]
  · cases h

/-- A boundary draws nothing. -/
theorem draws_of_isBoundary {c : Command} (h : c.isBoundary) : c.draws = false := by
  obtain ⟨keyword, point, angle, speed, number⟩ := c
  cases keyword with
  | ptp | mseg | ends => rfl
  | line | arc2 => cases h

/-- A command that draws is no boundary. -/
theorem isBoundary_of_stroke? {cursor : Point} {c : Command} {s : Stroke}
    (h : c.stroke? cursor = some s) : c.isBoundary = false := by
  have hd : c.draws = true := by rw [← isSome_stroke? cursor, h]; rfl
  cases hb : c.isBoundary with
  | true =>
    rw [draws_of_isBoundary hb] at hd
    exact hd.symm
  | false => rfl

/-- A command that is no boundary and draws nothing leaves the cursor where it is. -/
theorem landing?_of_idle {cursor : Point} {c : Command} (hb : c.isBoundary = false)
    (hs : c.stroke? cursor = none) : c.landing? = none := by
  have hd : c.draws = false := by rw [← c.isSome_stroke? cursor, hs]; rfl
  rw [landing?, hd]
  obtain ⟨keyword, point, angle, speed, number⟩ := c
  cases keyword with
  | ptp | mseg | ends => cases hb
  | line | arc2 => rfl

end Command

namespace Program

variable {p : Program} {i : Nat} {c : Command}

/-! ## Positions -/

/-- Where the cursor is before a position: where the latest command landed that
    moved it, or the origin. -/
def cursorAt (p : Program) (i : Nat) : Point :=
  ((p.commands.take i).reverse.findSome? Command.landing?).getD .origin

/-- Whether there is a boundary at a position. -/
def boundaryAt (p : Program) (i : Nat) : Bool := p.commands[i]?.any Command.isBoundary

/-- The stroke that the command at a position draws, if it draws. -/
def strokeAt? (p : Program) (i : Nat) : Option Stroke :=
  p.commands[i]?.bind (Command.stroke? (p.cursorAt i))

/-- The latest boundary before a position. -/
def boundaryBefore? (p : Program) (i : Nat) : Option Command :=
  (p.commands.take i).reverse.find? Command.isBoundary

/-- The positions since the latest boundary before a position. -/
def blockBefore (p : Program) (i : Nat) : List Nat :=
  ((List.range i).reverse.takeWhile fun j => !p.boundaryAt j).reverse

/-- The strokes drawn since the latest boundary before a position, each with the
    cursor from which it is drawn. -/
def drawnBefore (p : Program) (i : Nat) : List (Point × Stroke) :=
  (p.blockBefore i).filterMap fun j => (p.strokeAt? j).map (p.cursorAt j, ·)

theorem commands_take_succ (h : p.commands[i]? = some c) :
    p.commands.take (i + 1) = p.commands.take i ++ [c] := by
  rw [List.take_add_one, h, Option.toList_some]

theorem boundaryAt_eq (h : p.commands[i]? = some c) : p.boundaryAt i = c.isBoundary := by
  rw [boundaryAt, h, Option.any_some]

theorem strokeAt?_eq (h : p.commands[i]? = some c) :
    p.strokeAt? i = c.stroke? (p.cursorAt i) := by
  rw [strokeAt?, h, Option.bind_some]

theorem cursorAt_succ (h : p.commands[i]? = some c) :
    p.cursorAt (i + 1) = c.landing?.getD (p.cursorAt i) := by
  rw [cursorAt, commands_take_succ h, List.reverse_concat, List.findSome?_cons]
  cases c.landing? <;> rfl

theorem boundaryBefore?_succ (h : p.commands[i]? = some c) :
    p.boundaryBefore? (i + 1) = if c.isBoundary then some c else p.boundaryBefore? i := by
  rw [boundaryBefore?, commands_take_succ h, List.reverse_concat, List.find?_cons]
  cases c.isBoundary <;> rfl

theorem blockBefore_succ (p : Program) (i : Nat) :
    p.blockBefore (i + 1) = if p.boundaryAt i then [] else p.blockBefore i ++ [i] := by
  rw [blockBefore, List.range_succ, List.reverse_concat, List.takeWhile_cons]
  cases p.boundaryAt i <;> simp [blockBefore]

/-- A boundary starts over; a command that draws adds its stroke. -/
theorem drawnBefore_succ (h : p.commands[i]? = some c) :
    p.drawnBefore (i + 1) = if c.isBoundary then []
      else p.drawnBefore i ++ ((c.stroke? (p.cursorAt i)).map (p.cursorAt i, ·)).toList := by
  rw [drawnBefore, blockBefore_succ, boundaryAt_eq h]
  cases c.isBoundary with
  | true => rfl
  | false =>
    rw [if_neg Bool.false_ne_true, if_neg Bool.false_ne_true, List.filterMap_append, drawnBefore,
      ← strokeAt?_eq h]
    cases hs : p.strokeAt? i <;> simp [hs]

/-! ## Blocks -/

/-- The positions where a block ends: the boundaries and the end of the program. -/
def blockEnds (p : Program) : List Nat :=
  (List.range p.commands.length).filter p.boundaryAt ++ [p.commands.length]

/-- Whether the block that ends at a position is printed: it is closed by the end
    of a segment or by a move from point to point, with the shutter open. -/
def printedAt (p : Program) (i : Nat) : Bool :=
  p.steps[i]?.any fun s =>
    s.shutterOpen && (s.command.keyword = .ends || s.command.keyword = .ptp)

/-- The path that the block that ends at a position would be. In a segment it has all
    strokes of the block, otherwise only the last one. -/
def candidate? (p : Program) (i : Nat) : Option Path :=
  match (p.boundaryBefore? i).bind Command.segmentStart? with
  | some start => some ⟨start, (p.drawnBefore i).map Prod.snd, p.printedAt i⟩
  | none => (p.drawnBefore i).getLast?.map fun d => ⟨d.1, [d.2], p.printedAt i⟩

/-- The paths that the blocks of a program would be, in order. -/
def candidates (p : Program) : List Path := p.blockEnds.filterMap p.candidate?

end Program

end JetPlot
