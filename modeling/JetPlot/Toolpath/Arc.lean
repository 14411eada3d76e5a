import JetPlot.Geometry.Sine
import JetPlot.Toolpath.Basic

/-!
# Arcs from angles

A command gives an arc by its two ends and the angle it sweeps. Half of the chord
is the radius times the sine of half the angle, which gives the radius
(`Arc.ofAngle?`). There is none if the sine vanishes, as for a full turn.
-/

namespace JetPlot.Arc

/-- Half an angle whose sine is smaller than this has no radius. -/
def epsilon : Float := 1e-9

/-- The double nearest to `π`. -/
def halfTurn : Float := 3.141592653589793

/-- The arc between two points that sweeps the given angle, in radians. -/
def ofAngle? (start target : Point) (angle : Float) : Option Arc :=
  let halfSine := sine (angle.abs / 2)
  if halfSine.abs < epsilon then none
  else
    let radius := start.distance target / (2 * halfSine)
    if radius.isFinite then some ⟨radius, halfTurn < angle.abs, 0 ≤ angle, target⟩ else none

/-- An arc ends where it is meant to. -/
theorem target_of_ofAngle? {start target : Point} {angle : Float} {arc : Arc}
    (h : ofAngle? start target angle = some arc) : arc.target = target := by
  simp only [ofAngle?] at h
  split at h
  · exact absurd h (by simp)
  · split at h
    · rw [← Option.some.inj h]
    · exact absurd h (by simp)

end JetPlot.Arc
