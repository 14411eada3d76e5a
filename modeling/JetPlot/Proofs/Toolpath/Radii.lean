import JetPlot.Proofs.Double.Middle
import JetPlot.Proofs.Geometry.Sine
import JetPlot.Proofs.Toolpath.Points

/-!
# The radii of arcs

The radius of an arc is its chord divided by twice the sine of half its angle. The chord is
not negative, so that the radius is not negative if the sine is not. Up to half a turn no sine
is negative (`sine_nonneg`), but beyond it every other half turn has negative sines.

* `nonneg_radius_of_mem_ops`: all arcs that are drawn have finite radii, which are not
  negative if the arcs sweep no more than a full turn;
* `not_nonneg_radius`: beyond a full turn a radius may be negative.
-/

namespace JetPlot

open Float.Model UnpackedFloat Double

/-! ## Distances -/

theorem squareRoot_nonneg (m : ℕ) (e : ℤ) : 0 ≤ squareRoot m e := by
  rw [squareRoot]
  split
  · exact roundWithAccuracy_nonneg ..
  · decide

theorem abs_nonneg_of_unpack {x : Float} (hinfinite : ∀ s, x.toModel.unpack ≠ .infinity s)
    (hnan : x.toModel.unpack ≠ .notANumber) : 0 ≤ x.abs := by
  refine abs_nonneg_of_isFinite (isFinite_iff.2 ?_)
  cases h : x.toModel.unpack with
  | infinity s => exact absurd h (hinfinite s)
  | notANumber => exact absurd h hnan
  | zero s | finite s m e hm => rfl

/-- The length of a hypotenuse is not negative, unless it is a NaN. -/
theorem hypot_eq_or_nonneg (a b : Float) : hypot a b = 0 / 0 ∨ 0 ≤ hypot a b := by
  have hinfinite : (0 : Float) ≤ 1 / 0 := by decide
  rw [hypot]
  split
  · exact .inr hinfinite
  · exact .inr hinfinite
  · exact .inl rfl
  · exact .inl rfl
  · next hb hnan => exact .inr (abs_nonneg_of_unpack hb hnan)
  · next ha hnan _ => exact .inr (abs_nonneg_of_unpack ha hnan)
  · exact .inr (squareRoot_nonneg ..)

/-- A quotient of a NaN is not finite. -/
theorem not_isFinite_nan_div (y : Float) : ¬ ((0 / 0) / y : Float).isFinite := by
  intro h
  have hfinite : (UnpackedFloat.div .binary64 (0 / 0 : Float).toModel.unpack
    y.toModel.unpack).isFinite := isFinite_of_isFinite_ofUnpacked h
  have hnan : (0 / 0 : Float).toModel.unpack = .notANumber := by rfl
  rw [hnan] at hfinite
  cases y.toModel.unpack <;> cases hfinite

/-! ## Arcs -/

namespace Arc

/-- The double nearest to `2 * π`. -/
def fullTurn : Float := 6.283185307179586

theorem value_fullTurn : value fullTurn = 2 * value halfTurn := by
  have hunpack : fullTurn.toModel.unpack =
      .finite .positive 7074237752028440 (-50) (by decide) := rfl
  rw [Sine.value_halfTurn, value, hunpack, number, signed]
  norm_num

variable {start target : Point} {angle : Float} {arc : Arc}

/-- Half of an angle up to a full turn has a sine that is not negative. -/
theorem halfSine_nonneg (hangle : angle.isFinite) (hturn : angle.abs ≤ fullTurn) :
    0 ≤ sine (angle.abs / 2) := by
  have hfinite := isFinite_abs hangle
  have hnonneg : 0 ≤ value angle.abs := value_nonneg hfinite (abs_nonneg_of_isFinite hangle)
  have hvalue := (le_iff hfinite rfl).1 hturn
  obtain ⟨hhalf, hlow, -⟩ := half_mem hfinite hnonneg
  rw [value_fullTurn] at hvalue
  refine sine_nonneg hhalf ?_ ((rounds_half hfinite).le halfTurn rfl (by linarith))
  rwa [le_iff rfl hhalf, value_zero]

/-- The radius of an arc has the sign of the sine it is computed from. -/
theorem nonneg_radius_of_ofAngle? (h : ofAngle? start target angle = some arc)
    (hsine : 0 ≤ sine (angle.abs / 2)) : 0 ≤ arc.radius := by
  simp only [ofAngle?] at h
  split at h
  · cases h
  · split at h
    · next hradius =>
      rw [← Option.some.inj h]
      -- Differences of coordinates may overflow, but a chord that is a NaN gives no finite radius.
      rcases hypot_eq_or_nonneg (target.x - start.x) (target.y - start.y) with hnan | hchord
      · rw [Point.distance, hnan] at hradius
        exact absurd hradius (not_isFinite_nan_div _)
      · exact div_nonneg_of_isFinite hchord (two_mul_nonneg hsine) hradius
    · cases h

end Arc

/-- An arc is drawn for an arc command with a finite angle. -/
theorem Command.exists_angle_of_stroke? {c : Command} {cursor : Point} {arc : Arc}
    (h : c.stroke? cursor = some (.arc arc)) :
    c.keyword = .arc2 ∧ c.point = some arc.target ∧ ∃ angle, c.angle = some angle ∧
      angle.isFinite ∧ Arc.ofAngle? cursor arc.target angle = some arc := by
  rw [stroke?] at h
  split at h
  · cases h
  · next target hkeyword hpoint =>
    obtain ⟨angle, hangle, hstroke⟩ := Option.map_eq_some_iff.1 h
    obtain ⟨hangle, hfinite⟩ := Option.filter_eq_some_iff.1 hangle
    rw [Stroke.ofAngle] at hstroke
    cases harc : Arc.ofAngle? cursor target angle with
    | none => rw [harc] at hstroke; cases hstroke
    | some a =>
      rw [harc] at hstroke
      cases hstroke
      obtain rfl := Arc.target_of_ofAngle? harc
      exact ⟨hkeyword, hpoint, angle, hangle, hfinite, harc⟩
  · cases h

/-- Every arc that is drawn comes from an arc command, whose angle gives it a finite radius. The
    radius has the sign of the sine of half the angle: it is not negative for an angle up to a
    full turn. -/
theorem nonneg_radius_of_mem_ops {p : Program} {path : Path} {arc : Arc}
    (hpath : path ∈ (Toolpath.trace p).paths) (harc : .draw (.arc arc) ∈ path.ops) :
    arc.radius.isFinite ∧
      ∃ i c angle, p.commands[i]? = some c ∧ c.keyword = .arc2 ∧ c.point = some arc.target ∧
        c.angle = some angle ∧ angle.isFinite ∧
        Arc.ofAngle? (p.cursorAt i) arc.target angle = some arc ∧
        (0 ≤ sine (angle.abs / 2) → 0 ≤ arc.radius) ∧
        (angle.abs ≤ Arc.fullTurn → 0 ≤ arc.radius) := by
  obtain ⟨i, hcandidate⟩ := Program.exists_candidate_of_mem_paths hpath
  have hstroke : Stroke.arc arc ∈ path.strokes := by
    rcases List.mem_cons.1 harc with hmove | hdraw
    · cases hmove
    · obtain ⟨s, hs, hdraw⟩ := List.mem_map.1 hdraw
      cases hdraw
      exact hs
  obtain ⟨j, hj⟩ := (Program.mem_points_of_candidate? hcandidate).1 _ hstroke
  obtain ⟨c, hc, hs⟩ := Option.bind_eq_some_iff.1 hj
  obtain ⟨hkeyword, hpoint, angle, hangle, hfinite, hofAngle⟩ := Command.exists_angle_of_stroke? hs
  have hsign := @Arc.nonneg_radius_of_ofAngle? _ _ _ _ hofAngle
  exact ⟨Program.isFinite_radius_of_strokeAt? hj, j, c, angle, hc, hkeyword, hpoint, hangle,
    hfinite, hofAngle, hsign, fun hturn => hsign (Arc.halfSine_nonneg hfinite hturn)⟩

/-! ## Bows -/

/-- A program whose only command draws an arc from the origin to a point two units away. -/
def bow (angle : Float) : Program :=
  ⟨[⟨⟨.arc2, some ⟨2, 0⟩, some angle, none, 1⟩, true⟩], []⟩

/-- An arc of half a turn has half of its chord as its radius. -/
theorem trace_bow_halfTurn : (Toolpath.trace (bow Arc.halfTurn)).paths =
    [⟨.origin, [.arc ⟨1, false, true, ⟨2, 0⟩⟩], false⟩] := by
  decide +kernel

/-- An arc of three half turns has the same radius, but with the other sign. -/
theorem trace_bow_beyond : (Toolpath.trace (bow 9.42477796076938)).paths =
    [⟨.origin, [.arc ⟨-1, true, true, ⟨2, 0⟩⟩], false⟩] := by
  decide +kernel

/-- A bow of half a turn is drawn with a finite radius that is not negative. -/
theorem nonneg_radius_halfTurn : ∃ path ∈ (Toolpath.trace (bow Arc.halfTurn)).paths,
    ∃ arc : Arc, .draw (.arc arc) ∈ path.ops ∧ arc.radius.isFinite ∧ 0 ≤ arc.radius := by
  have hpath : ⟨.origin, [.arc ⟨1, false, true, ⟨2, 0⟩⟩], false⟩ ∈
      (Toolpath.trace (bow Arc.halfTurn)).paths := trace_bow_halfTurn ▸ List.mem_cons_self
  have harc := List.mem_cons_of_mem (PathOp.move .origin)
    (@List.mem_cons_self _ (PathOp.draw (.arc ⟨1, false, true, ⟨2, 0⟩⟩)) [])
  obtain ⟨hfinite, i, c, angle, hc, -, -, hangle, -, -, -, hturn⟩ :=
    nonneg_radius_of_mem_ops hpath harc
  obtain ⟨step, hstep, rfl⟩ := List.mem_map.1 (List.mem_of_getElem? hc)
  obtain rfl := List.mem_singleton.1 hstep
  obtain rfl := Option.some.inj hangle
  exact ⟨_, hpath, _, harc, hfinite, hturn (by decide)⟩

/-- Beyond a full turn a radius may be negative, though all points are finite. -/
theorem not_nonneg_radius : ¬ ∀ p : Program, (∀ q ∈ p.points, q.isFinite) →
    ∀ path ∈ (Toolpath.trace p).paths, ∀ arc : Arc, .draw (.arc arc) ∈ path.ops →
      arc.radius.isFinite ∧ 0 ≤ arc.radius := by
  intro h
  have hfinite : ∀ q ∈ (bow 9.42477796076938).points, q.isFinite := by decide
  have hradius := (h _ hfinite _ (trace_bow_beyond ▸ List.mem_cons_self) _
    (List.mem_cons_of_mem _ List.mem_cons_self)).2
  exact absurd hradius (by decide)

end JetPlot
