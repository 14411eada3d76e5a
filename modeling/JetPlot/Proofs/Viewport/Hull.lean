import JetPlot.Proofs.Double.Arithmetic
import JetPlot.Viewport

/-!
# The padded hull

The box of a viewport fits the finite points of a program exactly: apart from the padding,
its edges are their least and greatest coordinates (`Bounds.IsHull`).

* `fit_isHull`: the box is the padded hull and contains all finite points, or there is no
  finite point, or the padded hull is too large.

Extents start at the infinities on the wrong sides. The first finite point takes their
place, and any other one can only move them outward (`IsHull.extend`), so that extents are
valid as soon as there is one finite point (`ofPoints_cases`). Rounding cannot move a padded
edge to the inner side of an extent, for the extents are doubles themselves.
-/

namespace JetPlot

open Double

/-- The values of a coordinate at the finite ones among some points. -/
def coordinateSet (coordinate : Point → Float) (ps : List Point) : Set Float :=
  {x | ∃ q ∈ ps, q.isFinite ∧ coordinate q = x}

theorem mem_coordinateSet {coordinate : Point → Float} {ps : List Point} {x : Float} :
    x ∈ coordinateSet coordinate ps ↔ ∃ q ∈ ps, q.isFinite ∧ coordinate q = x := Iff.rfl

namespace Bounds

/-- Whether extents are the least and the greatest coordinates of the finite ones among
    some points. -/
structure IsHull (b : Bounds) (ps : List Point) : Prop where
  minX : IsLeast (coordinateSet Point.x ps) b.minX
  maxX : IsGreatest (coordinateSet Point.x ps) b.maxX
  minY : IsLeast (coordinateSet Point.y ps) b.minY
  maxY : IsGreatest (coordinateSet Point.y ps) b.maxY

/-! ## One more value -/

section extremes

variable {s : Set Float} {a b : Float}

theorem isLeast_lower (hs : ∀ x ∈ s, x.isFinite) (h : IsLeast s a) (hb : b.isFinite) :
    IsLeast (insert b s) (lower a b) := by
  have ha := hs a h.1
  rw [lower]
  split
  · next hlt =>
    refine ⟨Set.mem_insert_of_mem _ h.1, ?_⟩
    rintro x (rfl | hx)
    · exact le_of_lt_of_isFinite ha hb hlt
    · exact h.2 hx
  · next hlt =>
    refine ⟨Set.mem_insert _ _, ?_⟩
    rintro x (rfl | hx)
    · exact self_le hb
    · exact le_trans_of_isFinite hb ha (hs x hx) ((not_lt_iff ha hb).1 hlt) (h.2 hx)

theorem isGreatest_upper (hs : ∀ x ∈ s, x.isFinite) (h : IsGreatest s a) (hb : b.isFinite) :
    IsGreatest (insert b s) (upper a b) := by
  have ha := hs a h.1
  rw [upper]
  split
  · next hlt =>
    refine ⟨Set.mem_insert_of_mem _ h.1, ?_⟩
    rintro x (rfl | hx)
    · exact le_of_lt_of_isFinite hb ha hlt
    · exact h.2 hx
  · next hlt =>
    refine ⟨Set.mem_insert _ _, ?_⟩
    rintro x (rfl | hx)
    · exact self_le hb
    · exact le_trans_of_isFinite (hs x hx) ha hb (h.2 hx) ((not_lt_iff hb ha).1 hlt)

/-- A bound that is an infinity on the wrong side gives way to any finite value. -/
theorem lower_infinity (hb : b.isFinite) : lower (1 / 0) b = b := by
  have hinf : ¬ (1 / 0 : Float) < b := by
    rw [lt_iff_compare]
    intro h
    have := (compare_infinity (regular_of_isFinite hb)).1.symm.trans h
    cases this
  rw [lower, if_neg hinf]

theorem upper_infinity (hb : b.isFinite) : upper (-1 / 0) b = b := by
  have hinf : ¬ b < (-1 / 0 : Float) := by
    rw [lt_iff_compare]
    intro h
    have := (compare_infinity (regular_of_isFinite hb)).2.2.2.symm.trans h
    cases this
  rw [upper, if_neg hinf]

end extremes

/-! ## One more point -/

section points

variable {ps : List Point} {q : Point} {b : Bounds}

theorem isFinite_of_mem_x {x : Float} (hx : x ∈ coordinateSet Point.x ps) :
    x.isFinite := by
  obtain ⟨q, -, hq, rfl⟩ := hx
  exact (Bool.and_eq_true_iff.1 hq).1

theorem isFinite_of_mem_y {x : Float} (hx : x ∈ coordinateSet Point.y ps) :
    x.isFinite := by
  obtain ⟨q, -, hq, rfl⟩ := hx
  exact (Bool.and_eq_true_iff.1 hq).2

theorem coordinateSet_append_of_isFinite (hq : q.isFinite) (coordinate : Point → Float) :
    coordinateSet coordinate (ps ++ [q]) = insert (coordinate q) (coordinateSet coordinate ps) := by
  ext x
  rw [Set.mem_insert_iff, mem_coordinateSet, mem_coordinateSet]
  simp only [List.mem_append, List.mem_singleton]
  constructor
  · rintro ⟨p, hp | rfl, hp', rfl⟩
    exacts [.inr ⟨p, hp, hp', rfl⟩, .inl rfl]
  · rintro (rfl | ⟨p, hp, hp', rfl⟩)
    exacts [⟨q, .inr rfl, hq, rfl⟩, ⟨p, .inl hp, hp', rfl⟩]

theorem coordinateSet_append_of_not_isFinite (hq : ¬ q.isFinite) (coordinate : Point → Float) :
    coordinateSet coordinate (ps ++ [q]) = coordinateSet coordinate ps := by
  ext x
  rw [mem_coordinateSet, mem_coordinateSet]
  simp only [List.mem_append, List.mem_singleton]
  constructor
  · rintro ⟨p, hp | rfl, hp', rfl⟩
    exacts [⟨p, hp, hp', rfl⟩, absurd hp' hq]
  · rintro ⟨p, hp, hp', rfl⟩
    exact ⟨p, .inl hp, hp', rfl⟩

/-- The hull of some points is extended to the hull of one more. -/
theorem IsHull.extend (h : b.IsHull ps) (q : Point) : (b.extend q).IsHull (ps ++ [q]) := by
  rw [Bounds.extend]
  split
  · next hq =>
    obtain ⟨hx, hy⟩ := Bool.and_eq_true_iff.1 hq
    constructor <;> rw [coordinateSet_append_of_isFinite hq]
    · exact isLeast_lower (fun _ => isFinite_of_mem_x) h.minX hx
    · exact isGreatest_upper (fun _ => isFinite_of_mem_x) h.maxX hx
    · exact isLeast_lower (fun _ => isFinite_of_mem_y) h.minY hy
    · exact isGreatest_upper (fun _ => isFinite_of_mem_y) h.maxY hy
  · next hq =>
    constructor <;> rw [coordinateSet_append_of_not_isFinite hq]
    exacts [h.minX, h.maxX, h.minY, h.maxY]

theorem coordinateSet_eq_empty (hps : ∀ q ∈ ps, ¬ q.isFinite) (coordinate : Point → Float) :
    coordinateSet coordinate ps = ∅ :=
  Set.eq_empty_of_forall_notMem fun _ ⟨q, hq, hfinite, _⟩ => hps q hq hfinite

/-- The first finite point is its own hull. -/
theorem isHull_extend_empty (hps : ∀ q ∈ ps, ¬ q.isFinite) (hq : q.isFinite) :
    (empty.extend q).IsHull (ps ++ [q]) := by
  obtain ⟨hx, hy⟩ := Bool.and_eq_true_iff.1 hq
  have hleast {x : Float} (hx : x.isFinite) : IsLeast (insert x ∅) x := by
    refine ⟨Set.mem_insert x _, ?_⟩
    rintro _ (rfl | h)
    exacts [self_le hx, h.elim]
  have hgreatest {x : Float} (hx : x.isFinite) : IsGreatest (insert x ∅) x := by
    refine ⟨Set.mem_insert x _, ?_⟩
    rintro _ (rfl | h)
    exacts [self_le hx, h.elim]
  rw [Bounds.extend, if_pos hq]
  constructor <;> rw [coordinateSet_append_of_isFinite hq, coordinateSet_eq_empty hps]
  · exact (lower_infinity hx).symm ▸ hleast hx
  · exact (upper_infinity hx).symm ▸ hgreatest hx
  · exact (lower_infinity hy).symm ▸ hleast hy
  · exact (upper_infinity hy).symm ▸ hgreatest hy

/-- The extents of some points are their hull, unless none of them is finite. -/
theorem ofPoints_cases (ps : List Point) :
    (∀ q ∈ ps, ¬ q.isFinite) ∧ ofPoints ps = empty ∨ (ofPoints ps).IsHull ps := by
  induction ps using List.reverseRecOn with
  | nil => exact .inl ⟨fun _ hq => absurd hq List.not_mem_nil, rfl⟩
  | append_singleton ps q ih =>
    rw [show ofPoints (ps ++ [q]) = (ofPoints ps).extend q from List.foldl_concat ..]
    -- As long as no point is finite, the extents are the infinities that the first one replaces.
    rcases ih with ⟨hps, heq⟩ | hhull
    · by_cases hq : q.isFinite
      · exact .inr (heq ▸ isHull_extend_empty hps hq)
      · refine .inl ⟨?_, ?_⟩
        · rintro p hp
          rcases List.mem_append.1 hp with hp | hp
          exacts [hps p hp, List.mem_singleton.1 hp ▸ hq]
        · rw [Bounds.extend, if_neg hq, heq]
    · exact .inr (hhull.extend q)

end points

/-! ## The box -/

section box

variable {ps : List Point} {b : Bounds} {padding : Float}

theorem IsHull.isFinite (h : b.IsHull ps) :
    b.minX.isFinite ∧ b.maxX.isFinite ∧ b.minY.isFinite ∧ b.maxY.isFinite :=
  ⟨isFinite_of_mem_x h.minX.1, isFinite_of_mem_x h.maxX.1,
    isFinite_of_mem_y h.minY.1, isFinite_of_mem_y h.maxY.1⟩

theorem IsHull.valid (h : b.IsHull ps) : b.valid := by
  obtain ⟨hminX, hmaxX, hminY, hmaxY⟩ := h.isFinite
  have hx : b.minX ≤ b.maxX := h.minX.2 h.maxX.1
  have hy : b.minY ≤ b.maxY := h.minY.2 h.maxY.1
  simp only [Bounds.valid, hminX, hmaxX, hminY, hmaxY, hx, hy, decide_true, Bool.and_self]

/-- The padded hull contains all finite points. -/
theorem IsHull.contains (h : b.IsHull ps) (hfinite : padding.isFinite) (hpadding : 0 ≤ padding)
    {q : Point} (hq : q ∈ ps) (hqfinite : q.isFinite) : (b.box.padded padding).contains q := by
  obtain ⟨hminX, hmaxX, hminY, hmaxY⟩ := h.isFinite
  obtain ⟨hx, hy⟩ := Bool.and_eq_true_iff.1 hqfinite
  have hpos : 0 ≤ value padding := (le_iff rfl hfinite).1 hpadding
  -- Rounding never gets past a double, so a rounded edge is still on its side of each point.
  have hlow {a x : Float} (ha : a.isFinite) (hx : x.isFinite) (hax : a ≤ x) : a - padding ≤ x :=
    (rounds_sub ha hfinite).le x hx (by linarith [(le_iff ha hx).1 hax])
  have hhigh {a x : Float} (ha : a.isFinite) (hx : x.isFinite) (hxa : x ≤ a) : x ≤ a + padding :=
    (rounds_add ha hfinite).ge x hx (by linarith [(le_iff hx ha).1 hxa])
  exact Box.contains_iff.2
    ⟨⟨hlow hminX hx (h.minX.2 ⟨q, hq, hqfinite, rfl⟩),
      hhigh hmaxX hx (h.maxX.2 ⟨q, hq, hqfinite, rfl⟩)⟩,
    hlow hminY hy (h.minY.2 ⟨q, hq, hqfinite, rfl⟩),
    hhigh hmaxY hy (h.maxY.2 ⟨q, hq, hqfinite, rfl⟩)⟩

/-- The box is the padded hull, unless that is too large. -/
theorem IsHull.fit (h : b.IsHull ps) (padding : Float) :
    b.fit padding = if tooLarge (b.box.padded padding) then fallback else b.box.padded padding := by
  rw [Bounds.fit, Bounds.overflows, h.valid]
  cases tooLarge (b.box.padded padding) <;> rfl

end box

end Bounds

/-- The box of a viewport is the hull of the finite points of a program, grown by the
    padding, and contains them all. If there is no finite point, or if the grown hull has no
    finite width or height, the box is the fixed one. -/
theorem fit_isHull (p : Program) {padding : Float} (hfinite : padding.isFinite)
    (hpadding : 0 ≤ padding) :
    ((Viewport.fit p padding).bounds = Bounds.fallback ∧
      ((∀ q ∈ p.points, ¬ q.isFinite) ∨
        ∃ b : Bounds, b.IsHull p.points ∧
          (¬ (b.box.padded padding).width.isFinite ∨ ¬ (b.box.padded padding).height.isFinite))) ∨
    ∃ b : Bounds, b.IsHull p.points ∧
      (Viewport.fit p padding).bounds =
        ⟨b.minX - padding, b.minY - padding, b.maxX + padding, b.maxY + padding⟩ ∧
      ∀ q ∈ p.points, q.isFinite → (Viewport.fit p padding).bounds.contains q := by
  rcases Bounds.ofPoints_cases p.points with ⟨hnone, hempty⟩ | hhull
  · refine .inl ⟨?_, .inl hnone⟩
    rw [Viewport.fit, hempty]
    rfl
  · have hfit : (Viewport.fit p padding).bounds = _ := hhull.fit padding
    by_cases hlarge : Bounds.tooLarge ((Bounds.ofPoints p.points).box.padded padding)
    · rw [if_pos hlarge] at hfit
      refine .inl ⟨hfit, .inr ⟨_, hhull, ?_⟩⟩
      rwa [Bounds.tooLarge, Bool.not_eq_true', Bool.and_eq_false_iff, ← Bool.not_eq_true,
        ← Bool.not_eq_true] at hlarge
    · rw [if_neg hlarge] at hfit
      exact .inr ⟨_, hhull, hfit, fun q hq hqfinite =>
        hfit ▸ hhull.contains hfinite hpadding hq hqfinite⟩

/-- The box around the points `(3, 2)` and `(1, 4)`, padded by one half, is their hull. -/
theorem fit_isHull_two :
    let p : Program :=
      ⟨[⟨⟨.line, some ⟨3, 2⟩, none, none, 1⟩, true⟩,
        ⟨⟨.ends, some ⟨1, 4⟩, none, none, 2⟩, true⟩], []⟩
    (Viewport.fit p 0.5).bounds = ⟨0.5, 1.5, 3.5, 4.5⟩ ∧ ∃ b : Bounds, b.IsHull p.points ∧
      (Viewport.fit p 0.5).bounds = ⟨b.minX - 0.5, b.minY - 0.5, b.maxX + 0.5, b.maxY + 0.5⟩ ∧
      ∀ q ∈ p.points, q.isFinite → (Viewport.fit p 0.5).bounds.contains q := by
  intro p
  rcases @fit_isHull p 0.5 (by decide) (by decide) with ⟨hfallback, -⟩ | hhull
  · exact absurd hfallback (by decide)
  · exact ⟨by decide, hhull⟩

end JetPlot
