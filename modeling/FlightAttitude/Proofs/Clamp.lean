/-
# FlightAttitude.Proofs.Clamp — clamping in a linear order

Between bounds in order `clamp` is the greater of the lower bound and the lesser of the upper bound and
the value (`clamp_eq_max_min`). So it keeps the order of its values, and takes the greater of two values
to the greater of what it makes of them; a second clamp can therefore be moved inside the first, onto its
bounds (`clamp_clamp`). Two clamps in a row are one clamp, into a range that need not lie in the first:
where the two ranges have nothing in common it is a single point.

The bounds have to be in order. Between crossed bounds the lower bound comes out first, and a second
clamp takes it to the upper one (`clamp_idempotent_iff`).
-/
import Mathlib.Order.Interval.Set.Defs
import Mathlib.Order.MinMax
import FlightAttitude.Clamp
import FlightAttitude.Datum

namespace FlightAttitude

universe u v w

variable {α : Type u} [LinearOrder α] {a b c d : α}

/-! ## §1 The range -/

theorem clamp_eq_max_min (hab : a ≤ b) (x : α) : clamp x a b = max a (min b x) := by
  unfold clamp
  split_ifs with below above
  · rw [max_eq_left ((min_le_right b x).trans below.le)]
  · rw [min_eq_left above.le, max_eq_right hab]
  · rw [min_eq_right (not_lt.mp above), max_eq_right (not_lt.mp below)]

theorem clamp_mem (hab : a ≤ b) (x : α) : clamp x a b ∈ Set.Icc a b := by
  rw [clamp_eq_max_min hab]
  exact ⟨le_max_left _ _, max_le hab (min_le_left _ _)⟩

theorem clamp_of_mem {x : α} (hx : x ∈ Set.Icc a b) : clamp x a b = x := by
  rw [clamp, if_neg (not_lt.mpr hx.1), if_neg (not_lt.mpr hx.2)]

/-- **The values of the range are left alone**, and no others. -/
theorem clamp_eq_self_iff (hab : a ≤ b) (x : α) : clamp x a b = x ↔ x ∈ Set.Icc a b := by
  constructor
  · intro same
    rw [← same]
    exact clamp_mem hab x
  · exact clamp_of_mem

theorem clamp_monotone (hab : a ≤ b) : Monotone (clamp · a b) := by
  intro x y hxy
  simp only [clamp_eq_max_min hab]
  exact max_le_max_left a (min_le_min_left b hxy)

/-! ## §2 Two clamps in a row -/

/-- Between bounds that lie in a range, a clamp into that range makes no difference. -/
theorem max_min_clamp (ha : a ∈ Set.Icc c d) (hb : b ∈ Set.Icc c d) (x : α) :
    max a (min b (clamp x c d)) = max a (min b x) := by
  rw [clamp_eq_max_min (ha.1.trans ha.2)]
  calc max a (min b (max c (min d x)))
      = max a (max (min b c) (min b (min d x))) := by rw [min_max_distrib_left]
    _ = max a (max c (min b x)) := by rw [min_eq_right hb.1, ← min_assoc, min_eq_left hb.2]
    _ = max a (min b x) := by rw [← max_assoc, max_eq_left ha.1]

/-- **Two clamps in a row are one**, between the bounds of the first clamped by the second. -/
theorem clamp_clamp (hab : a ≤ b) (hcd : c ≤ d) (x : α) :
    clamp (clamp x a b) c d = clamp x (clamp a c d) (clamp b c d) := by
  have bounds : clamp a c d ≤ clamp b c d := clamp_monotone hcd hab
  calc clamp (clamp x a b) c d
      = clamp (max a (min b x)) c d := by rw [clamp_eq_max_min hab]
    _ = max (clamp a c d) (min (clamp b c d) (clamp x c d)) := by
        rw [(clamp_monotone hcd).map_max, (clamp_monotone hcd).map_min]
    _ = max (clamp a c d) (min (clamp b c d) x) :=
        max_min_clamp (clamp_mem hcd a) (clamp_mem hcd b) x
    _ = clamp x (clamp a c d) (clamp b c d) := (clamp_eq_max_min bounds x).symm

/-- A second clamp changes nothing exactly between bounds that are in order. -/
theorem clamp_idempotent_iff : (∀ x, clamp (clamp x a b) a b = clamp x a b) ↔ a ≤ b := by
  constructor
  · intro same
    by_contra crossed
    have first : clamp b a b = a := if_pos (not_le.mp crossed)
    have second : clamp a a b = b := by
      rw [clamp, if_neg (lt_irrefl a), if_pos (not_le.mp crossed)]
    have twice := same b
    rw [first, second] at twice
    exact crossed twice.ge
  · intro hab x
    exact clamp_of_mem (clamp_mem hab x)

/-! ## §3 Values of an open kind -/

/-- Among values of an open kind, those of an ordered kind are clamped as they are in that kind. -/
theorem clampBy_of_order {β : Type v} {ε : Type w} {less : β → β → Except ε Bool} {f : α → β}
    (order : ∀ x y, less (f x) (f y) = .ok (decide (x < y))) (x a b : α) :
    clampBy less (f x) (f a) (f b) = .ok (f (clamp x a b)) := by
  unfold clampBy clamp
  rw [order, order]
  by_cases below : x < a <;> by_cases above : b < x <;> simp [below, above]

theorem Datum.less_integers (i j : Int) :
    Datum.less (.integer i) (.integer j) = .ok (decide (i < j)) := by
  simp [less, size?, Size.less, Size.compareFinite]

/-! ## §4 The laws -/

/-- **Clamping between bounds in order.** A second clamp can be moved onto the bounds, which are then in
order again. So a clamp into the same range changes nothing more; the order of the values is kept, and
those of the range are the ones that are left alone. All of this holds of values of an open kind too,
where they are compared as those of a linear order. -/
theorem clamp_contract (hab : a ≤ b) (hcd : c ≤ d) :
    (∀ x, clamp (clamp x a b) c d = clamp x (clamp a c d) (clamp b c d)) ∧
    clamp a c d ≤ clamp b c d ∧
    (∀ x, clamp (clamp x a b) a b = clamp x a b) ∧
    Monotone (clamp · a b) ∧
    (∀ x, clamp x a b = x ↔ x ∈ Set.Icc a b) ∧
    ∀ {β : Type v} {ε : Type w} (less : β → β → Except ε Bool) (f : α → β),
      (∀ x y, less (f x) (f y) = .ok (decide (x < y))) →
        ∀ x, clampBy less (f x) (f a) (f b) = .ok (f (clamp x a b)) :=
  ⟨clamp_clamp hab hcd, clamp_monotone hcd hab, clamp_idempotent_iff.mpr hab, clamp_monotone hab,
    clamp_eq_self_iff hab, fun _ _ order x => clampBy_of_order order x a b⟩

/-- Two ranges with nothing in common: the second clamp goes to the end that is nearer to the first. -/
theorem clamp_contract_apart :
    clamp (clamp (8 : ℤ) 0 5) 7 9 = clamp 8 (clamp 0 7 9) (clamp 5 7 9) ∧
    clamp (8 : ℤ) (clamp 0 7 9) (clamp 5 7 9) = 7 ∧
    clampBy Datum.less (.integer 8) (.integer 0) (.integer 5) = .ok (.integer 5) := by
  obtain ⟨twice, -, -, -, -, among⟩ :=
    clamp_contract (a := (0 : ℤ)) (b := 5) (c := 7) (d := 9) (by decide) (by decide)
  exact ⟨twice 8, by decide, among Datum.less .integer Datum.less_integers 8⟩

end FlightAttitude
