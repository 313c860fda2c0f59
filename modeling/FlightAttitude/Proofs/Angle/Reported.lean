/-
# FlightAttitude.Proofs.Angle.Reported — angles that are rounded and wrapped again

Rounding moves an angle by at most half a step of its grid, and so it may carry the angle onto the open
end of its range, or past it. The wrap brings it back by whole turns. Both wraps are used in the same
way, so what is needed of them is said once: `Wraps range wrap` chooses, among the angles that differ by
whole turns, the one in `range`.

From tens on, a whole turn is a number of the grid. Then the wrap stays on the grid, and a reported angle
is reported as itself (`Wraps.reported`). Hundreds are too coarse for that: a heading of 351 is rounded to
400 and reported as 40, which is no multiple of a hundred and is reported as 0.
-/
import FlightAttitude.Proofs.Angle.Circle
import FlightAttitude.Proofs.Angle.Rounding

namespace FlightAttitude

universe u

namespace Angle

section Wraps

variable {K : Type u} [Field K] [LinearOrder K] [FloorRing K]

/-! ## §1 Wraps -/

/-- **`Wraps range wrap`** — `wrap` answers the angle in `range` that lies whole turns away. -/
structure Wraps (range : Set K) (wrap : K → K) : Prop where
  mem (a : K) : wrap a ∈ range
  turns (a : K) : ∃ k : ℤ, a = wrap a + k * 360
  fixes {a : K} (h : a ∈ range) : wrap a = a

/-- From tens on, whole turns are numbers of the grid, since a right angle is one. -/
theorem turns_mul_pow {n : ℤ} (hn : -1 ≤ n) (k : ℤ) :
    (k * 360 : K) * 10 ^ n = (k * 4 * (9 * 10 ^ (n + 1).toNat) : ℤ) := by
  rw [Int.cast_mul, ← right_angle_mul_pow hn]
  push_cast
  ring

/-- A wrap does not leave the grid. -/
theorem Wraps.exists_mul_pow {range : Set K} {wrap : K → K} (w : Wraps range wrap) {n : ℤ}
    (hn : -1 ≤ n) {a : K} {m : ℤ} (h : a * 10 ^ n = m) : ∃ j : ℤ, wrap a * 10 ^ n = j := by
  obtain ⟨k, hk⟩ := w.turns a
  refine ⟨m - k * 4 * (9 * 10 ^ (n + 1).toNat), ?_⟩
  rw [Int.cast_sub, ← turns_mul_pow hn, ← h, ← sub_mul, eq_sub_of_add_eq hk.symm]

end Wraps

variable {K : Type u} [Field K] [LinearOrder K] [IsStrictOrderedRing K] [FloorRing K]

theorem wraps_wrapUnsigned : Wraps (Set.Ico (0 : K) 360) wrapUnsigned where
  mem := wrapUnsigned_mem
  turns := exists_wrapUnsigned_eq
  fixes h := wrapUnsigned_eq_of_mem h.1 h.2 0 (by simp)

theorem wraps_wrapSigned : Wraps (Set.Ioc (-180 : K) 180) wrapSigned where
  mem := wrapSigned_mem
  turns := exists_wrapSigned_eq
  fixes h := wrapSigned_eq_of_mem h.1 h.2 0 (by simp)

variable {range : Set K} {wrap : K → K}

/-! ## §2 Reported angles -/

/-- **`Reported n range wrap x y`** — `y` is how the angle `x` is reported to `n` places. -/
structure Reported (n : ℤ) (range : Set K) (wrap : K → K) (x y : K) : Prop where
  /-- The nearest number of the grid, a half to the even one, and then wrapped. -/
  value : y = wrap (nearestEven (x * 10 ^ n) / (10 : K) ^ n)
  range : y ∈ range
  /-- Up to whole turns the error is that of rounding. -/
  near : ∃ k : ℤ, |y - x - k * 360| ≤ 1 / 2 * 10 ^ (-n)
  grid : -1 ≤ n → ∃ m : ℤ, y = m * 10 ^ (-n)
  again : -1 ≤ n → wrap (roundPlaces n y) = y

/-- **Rounding and wrapping reports an angle**, whichever wrap it is. -/
theorem Wraps.reported (w : Wraps range wrap) (n : ℤ) (x : K) :
    Reported n range wrap x (wrap (roundPlaces n x)) := by
  have onGrid (hn : -1 ≤ n) : ∃ m : ℤ, wrap (roundPlaces n x) * 10 ^ n = m := by
    obtain ⟨m, hm⟩ := exists_roundPlaces_mul_pow n x
    exact w.exists_mul_pow hn hm
  refine ⟨by rw [roundPlaces_eq], w.mem _, ?_, fun hn => ?_, fun hn => ?_⟩
  · obtain ⟨k, hk⟩ := w.turns (roundPlaces n x)
    have herror : wrap (roundPlaces n x) - x - (-k : ℤ) * 360 = roundPlaces n x - x := by
      conv_rhs => rw [hk]
      push_cast
      ring
    exact ⟨-k, herror ▸ abs_roundPlaces_sub_le n x⟩
  · obtain ⟨m, hm⟩ := onGrid hn
    refine ⟨m, ?_⟩
    rw [← hm, zpow_neg, mul_inv_cancel_right₀ (pow_ten_pos n).ne']
  · obtain ⟨m, hm⟩ := onGrid hn
    rw [roundPlaces_of_grid hm, w.fixes (w.mem _)]

end Angle

end FlightAttitude
