/-
# FlightAttitude.Proofs.Attitude — the flight attitude of a rotation that was built from one

A rotation that is built from pitch, heading and roll gives them back (`Quaternion.attitude_built`).
The Euler angles of a product of three turns are the three angles, wrapped, as long as the middle one
is between the right angles (`Mat3.eulerAngles_turns`); pitch and roll undo the wrap, each with a
branch of its own (`EulerAngles.attitude_wrapUnsigned`). The two comparisons differ because the two
ranges are closed at different ends.
-/
import FlightAttitude.Proofs.Euler.Branches
import FlightAttitude.Proofs.Euler.Elementary

namespace FlightAttitude

universe u

open Angle (toRadians wrapUnsigned)

/-! ## §1 Undoing the wrap -/

section Branches

variable {K : Type u} [Field K] [LinearOrder K] [IsStrictOrderedRing K] [FloorRing K]

/-- The pitch turns against the z axis: what is above the horizon comes out just below one turn. -/
theorem pitch_wrapUnsigned {p : K} (hlo : -180 ≤ p) (hhi : p < 180) :
    (if 180 < wrapUnsigned (-p) then 360 - wrapUnsigned (-p) else -wrapUnsigned (-p)) = p := by
  rcases lt_or_ge 0 p with hp | hp
  · have hwrap : wrapUnsigned (-p) = 360 - p :=
      Angle.wrapUnsigned_eq_of_mem (by linarith) (by linarith) (-1) (by push_cast; ring)
    rw [hwrap, if_pos (by linarith), sub_sub_cancel]
  · have hwrap : wrapUnsigned (-p) = -p :=
      Angle.wrapUnsigned_eq_of_mem (by linarith) (by linarith) 0 (by simp)
    rw [hwrap, if_neg (by linarith), neg_neg]

/-- The roll turns against the y axis from three right angles: with the left wing straight down or
beyond, what it turns through is past one turn. -/
theorem roll_wrapUnsigned {r : K} (hlo : -180 < r) (hhi : r ≤ 180) :
    (if 90 ≤ wrapUnsigned (270 - r) then 270 - wrapUnsigned (270 - r)
      else -90 - wrapUnsigned (270 - r)) = r := by
  rcases lt_or_ge (-90) r with hr | hr
  · have hwrap : wrapUnsigned (270 - r) = 270 - r :=
      Angle.wrapUnsigned_eq_of_mem (by linarith) (by linarith) 0 (by simp)
    rw [hwrap, if_pos (by linarith), sub_sub_cancel]
  · have hwrap : wrapUnsigned (270 - r) = -90 - r :=
      Angle.wrapUnsigned_eq_of_mem (by linarith) (by linarith) 1 (by push_cast; ring)
    rw [hwrap, if_neg (by linarith), sub_sub_cancel]

/-- **Pitch and roll undo the wrap**, on their whole ranges. -/
theorem EulerAngles.attitude_wrapUnsigned {p r : K} (hp : -180 ≤ p ∧ p < 180)
    (hr : -180 < r ∧ r ≤ 180) (h : K) :
    (⟨wrapUnsigned (270 - r), wrapUnsigned (-p), h⟩ : EulerAngles K).attitude = ⟨p, h, r⟩ := by
  simp only [attitude, quarterTurn_eq, halfTurn_eq, threeQuarterTurn_eq, fullTurn_eq]
  rw [pitch_wrapUnsigned hp.1 hp.2, roll_wrapUnsigned hr.1 hr.2]

end Branches

/-! ## §2 The angles of three turns -/

namespace Mat3

/-- **The Euler angles of three turns are the angles of the turns, wrapped.** -/
theorem eulerAngles_turns {z : ℝ} (hz : -90 < z ∧ z < 90)
    (hfree : |Real.sin (toRadians z)| < 1 - gimbalLockTolerance) (x y : ℝ) :
    (aboutX x * aboutZ z * aboutY y).eulerAngles =
      ⟨wrapUnsigned y, wrapUnsigned z, wrapUnsigned x⟩ := by
  have hrot := turns_isRotation x z y
  have hcos := Angle.cos_toRadians_pos hz.1 hz.2
  have hentries := aboutX_mul_aboutZ_mul_aboutY x z y
  rw [hrot.eulerAngles_of_free (by rwa [hentries, abs_neg]), hentries]
  dsimp only
  rw [neg_neg, Angle.arcsin_sin_toRadians hz.1.le hz.2.le, Angle.toDegrees_toRadians,
    Angle.wrapUnsigned_arctan2 hcos, mul_comm (Real.sin (toRadians x)),
    mul_comm (Real.cos (toRadians x)), Angle.wrapUnsigned_arctan2 hcos]

end Mat3

/-! ## §3 The attitude that was built -/

namespace Quaternion

theorem toMatrix_built (x z y : ℝ) :
    (ofAxisAngle ⟨1, 0, 0⟩ x * (ofAxisAngle ⟨0, 0, 1⟩ z * ofAxisAngle ⟨0, 1, 0⟩ y)).toMatrix =
      Mat3.aboutX x * Mat3.aboutZ z * Mat3.aboutY y := by
  rw [toMatrix_mul, toMatrix_mul, toMatrix_ofAxisAngle_x, toMatrix_ofAxisAngle_z,
    toMatrix_ofAxisAngle_y, mul_assoc]

/-- **The flight attitude is read back as it was built**, on every branch boundary too. -/
theorem attitude_built {p h r : ℝ} (hp : -90 < p ∧ p < 90)
    (hfree : |Real.sin (toRadians p)| < 1 - gimbalLockTolerance)
    (hh : 0 ≤ h ∧ h < 360) (hr : -180 < r ∧ r ≤ 180) :
    (ofAxisAngle ⟨1, 0, 0⟩ h *
      (ofAxisAngle ⟨0, 0, 1⟩ (-p) * ofAxisAngle ⟨0, 1, 0⟩ (270 - r))).attitude = ⟨p, h, r⟩ := by
  have hneg : |Real.sin (toRadians (-p))| < 1 - gimbalLockTolerance := by
    rwa [Angle.toRadians_neg, Real.sin_neg, abs_neg]
  have hheading : wrapUnsigned h = h := Angle.wrapUnsigned_eq_of_mem hh.1 hh.2 0 (by simp)
  rw [attitude, eulerAngles, toMatrix_built,
    Mat3.eulerAngles_turns ⟨by linarith, by linarith⟩ hneg, hheading]
  exact EulerAngles.attitude_wrapUnsigned ⟨by linarith, by linarith⟩ hr h

/-- Nose up by thirty degrees, left wing straight down: the roll is on its boundary. -/
theorem attitude_built_left_wing_down :
    |Real.sin (toRadians 30)| < 1 - gimbalLockTolerance ∧
    (ofAxisAngle (⟨1, 0, 0⟩ : Vec3 ℝ) 0 *
      (ofAxisAngle ⟨0, 0, 1⟩ (-30) * ofAxisAngle ⟨0, 1, 0⟩ (270 - -90))).attitude
        = ⟨30, 0, -90⟩ := by
  have hsin : Real.sin (toRadians 30) = 1 / 2 := by
    rw [Angle.toRadians_eq, ← Real.sin_pi_div_six]
    ring_nf
  have hfree : |Real.sin (toRadians 30)| < 1 - gimbalLockTolerance := by
    rw [hsin, gimbalLockTolerance_eq]
    norm_num
  exact ⟨hfree, attitude_built (by norm_num) hfree (by norm_num) (by norm_num)⟩

end Quaternion

end FlightAttitude
