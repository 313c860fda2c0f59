/-
# FlightAttitude.Proofs.Euler.Ranges — where the angles lie

The Euler angles of every matrix lie in one turn, and the middle one never points backwards: it is
within a right angle of zero before it is wrapped (`Mat3.eulerRadians_aboutZ_mem`), whatever the clip
had to do. Ranges of Euler angles carry over to the flight attitude (`EulerAngles.InRange.attitude`),
where every end is closed or open as it should be. So no quaternion has angles out of range, not even
one that is not of length one, or is zero (`angles_inRange`).
-/
import FlightAttitude.Proofs.Angle.Circle
import FlightAttitude.Proofs.Stack.Attitudes

namespace FlightAttitude

open Angle (toDegrees wrapUnsigned)

/-! ## §1 The ranges -/

/-- **`EulerAngles.InRange e`** — each angle is in one turn, the middle one in its front half. -/
structure EulerAngles.InRange (e : EulerAngles ℝ) : Prop where
  aboutY : 0 ≤ e.aboutY ∧ e.aboutY < 360
  aboutZ : (0 ≤ e.aboutZ ∧ e.aboutZ ≤ 90) ∨ (270 ≤ e.aboutZ ∧ e.aboutZ < 360)
  aboutX : 0 ≤ e.aboutX ∧ e.aboutX < 360

/-- **`Attitude.InRange a`** — each angle is in the range that is usual for it. -/
structure Attitude.InRange (a : Attitude ℝ) : Prop where
  pitch : -90 ≤ a.pitch ∧ a.pitch ≤ 90
  heading : 0 ≤ a.heading ∧ a.heading < 360
  roll : -180 < a.roll ∧ a.roll ≤ 180

/-! ## §2 Euler angles -/

/-- What is within a right angle of zero is wrapped to the front half of the turn. -/
theorem Angle.wrapUnsigned_mem_front {a : ℝ} (hlo : -90 ≤ a) (hhi : a ≤ 90) :
    (0 ≤ wrapUnsigned a ∧ wrapUnsigned a ≤ 90) ∨
      (270 ≤ wrapUnsigned a ∧ wrapUnsigned a < 360) := by
  rcases lt_or_ge a 0 with h | h
  · have hwrap : wrapUnsigned a = a + 360 :=
      wrapUnsigned_eq_of_mem (by linarith) (by linarith) (-1) (by push_cast; ring)
    rw [hwrap]
    exact Or.inr ⟨by linarith, by linarith⟩
  · have hwrap : wrapUnsigned a = a := wrapUnsigned_eq_of_mem h (by linarith) 0 (by simp)
    rw [hwrap]
    exact Or.inl ⟨h, hhi⟩

theorem Angle.toDegrees_mem_right_angle {x : ℝ} (hlo : -(Real.pi / 2) ≤ x) (hhi : x ≤ Real.pi / 2) :
    -90 ≤ toDegrees x ∧ toDegrees x ≤ 90 := by
  have hpi := Real.pi_pos
  rw [toDegrees_eq, mul_div_assoc', le_div_iff₀ hpi, div_le_iff₀ hpi]
  constructor <;> linarith

namespace Mat3

/-- The middle angle is a right angle or an arcsine, so the entry it is read from does not matter. -/
theorem eulerRadians_aboutZ_mem (m : Mat3 ℝ) :
    -(Real.pi / 2) ≤ m.eulerRadians.aboutZ ∧ m.eulerRadians.aboutZ ≤ Real.pi / 2 := by
  have hpi := Real.pi_pos
  -- locked with either sign, or free
  simp only [eulerRadians, pi_eq, two_eq, arcsin_eq]
  split_ifs with hlocked hneg
  · constructor <;> linarith
  · constructor <;> linarith
  · exact ⟨Real.neg_pi_div_two_le_arcsin _, Real.arcsin_le_pi_div_two _⟩

/-- **The Euler angles of any matrix are in range.** -/
theorem eulerAngles_inRange (m : Mat3 ℝ) : m.eulerAngles.InRange where
  aboutY := Angle.wrapUnsigned_mem _
  aboutZ := by
    obtain ⟨hlo, hhi⟩ := m.eulerRadians_aboutZ_mem
    obtain ⟨hlo, hhi⟩ := Angle.toDegrees_mem_right_angle hlo hhi
    exact Angle.wrapUnsigned_mem_front hlo hhi
  aboutX := Angle.wrapUnsigned_mem _

end Mat3

/-! ## §3 The flight attitude -/

/-- **Euler angles in range make a flight attitude in range.** -/
theorem EulerAngles.InRange.attitude {e : EulerAngles ℝ} (h : e.InRange) :
    e.attitude.InRange where
  pitch := by
    -- nothing lies between the two ranges, so the strict comparison picks the range
    simp only [EulerAngles.attitude, halfTurn_eq, fullTurn_eq]
    rcases h.aboutZ with ⟨hlo, hhi⟩ | ⟨hlo, hhi⟩
    · rw [if_neg (by linarith)]
      constructor <;> linarith
    · rw [if_pos (by linarith)]
      constructor <;> linarith
  heading := h.aboutX
  roll := by
    -- the branch changes at a quarter turn, which is the closed upper end
    obtain ⟨hlo, hhi⟩ := h.aboutY
    simp only [EulerAngles.attitude, quarterTurn_eq, threeQuarterTurn_eq]
    split_ifs with hquarter
    · constructor <;> linarith
    · constructor <;> linarith

theorem Quaternion.attitude_inRange (q : Quaternion ℝ) : q.attitude.InRange :=
  (q.toMatrix.eulerAngles_inRange).attitude

/-- **No quaternion has angles out of range**, of whatever length it is. -/
theorem angles_inRange (q : Quaternion ℝ) :
    (Stack.eulerAngles (.order .yzx) q.toGrid = .ok q.eulerAngles.toVec3.toGrid ∧
      q.eulerAngles.InRange) ∧
    (Stack.attitudes q.toGrid = .ok (Stack.attitudeParts (.scalar q.attitude)) ∧
      q.attitude.InRange) :=
  ⟨⟨Stack.eulerAngles_toGrid q, q.toMatrix.eulerAngles_inRange⟩,
    ⟨Stack.attitudes_toGrid q, q.attitude_inRange⟩⟩

end FlightAttitude
