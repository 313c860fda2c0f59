/-
# FlightAttitude.Proofs.Converter.Rounding — the range of the rounded pitch

A converter wraps heading and roll back into their ranges after rounding, and rounds the pitch without
wrapping it. Both ends of the range of the pitch are closed, and rounding to fractions, to whole degrees
or to tens keeps them; rounding to thousands or more gives zero. Rounding to hundreds does not keep
them: a pitch beyond fifty degrees comes out as a hundred (`rounded_pitch`, `rounded_pitch_overshoots`).
-/
import FlightAttitude.Proofs.Angle.Rounding
import FlightAttitude.Proofs.Converter.Single
import FlightAttitude.Proofs.Euler.Branches
import FlightAttitude.Proofs.Euler.Ranges
import FlightAttitude.Proofs.Quaternion.Algebra

namespace FlightAttitude

open Angle (roundPlaces)

theorem Quaternion.abs_attitude_pitch_le (q : Quaternion ℝ) : |q.attitude.pitch| ≤ 90 :=
  abs_le.mpr q.attitude_inRange.pitch

namespace Converter

variable {c : Converter ℝ} {t : ℝ} {n : ℤ} {q : Quaternion ℝ}

/-! ## §1 What is answered -/

/-- Both ways of asking for the pitch give the rounded one. -/
theorem pitch_of_unit (ht : 0 ≤ t) (htol : c.tolerance = .ok (.scalar (Stack.upTo t)))
    (hplaces : c.places = .ok (some n)) (hq : q.norm = 1) :
    c.convert (.pitches q.toGrid) =
      ⟨[], .ok (.array (.scalar (roundPlaces n q.attitude.pitch)))⟩ ∧
    ∃ a, c.convert (.attitudes q.toGrid) = ⟨[], .ok (.attitudes a)⟩ ∧
      a.pitch = .scalar (roundPlaces n q.attitude.pitch) := by
  have answer := attitudes_of_prepare (prepare_toGrid_of_unit ht htol hq) hplaces
  refine ⟨?_, Stack.attitudeParts (.scalar (q.attitude.rounded (some n))), ?_, rfl⟩
  · show (fun a => Converted.array a.pitch) <$> c.attitudes q.toGrid = _
    rw [answer]
    rfl
  · show Converted.attitudes <$> c.attitudes q.toGrid = _
    rw [answer]
    rfl

/-! ## §2 Where it lies -/

/-- **The rounded pitch** is in the range of the pitch, to whatever places it is rounded, except to
hundreds and beyond fifty degrees; there it is a hundred. -/
theorem rounded_pitch (ht : 0 ≤ t) (htol : c.tolerance = .ok (.scalar (Stack.upTo t)))
    (hplaces : c.places = .ok (some n)) (hq : q.norm = 1) :
    ∃ p, c.convert (.pitches q.toGrid) = ⟨[], .ok (.array (.scalar p))⟩ ∧
      (∃ a, c.convert (.attitudes q.toGrid) = ⟨[], .ok (.attitudes a)⟩ ∧ a.pitch = .scalar p) ∧
      p = nearestEven (q.attitude.pitch * 10 ^ n) / (10 : ℝ) ^ n ∧
      (n ≠ -2 ∨ |q.attitude.pitch| ≤ 50 → -90 ≤ p ∧ p ≤ 90) ∧
      (n = -2 ∧ 50 < |q.attitude.pitch| → |p| = 100) := by
  obtain ⟨alone, together⟩ := pitch_of_unit ht htol hplaces hq
  have hpitch := q.abs_attitude_pitch_le
  refine ⟨_, alone, together, Angle.roundPlaces_eq n _, Angle.roundPlaces_mem hpitch, ?_⟩
  rintro ⟨rfl, hsteep⟩
  exact Angle.abs_roundPlaces_hundreds hsteep hpitch

end Converter

/-! ## §3 A nose that points straight up -/

/-- **`noseUp`** — pitched up by a right angle. -/
noncomputable def Quaternion.noseUp : Quaternion ℝ :=
  ⟨1 / two, 1 / two, -(1 / two), 1 / two⟩

theorem Quaternion.norm_noseUp : noseUp.norm = 1 := by
  rw [norm_eq_one_iff, normSq_eq, noseUp, two_eq]
  norm_num

theorem Quaternion.attitude_noseUp_pitch : noseUp.attitude.pitch = 90 := by
  have hxy : noseUp.toMatrix.xy = 1 := by
    rw [toMatrix_eq, noseUp, two_eq]
    norm_num
  have hlocked : 1 - gimbalLockTolerance ≤ |noseUp.toMatrix.xy| := by
    rw [hxy, gimbalLockTolerance_eq]
    norm_num
  have hrot := toMatrix_isRotation (norm_eq_one_iff.mp norm_noseUp)
  rw [attitude, eulerAngles, hrot.eulerAngles_of_locked hlocked, hxy]
  norm_num [EulerAngles.attitude]

namespace Converter

/-- **`rounding n`** — rounds to `n` places, and accepts no length but one. -/
noncomputable def rounding (n : ℤ) : Converter ℝ :=
  ⟨.raise, .ok (.scalar (Stack.upTo 0)), false, .ok (some n)⟩

/-- Rounded to tens, straight up stays in range. -/
theorem rounded_pitch_tens :
    ∃ p, (rounding (-1)).convert (.pitches Quaternion.noseUp.toGrid) =
      ⟨[], .ok (.array (.scalar p))⟩ ∧ -90 ≤ p ∧ p ≤ 90 := by
  obtain ⟨p, alone, -, -, inRange, -⟩ :=
    rounded_pitch (c := rounding (-1)) le_rfl rfl rfl Quaternion.norm_noseUp
  exact ⟨p, alone, inRange (Or.inl (by decide))⟩

/-- **Rounded to hundreds, straight up is answered as a hundred degrees.** -/
theorem rounded_pitch_overshoots :
    Quaternion.noseUp.norm = 1 ∧
    (rounding (-2)).convert (.pitches Quaternion.noseUp.toGrid) =
      ⟨[], .ok (.array (.scalar 100))⟩ ∧ ¬ ((100 : ℝ) ≤ 90) := by
  have hround : roundPlaces (-2) Quaternion.noseUp.attitude.pitch = 100 := by
    have hnear : |Quaternion.noseUp.attitude.pitch * 10 ^ (-2 : ℤ) - (1 : ℤ)| < 1 / 2 := by
      rw [Quaternion.attitude_noseUp_pitch]
      norm_num [abs_lt]
    rw [Angle.roundPlaces_eq_of_lt hnear]
    norm_num
  refine ⟨Quaternion.norm_noseUp, ?_, by norm_num⟩
  rw [(pitch_of_unit (c := rounding (-2)) le_rfl rfl rfl Quaternion.norm_noseUp).1, hround]

end Converter

end FlightAttitude
