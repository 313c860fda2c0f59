/-
# FlightAttitude.Proofs.Attitude.Bijection — Euler angles and flight attitudes, one for one

Read as a flight attitude, the Euler angles of one turn fill a box of attitudes: pitch in
`[-180, 180)`, heading in `[0, 360)`, roll in `(-180, 180]`. Each half of a turn goes onto its half of
the box, and the point at which a branch changes belongs to the half whose end is closed: a half turn
about z is the pitch `-180`, a quarter turn about y the roll `180`. So nothing is lost or merged, and
wrapping the angles back is the inverse (`Attitude.eulerAngles`, `EulerAngles.attitude_bijective`).

Only the front half of the pitches comes from a rotation (`FlightAttitude.Proofs.Euler.Ranges`); the
reading itself does not need that.
-/
import Mathlib.Data.Set.Function
import FlightAttitude.Proofs.Attitude
import FlightAttitude.Proofs.Stack.Attitudes

namespace FlightAttitude

universe u

open Angle (wrapUnsigned)

/-! ## §1 The two boxes -/

section Boxes

variable {K : Type u} [Field K] [LinearOrder K]

/-- **`EulerAngles.oneTurn`** — the Euler angles in `[0, 360)`. -/
def EulerAngles.oneTurn : Set (EulerAngles K) :=
  {e | e.aboutY ∈ Set.Ico 0 360 ∧ e.aboutZ ∈ Set.Ico 0 360 ∧ e.aboutX ∈ Set.Ico 0 360}

/-- **`Attitude.oneTurn`** — the attitudes with each angle in a turn of its own: the pitch is open at
the upper end, the roll at the lower one. -/
def Attitude.oneTurn : Set (Attitude K) :=
  {a | a.pitch ∈ Set.Ico (-180) 180 ∧ a.heading ∈ Set.Ico 0 360 ∧ a.roll ∈ Set.Ioc (-180) 180}

/-- **`Attitude.eulerAngles a`** — the Euler angles that `a` is read from: `270 - roll` and `-pitch`,
wrapped, and the heading as it is. -/
def Attitude.eulerAngles [FloorRing K] (a : Attitude K) : EulerAngles K where
  aboutY := wrapUnsigned (threeQuarterTurn - a.roll)
  aboutZ := wrapUnsigned (-a.pitch)
  aboutX := a.heading

end Boxes

/-! ## §2 From box to box -/

section Branches

variable {K : Type u} [Field K] [LinearOrder K] [IsStrictOrderedRing K]

/-- The pitch: `[0, 180]` is turned over onto `[-180, 0]`, and `(180, 360)` onto `(0, 180)`. -/
theorem pitch_mem {z : K} (h : z ∈ Set.Ico (0 : K) 360) :
    (if 180 < z then 360 - z else -z) ∈ Set.Ico (-180 : K) 180 := by
  obtain ⟨hlo, hhi⟩ := h
  split_ifs with hbranch
  · constructor <;> linarith
  · constructor <;> linarith

/-- The roll: `[90, 360)` is turned over onto `(-90, 180]`, and `[0, 90)` onto `(-180, -90]`. -/
theorem roll_mem {y : K} (h : y ∈ Set.Ico (0 : K) 360) :
    (if 90 ≤ y then 270 - y else -90 - y) ∈ Set.Ioc (-180 : K) 180 := by
  obtain ⟨hlo, hhi⟩ := h
  split_ifs with hbranch
  · constructor <;> linarith
  · constructor <;> linarith

theorem EulerAngles.mapsTo_attitude :
    Set.MapsTo attitude (oneTurn : Set (EulerAngles K)) Attitude.oneTurn := by
  rintro e ⟨hy, hz, hx⟩
  have hpitch := pitch_mem hz
  have hroll := roll_mem hy
  simp only [Attitude.oneTurn, Set.mem_ofPred_eq, attitude, quarterTurn_eq, halfTurn_eq,
    threeQuarterTurn_eq, fullTurn_eq]
  exact ⟨hpitch, hx, hroll⟩

variable [FloorRing K]

theorem Attitude.mapsTo_eulerAngles :
    Set.MapsTo eulerAngles (oneTurn : Set (Attitude K)) EulerAngles.oneTurn :=
  fun _ h => ⟨Angle.wrapUnsigned_mem _, Angle.wrapUnsigned_mem _, h.2.1⟩

/-! ## §3 There and back -/

/-- Either branch differs from the turned angle by whole turns. -/
theorem wrapUnsigned_pitch {z : K} (h : z ∈ Set.Ico (0 : K) 360) :
    wrapUnsigned (-(if 180 < z then 360 - z else -z)) = z := by
  obtain ⟨hlo, hhi⟩ := h
  split_ifs with hbranch
  · exact Angle.wrapUnsigned_eq_of_mem hlo hhi (-1) (by push_cast; ring)
  · exact Angle.wrapUnsigned_eq_of_mem hlo hhi 0 (by push_cast; ring)

theorem wrapUnsigned_roll {y : K} (h : y ∈ Set.Ico (0 : K) 360) :
    wrapUnsigned (270 - (if 90 ≤ y then 270 - y else -90 - y)) = y := by
  obtain ⟨hlo, hhi⟩ := h
  split_ifs with hbranch
  · exact Angle.wrapUnsigned_eq_of_mem hlo hhi 0 (by push_cast; ring)
  · exact Angle.wrapUnsigned_eq_of_mem hlo hhi 1 (by push_cast; ring)

theorem EulerAngles.eulerAngles_attitude {e : EulerAngles K} (h : e ∈ oneTurn) :
    e.attitude.eulerAngles = e := by
  obtain ⟨hy, hz, -⟩ := h
  simp only [Attitude.eulerAngles, attitude, quarterTurn_eq, halfTurn_eq, threeQuarterTurn_eq,
    fullTurn_eq, wrapUnsigned_pitch hz, wrapUnsigned_roll hy]

theorem Attitude.attitude_eulerAngles {a : Attitude K} (h : a ∈ oneTurn) :
    a.eulerAngles.attitude = a :=
  EulerAngles.attitude_wrapUnsigned h.1 h.2.2 a.heading

end Branches

/-- Where the branches change, both ends of both branches are different attitudes. -/
example :
    (⟨90, 180, 0⟩ : EulerAngles ℚ).attitude = ⟨-180, 0, 180⟩ ∧
      (⟨0, 0, 0⟩ : EulerAngles ℚ).attitude = ⟨0, 0, -90⟩ := by
  decide +kernel

/-! ## §4 Stacks -/

/-- **Euler angles and flight attitudes correspond one for one.** Reading the Euler angles of one turn
as attitudes is a bijection onto the attitudes of one turn, and its inverse wraps `270 - roll` and
`-pitch` into `[0, 360)` and takes the heading as it is. This is the reading that arrays of Euler angles
get, member by member. -/
theorem EulerAngles.attitude_bijective :
    Set.BijOn attitude (oneTurn : Set (EulerAngles ℝ)) Attitude.oneTurn ∧
    Set.InvOn Attitude.eulerAngles attitude (oneTurn : Set (EulerAngles ℝ)) Attitude.oneTurn ∧
    ∀ es : Grid (EulerAngles ℝ),
      Stack.attitudesOfEuler (.ok (.ofVectors (es.map toVec3))) =
        .ok (Stack.attitudeParts (es.map attitude)) := by
  have inverse : Set.InvOn Attitude.eulerAngles attitude (oneTurn : Set (EulerAngles ℝ))
      Attitude.oneTurn :=
    ⟨fun _ h => eulerAngles_attitude h, fun _ h => Attitude.attitude_eulerAngles h⟩
  exact ⟨inverse.bijOn mapsTo_attitude Attitude.mapsTo_eulerAngles, inverse,
    Stack.attitudesOfEuler_stack⟩

end FlightAttitude
