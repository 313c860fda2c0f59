/-
# FlightAttitude.Proofs.Attitude.OpenEnds — the ranges of the flight attitude under rounding

Over exact numbers the Euler angles of one turn, with the middle one in the front half, are read as a
pitch in `[-90, 90]`, a heading in `[0, 360)` and a roll in `(-180, 180]`. Each branch is one difference,
and a difference that is rounded does not pass an end of the range that is itself representable. So all
closed ends hold under rounding, and the heading is not calculated at all.

The one end left is the open end of the roll, and rounding reaches it. Below a quarter turn the roll is
`-90 - y`, which may need one bit more than a number of its size has. For the last number below `90`
the difference is half way between `-180` and the number above it, and the even one of the two is `-180`
(`roundNearest_roll_eq_iff`). No other Euler angle does that.
-/
import FlightAttitude.Proofs.Attitude.Bijection
import FlightAttitude.Proofs.Scalar.Nearest
import FlightAttitude.Proofs.Scalar.Rounded
import FlightAttitude.Proofs.Stack.Single

namespace FlightAttitude

open Rounded

variable {e : EulerAngles ℚ} {y z : ℚ}

/-! ## §1 Ends that hold -/

/-- The pitch is calculated in the upper branch only. -/
theorem pitch_rounded_mem (h : z ∈ Set.Icc 0 90 ∨ z ∈ Set.Ico 270 360) :
    (if 180 < z then roundNearest (360 - z) else -z) ∈ Set.Icc (-90) 90 := by
  rcases h with ⟨hlo, hhi⟩ | ⟨hlo, hhi⟩
  · rw [if_neg (by linarith)]
    constructor <;> linarith
  · rw [if_pos (by linarith)]
    have hexact : 360 - z ∈ Set.Icc ((-90 : ℤ) : ℚ) (90 : ℤ) := by
      constructor <;> push_cast <;> linarith
    simpa using roundNearest_mem_Icc (by norm_num) (by norm_num) hexact

/-- From a quarter turn on, the roll ends above `-90`, far from the open end. -/
theorem roundNearest_upper_roll_mem (h : y ∈ Set.Ico 90 360) :
    roundNearest (270 - y) ∈ Set.Icc (-90) 180 := by
  obtain ⟨hlo, hhi⟩ := h
  have hexact : 270 - y ∈ Set.Icc ((-90 : ℤ) : ℚ) (180 : ℤ) := by
    constructor <;> push_cast <;> linarith
  simpa using roundNearest_mem_Icc (by norm_num) (by norm_num) hexact

theorem roundNearest_lower_roll_mem (h : y ∈ Set.Ico 0 90) :
    roundNearest (-90 - y) ∈ Set.Icc (-180) (-90) := by
  obtain ⟨hlo, hhi⟩ := h
  have hexact : -90 - y ∈ Set.Icc ((-180 : ℤ) : ℚ) (-90 : ℤ) := by
    constructor <;> push_cast <;> linarith
  simpa using roundNearest_mem_Icc (by norm_num) (by norm_num) hexact

/-! ## §2 The open end -/

/-- **The roll reaches `-180` at one angle only**, the last one below a quarter turn: two steps below,
the difference is a whole step above `-180`. -/
theorem roundNearest_roll_eq_iff (hrep : Representable y) (h : y < 90) :
    roundNearest (-90 - y) = -180 ↔ y = 90 - 2 ^ (-46 : ℤ) := by
  constructor
  · intro hreach
    by_contra! hne
    have hquarter : Representable 90 := ⟨90, 0, by norm_num, by norm_num⟩
    have hnext : Representable (-180 + 2 ^ (-45 : ℤ)) :=
      ⟨-180 * 2 ^ 45 + 1, -45, by norm_num, by norm_num⟩
    have hfar : y ≤ 90 - 2 ^ (-45 : ℤ) := by
      rcases hrep.eq_or_le_of_lt hquarter (e := -46) (by norm_num) h with hlast | hfar | hsmall
      · exact absurd hlast hne
      · exact hfar
      · have hbelow := (abs_lt.mp hsmall).2
        norm_num at hbelow ⊢
        linarith
    have hup := le_roundNearest hnext (x := -90 - y) (by linarith)
    rw [hreach] at hup
    norm_num at hup
  -- half way between `-180` and its neighbour above, the even one is `-180`
  · rintro rfl
    decide +kernel

/-! ## §3 What is answered -/

/-- The branches are chosen by the given angles, which are not rounded. -/
theorem EulerAngles.attitude_map_of (rnd : ℚ → ℚ) (e : EulerAngles ℚ) :
    (e.map (of rnd)).attitude = Attitude.map (of rnd)
      { pitch := if 180 < e.aboutZ then rnd (360 - e.aboutZ) else -e.aboutZ
        heading := e.aboutX
        roll := if 90 ≤ e.aboutY then rnd (270 - e.aboutY) else rnd (-90 - e.aboutY) } := by
  ext <;>
    simp only [attitude, map, Attitude.map, lt_iff, le_iff, value_of, value_sub, value_neg,
      value_quarterTurn, value_halfTurn, value_threeQuarterTurn, value_fullTurn,
      apply_ite Rounded.value]

theorem roll_rounded_mem (hrep : Representable y) (h : y ∈ Set.Ico 0 360) :
    (if 90 ≤ y then roundNearest (270 - y) else roundNearest (-90 - y)) ∈ Set.Icc (-180) 180 ∧
    ((if 90 ≤ y then roundNearest (270 - y) else roundNearest (-90 - y)) ∈ Set.Ioc (-180) 180 ↔
      y ≠ 90 - 2 ^ (-46 : ℤ)) := by
  obtain ⟨hlo, hhi⟩ := h
  split_ifs with hbranch
  · obtain ⟨hlower, hupper⟩ := roundNearest_upper_roll_mem ⟨hbranch, hhi⟩
    have hother : y ≠ 90 - 2 ^ (-46 : ℤ) := by
      rintro rfl
      norm_num at hbranch
    exact ⟨⟨by linarith, hupper⟩, fun _ => hother, fun _ => ⟨by linarith, hupper⟩⟩
  · have hbelow : y < 90 := not_le.mp hbranch
    obtain ⟨hlower, hupper⟩ := roundNearest_lower_roll_mem ⟨hlo, hbelow⟩
    rw [ne_eq, ← roundNearest_roll_eq_iff hrep hbelow]
    exact ⟨⟨hlower, by linarith⟩, fun hmem => hmem.1.ne',
      fun hne => ⟨lt_of_le_of_ne hlower (Ne.symm hne), by linarith⟩⟩

/-- **The flight attitude under rounding.** For Euler angles of one turn, the middle one in the front
half, pitch and heading keep their ranges, and the roll keeps its range with the lower end closed; the
open end is reached at one angle about y, the last one below a quarter turn. Of the three angles only
that one needs to be representable. -/
theorem EulerAngles.attitude_openEnd (hrep : Representable e.aboutY) (hy : e.aboutY ∈ Set.Ico 0 360)
    (hz : e.aboutZ ∈ Set.Icc 0 90 ∨ e.aboutZ ∈ Set.Ico 270 360) (hx : e.aboutX ∈ Set.Ico 0 360) :
    ∃ a : Attitude ℚ, Stack.attitudesOfEuler (.ok (e.map (of roundNearest)).toVec3.toGrid) =
        .ok (Stack.attitudeParts (.scalar (a.map (of roundNearest)))) ∧
      a.pitch ∈ Set.Icc (-90) 90 ∧ a.heading ∈ Set.Ico 0 360 ∧ a.roll ∈ Set.Icc (-180) 180 ∧
      (a.roll ∈ Set.Ioc (-180) 180 ↔ e.aboutY ≠ 90 - 2 ^ (-46 : ℤ)) := by
  obtain ⟨hclosed, hopen⟩ := roll_rounded_mem hrep hy
  have hanswer : Stack.attitudesOfEuler (.ok (e.map (of roundNearest)).toVec3.toGrid) =
      .ok (Stack.attitudeParts (.scalar (e.map (of roundNearest)).attitude)) :=
    Stack.attitudesOfEuler_stack (.scalar (e.map (of roundNearest)))
  rw [EulerAngles.attitude_map_of] at hanswer
  exact ⟨_, hanswer, pitch_rounded_mem hz, hx, hclosed, hopen⟩

/-- One number further down the roll is the one next to its open end. -/
theorem EulerAngles.attitude_openEnd_next :
    (Representable (90 - 2 ^ (-45 : ℤ)) ∧ (90 - 2 ^ (-45 : ℤ) : ℚ) ∈ Set.Ico 0 360 ∧
      (360 - 2 ^ (-44 : ℤ) : ℚ) ∈ Set.Ico 270 360 ∧ (0 : ℚ) ∈ Set.Ico 0 360) ∧
    ∃ a : Attitude ℚ,
      Stack.attitudesOfEuler (.ok ((⟨90 - 2 ^ (-45 : ℤ), 360 - 2 ^ (-44 : ℤ), 0⟩ :
          EulerAngles ℚ).map (of roundNearest)).toVec3.toGrid) =
        .ok (Stack.attitudeParts (.scalar (a.map (of roundNearest)))) ∧
      a.pitch ∈ Set.Icc (-90) 90 ∧ a.heading ∈ Set.Ico 0 360 ∧ a.roll ∈ Set.Ioc (-180) 180 := by
  have hrep : Representable (90 - 2 ^ (-45 : ℤ)) :=
    ⟨90 * 2 ^ 45 - 1, -45, by norm_num, by norm_num⟩
  have hy : (90 - 2 ^ (-45 : ℤ) : ℚ) ∈ Set.Ico 0 360 := by constructor <;> norm_num
  have hz : (360 - 2 ^ (-44 : ℤ) : ℚ) ∈ Set.Ico 270 360 := by constructor <;> norm_num
  have hx : (0 : ℚ) ∈ Set.Ico 0 360 := by constructor <;> norm_num
  obtain ⟨a, hanswer, hpitch, hheading, -, hroll⟩ :=
    EulerAngles.attitude_openEnd (e := ⟨90 - 2 ^ (-45 : ℤ), 360 - 2 ^ (-44 : ℤ), 0⟩)
      hrep hy (.inr hz) hx
  exact ⟨⟨hrep, hy, hz, hx⟩, a, hanswer, hpitch, hheading, hroll.mpr (by norm_num)⟩

/-- The range of the roll is left at the last number below a quarter turn. -/
theorem EulerAngles.attitude_leaves_range :
    (Representable (90 - 2 ^ (-46 : ℤ)) ∧ Representable 10 ∧ Representable 20) ∧
    (⟨of roundNearest (90 - 2 ^ (-46 : ℤ)), of roundNearest 10, of roundNearest 20⟩ :
        EulerAngles (Rounded roundNearest)).attitude =
      ⟨of roundNearest (-10), of roundNearest 20, of roundNearest (-180)⟩ ∧
    (-180 : ℚ) ∉ Set.Ioc (-180) 180 := by
  refine ⟨⟨⟨90 * 2 ^ 46 - 1, -46, by norm_num, by norm_num⟩, ⟨10, 0, by norm_num, by norm_num⟩,
    ⟨20, 0, by norm_num, by norm_num⟩⟩, by decide +kernel, ?_⟩
  norm_num

end FlightAttitude
