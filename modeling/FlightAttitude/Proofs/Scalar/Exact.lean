/-
# FlightAttitude.Proofs.Scalar.Exact — the formulas read over exact numbers

The formulas of the library ask only for operations. Here those operations get their exact meaning:
integer parts and powers of ten over every ordered field with a floor (the rationals and the reals
among them), square root and circular functions over the reals. `arctan2` is the argument of a complex
number, so it lies in `(-π, π]` and is zero at the origin; `arcsin` lies in `[-π/2, π/2]`.

Under this reading nothing is infinite or undefined: `x / 0` is `0`. A statement about a division
therefore says, where it matters, that the divisor is not zero.
-/
import Mathlib.Algebra.Order.Floor.Ring
import Mathlib.Analysis.SpecialFunctions.Complex.Arg
import Mathlib.Data.Sign.Basic
import FlightAttitude.Attitude

namespace FlightAttitude

universe u

/-! ## §1 Integer parts over an ordered field -/

section IntegerParts

variable {K : Type u} [Field K] [LinearOrder K] [FloorRing K]

/-- **`truncate x`** — the integer that is left when the part of `x` after the point is cut off. -/
def truncate (x : K) : ℤ :=
  if 0 ≤ x then ⌊x⌋ else ⌈x⌉

/-- **`nearestEven x`** — the nearest integer; a half goes to the even neighbour. -/
def nearestEven (x : K) : ℤ :=
  if Int.fract x < 1 / 2 then ⌊x⌋
  else if 1 / 2 < Int.fract x then ⌊x⌋ + 1
  else if Even ⌊x⌋ then ⌊x⌋ else ⌊x⌋ + 1

instance exactIntegerParts : IntegerParts K where
  floor x := (⌊x⌋ : ℤ)
  nearest x := (nearestEven x : ℤ)
  remainder a b := a - b * (truncate (a / b) : ℤ)

theorem remainder_eq (a b : K) : remainder a b = a - b * (truncate (a / b) : ℤ) := rfl

theorem nearest_eq (x : K) : nearest x = (nearestEven x : ℤ) := rfl

end IntegerParts

section PowersOfTen

variable {K : Type u} [Field K]

instance exactPowersOfTen : PowersOfTen K where
  powTen n := 10 ^ n

theorem powTen_eq (n : Nat) : (powTen n : K) = 10 ^ n := rfl

end PowersOfTen

/-! ## §2 Roots and circular functions over the reals -/

noncomputable instance realSquareRoot : SquareRoot ℝ where
  sqrt := Real.sqrt

noncomputable instance realTrigonometry : Trigonometry ℝ where
  pi := Real.pi
  sin := Real.sin
  cos := Real.cos
  arcsin := Real.arcsin
  arctan2 y x := Complex.arg ⟨x, y⟩

instance realFiniteness : Finiteness ℝ where
  isFinite _ := true

@[simp] theorem sqrt_eq (x : ℝ) : sqrt x = Real.sqrt x := rfl

@[simp] theorem pi_eq : (pi : ℝ) = Real.pi := rfl

@[simp] theorem sin_eq (x : ℝ) : sin x = Real.sin x := rfl

@[simp] theorem cos_eq (x : ℝ) : cos x = Real.cos x := rfl

@[simp] theorem arcsin_eq (x : ℝ) : arcsin x = Real.arcsin x := rfl

theorem arctan2_eq (y x : ℝ) : arctan2 y x = Complex.arg ⟨x, y⟩ := rfl

/-! ## §3 The named numbers and the order tests -/

section Numbers

variable {R : Type u} [Ring R]

@[simp] theorem two_eq : (two : R) = 2 := Nat.cast_ofNat

@[simp] theorem quarterTurn_eq : (quarterTurn : R) = 90 := Nat.cast_ofNat

@[simp] theorem halfTurn_eq : (halfTurn : R) = 180 := Nat.cast_ofNat

@[simp] theorem threeQuarterTurn_eq : (threeQuarterTurn : R) = 270 := Nat.cast_ofNat

@[simp] theorem fullTurn_eq : (fullTurn : R) = 360 := Nat.cast_ofNat

end Numbers

section Order

variable {K : Type u} [LinearOrder K]

theorem magnitude_eq_abs [AddCommGroup K] [IsOrderedAddMonoid K] (x : K) : magnitude x = |x| := by
  unfold magnitude
  split_ifs with h
  · exact (abs_of_neg h).symm
  · exact (abs_of_nonneg (not_lt.mp h)).symm

theorem clip_eq_self {lo hi x : K} (hlo : lo ≤ x) (hhi : x ≤ hi) : clip lo hi x = x := by
  rw [clip, if_neg (not_lt.mpr hlo), if_neg (not_lt.mpr hhi)]

theorem atLeastZero_eq_max [Zero K] (x : K) : atLeastZero x = max x 0 := by
  unfold atLeastZero
  split_ifs with h
  · exact (max_eq_right h.le).symm
  · exact (max_eq_left (not_lt.mp h)).symm

theorem signum_eq_sign [Ring K] (x : K) : signum x = (SignType.sign x : K) := by
  rcases lt_trichotomy x 0 with h | rfl | h
  · rw [signum, if_pos h, sign_neg h, SignType.coe_neg_one]
  · rw [signum, if_neg (lt_irrefl _), if_neg (lt_irrefl _), if_pos le_rfl, sign_zero,
      SignType.coe_zero]
  · rw [signum, if_neg h.not_gt, if_pos h, sign_pos h, SignType.coe_one]

/-- Every exact number compares with itself, so only the second test counts. -/
theorem exceeds_iff {best x : K} : exceeds best x = true ↔ best < x := by
  simp [exceeds]

end Order

end FlightAttitude
