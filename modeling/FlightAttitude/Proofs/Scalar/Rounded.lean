/-
# FlightAttitude.Proofs.Scalar.Rounded — the formulas read with every operation rounded

`Rounded rnd` reads a formula over rational numbers with a rounding after each sum, difference, product
and quotient, in the order in which the formula makes them. What a machine does without an error is
exact here too: named numbers, change of sign, comparisons, integer parts and the remainder of truncated
division.

Nothing is asked of `rnd`, and a `Rounded` may hold any rational number; a statement says what it needs
of both. With `roundNearest` (`FlightAttitude.Proofs.Scalar.Nearest`) this is binary arithmetic of 53
bits without bounds on the exponent, so without overflow, and with one zero.
-/
import FlightAttitude.Proofs.Scalar.Exact

namespace FlightAttitude

/-- **`Rounded rnd`** — a rational number, with operations that round their results by `rnd`. -/
@[ext]
structure Rounded (rnd : ℚ → ℚ) where
  value : ℚ
  deriving DecidableEq

namespace Rounded

/-- **`of rnd x`** — `x` itself, as a number to calculate with. -/
def of (rnd : ℚ → ℚ) (x : ℚ) : Rounded rnd := ⟨x⟩

variable {rnd : ℚ → ℚ}

@[simp] theorem value_of (x : ℚ) : (of rnd x).value = x := rfl

/-! ## §1 Operations -/

instance : NatCast (Rounded rnd) := ⟨fun n => ⟨n⟩⟩

instance : Zero (Rounded rnd) := ⟨⟨0⟩⟩

instance : Neg (Rounded rnd) := ⟨fun x => ⟨-x.value⟩⟩

instance : Add (Rounded rnd) := ⟨fun x y => ⟨rnd (x.value + y.value)⟩⟩

instance : Sub (Rounded rnd) := ⟨fun x y => ⟨rnd (x.value - y.value)⟩⟩

instance : Mul (Rounded rnd) := ⟨fun x y => ⟨rnd (x.value * y.value)⟩⟩

instance : Div (Rounded rnd) := ⟨fun x y => ⟨rnd (x.value / y.value)⟩⟩

instance : LT (Rounded rnd) := ⟨fun x y => x.value < y.value⟩

instance : LE (Rounded rnd) := ⟨fun x y => x.value ≤ y.value⟩

instance : DecidableLT (Rounded rnd) := fun x y => inferInstanceAs (Decidable (x.value < y.value))

instance : DecidableLE (Rounded rnd) := fun x y => inferInstanceAs (Decidable (x.value ≤ y.value))

instance : IntegerParts (Rounded rnd) where
  floor x := ⟨floor x.value⟩
  nearest x := ⟨nearest x.value⟩
  remainder x y := ⟨remainder x.value y.value⟩

/-! ## §2 What they answer -/

variable (x y : Rounded rnd)

@[simp] theorem value_zero : (0 : Rounded rnd).value = 0 := rfl

@[simp] theorem value_neg : (-x).value = -x.value := rfl

@[simp] theorem value_add : (x + y).value = rnd (x.value + y.value) := rfl

@[simp] theorem value_sub : (x - y).value = rnd (x.value - y.value) := rfl

@[simp] theorem value_mul : (x * y).value = rnd (x.value * y.value) := rfl

@[simp] theorem value_div : (x / y).value = rnd (x.value / y.value) := rfl

@[simp] theorem value_floor : (floor x).value = ⌊x.value⌋ := rfl

@[simp] theorem value_remainder : (remainder x y).value = remainder x.value y.value := rfl

@[simp] theorem lt_iff : x < y ↔ x.value < y.value := Iff.rfl

@[simp] theorem le_iff : x ≤ y ↔ x.value ≤ y.value := Iff.rfl

@[simp] theorem value_quarterTurn : (quarterTurn : Rounded rnd).value = 90 := Nat.cast_ofNat

@[simp] theorem value_halfTurn : (halfTurn : Rounded rnd).value = 180 := Nat.cast_ofNat

@[simp] theorem value_threeQuarterTurn : (threeQuarterTurn : Rounded rnd).value = 270 :=
  Nat.cast_ofNat

@[simp] theorem value_fullTurn : (fullTurn : Rounded rnd).value = 360 := Nat.cast_ofNat

end Rounded

end FlightAttitude
