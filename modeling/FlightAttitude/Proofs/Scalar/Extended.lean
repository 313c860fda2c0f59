/-
# FlightAttitude.Proofs.Scalar.Extended — real numbers, and what division by zero leaves

Over the reals alone `x / 0` is `0`, so a division that went wrong cannot be told from one that did
not. `Extended` adds the two infinities and the undefined number, with the rules that binary floating
numbers have for them; between finite numbers it is exact. There is one zero, and as a divisor it
counts as positive.

Two facts carry what is proved over these numbers. A formula whose divisors are not zero and whose
roots are not of negative numbers has the value that it has over the reals (`finite_add` to
`sqrt_finite`). Whatever an undefined number enters is undefined.
-/
import FlightAttitude.Proofs.Scalar.Exact

namespace FlightAttitude

/-- **`Extended`** — a real number, an infinity, or no number. -/
inductive Extended where
  | finite (x : ℝ)
  | above
  | below
  | undefined

namespace Extended

/-! ## §1 Operations -/

/-- **`infinite s`** — the infinity on the side `s`; on no side, the undefined number. -/
def infinite : SignType → Extended
  | .pos => above
  | .neg => below
  | .zero => undefined

/-- **`side x`** — the side of zero that `x` is on. The undefined number is on none. -/
noncomputable def side : Extended → SignType
  | finite x => SignType.sign x
  | above => 1
  | below => -1
  | undefined => 0

/-- **`neg x`** — the number on the other side. -/
noncomputable def neg : Extended → Extended
  | finite x => finite (-x)
  | above => below
  | below => above
  | undefined => undefined

/-- **`add x y`** — the sum; two infinities have one only on one side. -/
noncomputable def add : Extended → Extended → Extended
  | finite x, finite y => finite (x + y)
  | undefined, _ | _, undefined => undefined
  | above, below | below, above => undefined
  | above, _ | _, above => above
  | below, _ | _, below => below

/-- **`mul x y`** — the product; an infinity times zero has none. -/
noncomputable def mul : Extended → Extended → Extended
  | finite x, finite y => finite (x * y)
  | x, y => infinite (x.side * y.side)

/-- **`div x y`** — the quotient. Over zero it is infinite on the side of `x`, and zero over zero has
none. -/
noncomputable def div : Extended → Extended → Extended
  | finite x, finite y => if y = 0 then infinite (SignType.sign x) else finite (x / y)
  | finite _, above | finite _, below => finite 0
  | above, finite y => if y < 0 then below else above
  | below, finite y => if y < 0 then above else below
  | _, _ => undefined

/-- **`root x`** — the square root; negative numbers have none. -/
noncomputable def root : Extended → Extended
  | finite x => if x < 0 then undefined else finite (Real.sqrt x)
  | above => above
  | below | undefined => undefined

/-- **`Less x y`** — whether `x` is below `y`. The undefined number is not, of any. -/
def Less : Extended → Extended → Prop
  | finite x, finite y => x < y
  | below, finite _ | below, above | finite _, above => True
  | _, _ => False

noncomputable instance : Zero Extended := ⟨finite 0⟩

noncomputable instance : One Extended := ⟨finite 1⟩

noncomputable instance : NatCast Extended := ⟨fun n => finite n⟩

noncomputable instance : Neg Extended := ⟨neg⟩

noncomputable instance : Add Extended := ⟨add⟩

noncomputable instance : Sub Extended := ⟨fun x y => x + -y⟩

noncomputable instance : Mul Extended := ⟨mul⟩

noncomputable instance : Div Extended := ⟨div⟩

instance : LT Extended := ⟨Less⟩

instance : LE Extended := ⟨fun x y => Less x y ∨ x = y ∧ x ≠ undefined⟩

noncomputable instance : DecidableLT Extended := Classical.decRel _

noncomputable instance : DecidableLE Extended := Classical.decRel _

noncomputable instance : SquareRoot Extended := ⟨root⟩

instance : Finiteness Extended where
  isFinite
    | finite _ => true
    | _ => false

/-! ## §2 Finite numbers -/

variable {x y : ℝ}

theorem zero_eq : (0 : Extended) = finite 0 := rfl

theorem one_eq : (1 : Extended) = finite 1 := rfl

theorem natCast_eq (n : Nat) : (Nat.cast n : Extended) = finite n := rfl

@[simp] theorem two_eq : (two : Extended) = finite 2 := by
  rw [two, natCast_eq, Nat.cast_ofNat]

@[simp] theorem finite_add (x y : ℝ) : finite x + finite y = finite (x + y) := rfl

@[simp] theorem finite_sub (x y : ℝ) : finite x - finite y = finite (x - y) := by
  rw [sub_eq_add_neg x y]
  rfl

@[simp] theorem finite_mul (x y : ℝ) : finite x * finite y = finite (x * y) := rfl

theorem finite_div (h : y ≠ 0) (x : ℝ) : finite x / finite y = finite (x / y) :=
  if_neg h

theorem sqrt_finite (h : 0 ≤ x) : sqrt (finite x) = finite (Real.sqrt x) :=
  if_neg (not_lt.mpr h)

@[simp] theorem finite_lt : finite x < finite y ↔ x < y := Iff.rfl

@[simp] theorem finite_le : finite x ≤ finite y ↔ x ≤ y := by
  show x < y ∨ finite x = finite y ∧ finite x ≠ undefined ↔ x ≤ y
  rw [le_iff_lt_or_eq, finite.injEq]
  simp

/-- Comparisons of finite numbers are those of real numbers, so the greatest of them is. -/
theorem exceeds_finite (x y : ℝ) : exceeds (finite x) (finite y) = exceeds x y := by
  simp [exceeds]

theorem atLeastZero_finite (x : ℝ) : atLeastZero (finite x) = finite (atLeastZero x) := by
  simp only [atLeastZero, zero_eq, finite_lt]
  split_ifs <;> rfl

/-! ## §3 The undefined number -/

theorem zero_div_zero : finite 0 / finite 0 = undefined := by
  show (if (0 : ℝ) = 0 then infinite (SignType.sign 0) else finite (0 / 0)) = undefined
  rw [if_pos rfl, sign_zero]
  rfl

@[simp] theorem undefined_add (a : Extended) : undefined + a = undefined := by
  cases a <;> rfl

@[simp] theorem add_undefined (a : Extended) : a + undefined = undefined := by
  cases a <;> rfl

@[simp] theorem undefined_sub (a : Extended) : undefined - a = undefined := undefined_add _

@[simp] theorem sub_undefined (a : Extended) : a - undefined = undefined := add_undefined a

@[simp] theorem undefined_mul (a : Extended) : undefined * a = undefined := by
  show infinite (0 * a.side) = undefined
  rw [zero_mul]
  rfl

@[simp] theorem mul_undefined (a : Extended) : a * undefined = undefined := by
  have product : a * undefined = infinite (a.side * 0) := by
    cases a <;> rfl
  rw [product, mul_zero]
  rfl

@[simp] theorem undefined_div (a : Extended) : undefined / a = undefined := by
  cases a <;> rfl

end Extended

end FlightAttitude
