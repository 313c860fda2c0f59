/-
# FlightAttitude.Proofs.Scalar.Limited — numbers that have a greatest size

Binary floating numbers end: a result that is too large for them is infinite. `Limited limit` are the
extended numbers whose finite members stay below `limit` in size, and every result that reaches the
limit is an infinity. Below the limit nothing is rounded, and nothing is lost for being small.

A sum of squares cannot become smaller again, so wherever it passes the limit it is infinite in the
end. Such sums are therefore known by their total in `ENNReal`, which is compared with the limit once
(`confine_total_add`, `confine_mul_self`).
-/
import Mathlib.Data.ENNReal.Real
import FlightAttitude.Proofs.Scalar.Extended

namespace FlightAttitude

variable {limit : ℝ}

namespace Extended

/-! ## §1 The limit -/

/-- **`confine limit x`** — `x`, or the infinity on its side where it is finite and reaches the limit. -/
noncomputable def confine (limit : ℝ) : Extended → Extended
  | finite x => if limit ≤ |x| then infinite (SignType.sign x) else finite x
  | x => x

theorem confine_finite {x : ℝ} (h : |x| < limit) : (finite x).confine limit = finite x :=
  if_neg (not_le.mpr h)

@[simp] theorem confine_above : above.confine limit = above := rfl

@[simp] theorem confine_undefined : undefined.confine limit = undefined := rfl

/-- What is finite after all has not reached the limit. -/
theorem confine_eq_finite {x : Extended} {y : ℝ} (h : x.confine limit = finite y) :
    x = finite y ∧ |y| < limit := by
  cases x with
  | above | below | undefined => cases h
  | finite x =>
    by_cases reached : limit ≤ |x|
    · rw [confine, if_pos reached] at h
      cases sign : SignType.sign x <;> rw [sign] at h <;> cases h
    · rw [confine, if_neg reached] at h
      cases h
      exact ⟨rfl, not_le.mp reached⟩

/-! ## §2 Totals -/

/-- **`total limit a`** — the total `a` as a number; where it reaches the limit it is infinite. -/
noncomputable def total (limit : ℝ) (a : ENNReal) : Extended :=
  if a < ENNReal.ofReal limit then finite a.toReal else above

/-- **`squared x`** — what `x` adds to a total of squares. -/
noncomputable def squared : Extended → ENNReal
  | finite x => ENNReal.ofReal (x * x)
  | _ => ⊤

variable {a b : ENNReal}

theorem total_of_lt (h : a < ENNReal.ofReal limit) : total limit a = finite a.toReal := if_pos h

theorem total_of_le (h : ENNReal.ofReal limit ≤ a) : total limit a = above := if_neg (not_lt.mpr h)

/-- A finite total, confined, is that total. -/
theorem confine_toReal (positive : 0 < limit) (h : a ≠ ⊤) :
    (finite a.toReal).confine limit = total limit a := by
  have size : |a.toReal| = a.toReal := abs_of_nonneg ENNReal.toReal_nonneg
  rcases lt_or_ge a (ENNReal.ofReal limit) with below | reached
  · have less : a.toReal < limit := (ENNReal.lt_ofReal_iff_toReal_lt h).mp below
    rw [total_of_lt below, confine_finite (size.trans_lt less)]
  · have atLeast : limit ≤ a.toReal := (ENNReal.ofReal_le_iff_le_toReal h).mp reached
    rw [total_of_le reached, confine, size, if_pos atLeast, sign_pos (positive.trans_le atLeast)]
    rfl

theorem confine_zero (positive : 0 < limit) : (0 : Extended).confine limit = total limit 0 := by
  rw [← confine_toReal positive ENNReal.zero_ne_top, ENNReal.toReal_zero]
  rfl

theorem above_add_total (a : ENNReal) : above + total limit a = above := by
  unfold total
  split_ifs <;> rfl

theorem total_add_above (a : ENNReal) : total limit a + above = above := by
  unfold total
  split_ifs <;> rfl

/-- **Totals are added as such**: a part that has reached the limit is infinite and stays so. -/
theorem confine_total_add (positive : 0 < limit) (a b : ENNReal) :
    (total limit a + total limit b).confine limit = total limit (a + b) := by
  rcases lt_or_ge a (ENNReal.ofReal limit) with ha | ha
  · rcases lt_or_ge b (ENNReal.ofReal limit) with hb | hb
    · have finite_a : a ≠ ⊤ := ha.ne_top
      have finite_b : b ≠ ⊤ := hb.ne_top
      rw [total_of_lt ha, total_of_lt hb, finite_add, ← ENNReal.toReal_add finite_a finite_b,
        confine_toReal positive (ENNReal.add_ne_top.mpr ⟨finite_a, finite_b⟩)]
    · rw [total_of_le hb, total_add_above, total_of_le (hb.trans le_add_self)]
      rfl
  · rw [total_of_le ha, above_add_total, total_of_le (ha.trans le_self_add)]
    rfl

theorem confine_mul_self (positive : 0 < limit) {x : Extended} (defined : x ≠ undefined) :
    (x * x).confine limit = total limit x.squared := by
  have unbounded : total limit ⊤ = above := total_of_le le_top
  cases x with
  | finite x =>
    have square := ENNReal.toReal_ofReal (mul_self_nonneg x)
    rw [finite_mul, squared, ← confine_toReal positive ENNReal.ofReal_ne_top, square]
  | above | below => exact unbounded.symm
  | undefined => exact absurd rfl defined

/-- Above one, a root is not larger than its argument, so it does not reach the limit either. -/
theorem confine_sqrt (beyond : 1 < limit) (h : a < ENNReal.ofReal limit) :
    (sqrt (finite a.toReal)).confine limit = finite (Real.sqrt a.toReal) := by
  have nonneg : 0 ≤ a.toReal := ENNReal.toReal_nonneg
  have less : a.toReal < limit := (ENNReal.lt_ofReal_iff_toReal_lt h.ne_top).mp h
  have root : Real.sqrt a.toReal < limit := by
    rw [Real.sqrt_lt' (zero_lt_one.trans beyond)]
    nlinarith
  rw [sqrt_finite nonneg, confine_finite]
  rwa [abs_of_nonneg (Real.sqrt_nonneg _)]

/-- **No factor makes a number finite that is not.** -/
theorem isFinite_mul (limit : ℝ) (x : Extended) {y : Extended} (h : isFinite y = false) :
    isFinite ((x * y).confine limit) = false := by
  have product : x * y = infinite (x.side * y.side) := by
    cases y with
    | finite y => cases h
    | above | below | undefined => cases x <;> rfl
  rw [product]
  cases x.side * y.side <;> rfl

end Extended

/-! ## §3 Numbers below the limit -/

/-- **`Limited limit`** — an extended number that stays below `limit` in size where it is finite. -/
@[ext]
structure Limited (limit : ℝ) where
  value : Extended
  below : ∀ x, value = .finite x → |x| < limit

namespace Limited

/-- **`ofExtended x`** — the number `x`, an infinity where it reaches the limit. -/
noncomputable def ofExtended (x : Extended) : Limited limit :=
  ⟨x.confine limit, fun _ h => (Extended.confine_eq_finite h).2⟩

noncomputable instance : Zero (Limited limit) := ⟨ofExtended 0⟩

noncomputable instance : One (Limited limit) := ⟨ofExtended 1⟩

noncomputable instance : Add (Limited limit) := ⟨fun a b => ofExtended (a.value + b.value)⟩

noncomputable instance : Mul (Limited limit) := ⟨fun a b => ofExtended (a.value * b.value)⟩

noncomputable instance : Div (Limited limit) := ⟨fun a b => ofExtended (a.value / b.value)⟩

noncomputable instance : SquareRoot (Limited limit) := ⟨fun a => ofExtended (sqrt a.value)⟩

instance : Finiteness (Limited limit) := ⟨fun a => isFinite a.value⟩

theorem value_zero : (0 : Limited limit).value = (0 : Extended).confine limit := rfl

theorem value_one (beyond : 1 < limit) : (1 : Limited limit).value = .finite 1 :=
  Extended.confine_finite (by rwa [abs_one])

theorem value_add (a b : Limited limit) : (a + b).value = (a.value + b.value).confine limit := rfl

theorem value_mul (a b : Limited limit) : (a * b).value = (a.value * b.value).confine limit := rfl

theorem value_div (a b : Limited limit) : (a / b).value = (a.value / b.value).confine limit := rfl

theorem value_sqrt (a : Limited limit) : (sqrt a).value = (sqrt a.value).confine limit := rfl

theorem isFinite_eq (a : Limited limit) : isFinite a = isFinite a.value := rfl

end Limited

end FlightAttitude
