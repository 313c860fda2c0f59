/-
# FlightAttitude.Proofs.Scalar.Nearest — numbers of 53 bits, and the nearest of them

A binary floating number is `m · 2 ^ e` with a significand `m` of at most 53 bits (`Representable`).
Here the exponent has no bounds, so nothing is too large or too small to have a nearest such number.
`roundNearest` finds it: numbers of the size of `x` are the multiples of `spacing x`, and of those the
nearest is taken, a half to the even one.

What is used of it later is its characterisation alone (`isNearest_roundNearest`): no representable
number is nearer. From that it follows that rounding never carries a number past a representable one
(`roundNearest_le`, `le_roundNearest`), leaves those numbers as they are, is monotone, and is off by at
most half a step of any grid that is fine enough (`abs_sub_roundNearest_le`).

That a sum or a difference is exact is shown on a grid: multiples of `2 ^ e` that need no more than 53
bits are representable (`representable_of_grid`), and a representable number is such a multiple unless
it is small (`Representable.grid_or_small`).
-/
import Mathlib.Data.Int.Log
import Mathlib.Data.Rat.Floor
import FlightAttitude.Proofs.Angle.Rounding

namespace FlightAttitude

/-! ## §1 Representable numbers -/

/-- **`Representable x`** — `x` is an integer of at most 53 bits times a power of two. -/
def Representable (x : ℚ) : Prop := ∃ m e : ℤ, |m| < 2 ^ 53 ∧ x = m * 2 ^ e

theorem two_zpow_pos (e : ℤ) : (0 : ℚ) < 2 ^ e := zpow_pos (by norm_num) e

theorem two_zpow_add (d e : ℤ) : (2 : ℚ) ^ (d + e) = 2 ^ d * 2 ^ e :=
  zpow_add₀ (by norm_num) d e

/-- A coarser grid is part of a finer one. -/
theorem two_zpow_of_le {e f : ℤ} (h : e ≤ f) : (2 : ℚ) ^ f = 2 ^ (f - e).toNat * 2 ^ e := by
  rw [← zpow_natCast, Int.toNat_of_nonneg (by omega), ← two_zpow_add, sub_add_cancel]

/-- The power of two that needs one bit more has a significand of one bit. -/
theorem representable_mul_zpow {m : ℤ} (h : |m| ≤ 2 ^ 53) (e : ℤ) : Representable (m * 2 ^ e) := by
  rcases h.lt_or_eq with hlt | heq
  · exact ⟨m, e, hlt, rfl⟩
  · have hcarry : (2 : ℚ) ^ (e + 1) = 2 ^ e * 2 := by rw [two_zpow_add, zpow_one]
    rcases eq_or_eq_neg_of_abs_eq heq with rfl | rfl
    · exact ⟨2 ^ 52, e + 1, by norm_num, by rw [hcarry]; push_cast; ring⟩
    · exact ⟨-2 ^ 52, e + 1, by norm_num, by rw [hcarry]; push_cast; ring⟩

theorem representable_of_grid {x : ℚ} {j e : ℤ} (hx : x = j * 2 ^ e) (h : |x| ≤ 2 ^ (e + 53)) :
    Representable x := by
  have hpos := two_zpow_pos e
  have hj : |(j : ℚ)| * 2 ^ e ≤ 2 ^ 53 * 2 ^ e := by
    calc |(j : ℚ)| * 2 ^ e = |x| := by rw [hx, abs_mul, abs_of_pos hpos]
      _ ≤ 2 ^ (e + 53) := h
      _ = 2 ^ 53 * 2 ^ e := by rw [two_zpow_add, mul_comm]; norm_num
  have hbits : |j| ≤ 2 ^ 53 := by
    have hcast := le_of_mul_le_mul_right hj hpos
    exact_mod_cast hcast
  rw [hx]
  exact representable_mul_zpow hbits e

theorem representable_intCast {k : ℤ} (h : |k| ≤ 2 ^ 53) : Representable (k : ℚ) := by
  simpa using representable_mul_zpow h 0

/-- With a factor of two to spare in the exponent, the significand stays as it is. -/
theorem Representable.mul_zpow {x : ℚ} (h : Representable x) (d : ℤ) : Representable (x * 2 ^ d) := by
  obtain ⟨m, e, hm, rfl⟩ := h
  exact ⟨m, e + d, hm, by rw [two_zpow_add, mul_assoc]⟩

/-- Below `2 ^ (e + 52)` there are representable numbers off the grid of `2 ^ e`; from there on there
are none. -/
theorem Representable.grid_or_small {x : ℚ} (h : Representable x) (e : ℤ) :
    (∃ j : ℤ, x = j * 2 ^ e) ∨ |x| < 2 ^ (e + 52) := by
  obtain ⟨m, f, hm, rfl⟩ := h
  rcases le_or_gt e f with hef | hef
  · left
    refine ⟨m * 2 ^ (f - e).toNat, ?_⟩
    rw [two_zpow_of_le hef]
    push_cast
    ring
  · right
    have hpos := two_zpow_pos f
    have hbits : |(m : ℚ)| < 2 ^ 53 := by exact_mod_cast hm
    calc |(m : ℚ) * 2 ^ f| = |(m : ℚ)| * 2 ^ f := by rw [abs_mul, abs_of_pos hpos]
      _ < 2 ^ 53 * 2 ^ f := mul_lt_mul_of_pos_right hbits hpos
      _ = 2 ^ (53 + f) := by rw [two_zpow_add]; norm_num
      _ ≤ 2 ^ (e + 52) := zpow_le_zpow_right₀ (by norm_num) (by omega)

/-- Below a representable number of some size, the next one is a step of the grid away, and all the
others are two steps or more. -/
theorem Representable.eq_or_le_of_lt {x y : ℚ} {e : ℤ} (hx : Representable x) (hy : Representable y)
    (hsize : 2 ^ (e + 52) ≤ |y|) (hlt : x < y) :
    x = y - 2 ^ e ∨ x ≤ y - 2 ^ (e + 1) ∨ |x| < 2 ^ (e + 52) := by
  have hpos := two_zpow_pos e
  have hdouble : (2 : ℚ) ^ (e + 1) = 2 ^ e * 2 := by rw [two_zpow_add, zpow_one]
  rcases hx.grid_or_small e with ⟨i, rfl⟩ | hsmall
  · obtain ⟨j, rfl⟩ := (hy.grid_or_small e).resolve_right (not_lt.mpr hsize)
    -- on the grid they differ by a whole number of steps, one or more
    have hij : i < j := by exact_mod_cast lt_of_mul_lt_mul_right hlt hpos.le
    rcases (Int.add_one_le_of_lt hij).eq_or_lt with rfl | hmore
    · left
      push_cast
      ring
    · have hsteps : i + 2 ≤ j := by omega
      have hcast : (i + 2 : ℚ) ≤ j := by exact_mod_cast hsteps
      have hscaled := mul_le_mul_of_nonneg_right hcast hpos.le
      right
      left
      linarith
  · exact .inr (.inr hsmall)

theorem Representable.le_sub_of_lt {x y : ℚ} {e : ℤ} (hx : Representable x) (hy : Representable y)
    (hsize : 2 ^ (e + 52) ≤ |y|) (hlt : x < y) : x ≤ y - 2 ^ e ∨ |x| < 2 ^ (e + 52) := by
  have hpos := two_zpow_pos e
  have hdouble : (2 : ℚ) ^ (e + 1) = 2 ^ e * 2 := by rw [two_zpow_add, zpow_one]
  rcases hx.eq_or_le_of_lt hy hsize hlt with hnext | hfar | hsmall
  · exact .inl hnext.le
  · exact .inl (by linarith)
  · exact .inr hsmall

/-! ## §2 The nearest representable number -/

/-- **`HasEvenSignificand y`** — written with all 53 bits of the significand, the last of them is zero. -/
def HasEvenSignificand (y : ℚ) : Prop :=
  ∃ m e : ℤ, 2 ^ 52 ≤ |m| ∧ |m| < 2 ^ 53 ∧ Even m ∧ y = m * 2 ^ e

/-- **`IsNearest x y`** — `y` is representable and no representable number is nearer to `x`; if another
one is as near, `y` is the one with the even significand. -/
structure IsNearest (x y : ℚ) : Prop where
  representable : Representable y
  nearest {z : ℚ} (hz : Representable z) : |x - y| ≤ |x - z|
  even {z : ℚ} (hz : Representable z) (hne : z ≠ y) (htie : |x - z| = |x - y|) : HasEvenSignificand y

/-- **`spacing x`** — the distance of neighbours among the representable numbers of the size of `x`. -/
def spacing (x : ℚ) : ℚ := 2 ^ (Int.log 2 |x| - 52)

/-- **`roundNearest x`** — the nearest multiple of the spacing, a half to the even one. -/
def roundNearest (x : ℚ) : ℚ := nearestEven (x / spacing x) * spacing x

theorem spacing_pos (x : ℚ) : 0 < spacing x := two_zpow_pos _

theorem two_pow_mul_spacing (x : ℚ) (n : ℕ) :
    2 ^ n * spacing x = 2 ^ (Int.log 2 |x| - 52 + n) := by
  rw [spacing, two_zpow_add, zpow_natCast, mul_comm]

theorem abs_lt_spacing (x : ℚ) : |x| < 2 ^ 53 * spacing x := by
  calc |x| < 2 ^ (Int.log 2 |x| + 1) := by exact_mod_cast Int.lt_zpow_succ_log_self one_lt_two |x|
    _ = 2 ^ 53 * spacing x := by
        rw [two_pow_mul_spacing]
        congr 1
        push_cast
        ring

theorem spacing_le_abs {x : ℚ} (h : x ≠ 0) : 2 ^ 52 * spacing x ≤ |x| := by
  calc 2 ^ 52 * spacing x = 2 ^ Int.log 2 |x| := by
        rw [two_pow_mul_spacing]
        congr 1
        push_cast
        ring
    _ ≤ |x| := by exact_mod_cast Int.zpow_log_le_self one_lt_two (abs_pos.mpr h)

/-- A representable number is a multiple of the spacing at `x`, or falls short of all numbers of the
size of `x`. -/
theorem Representable.grid_spacing {z : ℚ} (h : Representable z) (x : ℚ) :
    (∃ j : ℤ, z = j * spacing x) ∨ |z| < 2 ^ 52 * spacing x := by
  rw [two_pow_mul_spacing]
  exact h.grid_or_small _

/-- The number one spacing below is representable; its neighbour may be nearer still. -/
theorem Representable.sub_spacing {x : ℚ} (h : Representable x) (hx : x ≠ 0) :
    Representable (x - spacing x) := by
  have hpos := spacing_pos x
  obtain ⟨j, hj⟩ := (h.grid_spacing x).resolve_right (not_lt.mpr (spacing_le_abs hx))
  have hbits : |j| < 2 ^ 53 := by
    have hlt := abs_lt_spacing x
    rw [hj, abs_mul, ← hj, abs_of_pos hpos] at hlt
    exact_mod_cast lt_of_mul_lt_mul_right hlt hpos.le
  have hless : x - spacing x = (j - 1 : ℤ) * spacing x := by
    push_cast
    linarith
  rw [hless]
  exact representable_mul_zpow (by rw [abs_le]; rw [abs_lt] at hbits; omega) _

/-! ## §3 It is the nearest -/

theorem abs_sub_mul {g : ℚ} (hg : 0 < g) (x : ℚ) (j : ℤ) : |x - j * g| = |x / g - j| * g := by
  rw [← abs_of_pos hg, ← abs_mul, abs_of_pos hg, sub_mul, div_mul_cancel₀ _ hg.ne']

/-- On the grid that is rounded to, nearest is meant between integers. -/
theorem abs_sub_roundNearest_le_grid (x : ℚ) (j : ℤ) :
    |x - roundNearest x| ≤ |x - j * spacing x| := by
  rw [roundNearest, abs_sub_mul (spacing_pos x), abs_sub_mul (spacing_pos x)]
  exact mul_le_mul_of_nonneg_right (abs_sub_nearestEven_le_abs_sub _ j) (spacing_pos x).le

/-- What is off the grid is smaller than `x`, and the grid has a number in between. -/
theorem abs_sub_roundNearest_lt {x z : ℚ} (h : |z| < 2 ^ 52 * spacing x) (hx : x ≠ 0) :
    |x - roundNearest x| < |x - z| := by
  have hle := spacing_le_abs hx
  obtain ⟨hlo, hhi⟩ := abs_lt.mp h
  rcases lt_or_gt_of_ne hx with hneg | hpos
  · rw [abs_of_neg hneg] at hle
    calc |x - roundNearest x| ≤ |x - (-2 ^ 52 : ℤ) * spacing x| := abs_sub_roundNearest_le_grid x _
      _ = -(x + 2 ^ 52 * spacing x) := by
          rw [abs_of_nonpos] <;> push_cast <;> linarith
      _ < -(x - z) := by linarith
      _ ≤ |x - z| := neg_le_abs _
  · rw [abs_of_pos hpos] at hle
    calc |x - roundNearest x| ≤ |x - (2 ^ 52 : ℤ) * spacing x| := abs_sub_roundNearest_le_grid x _
      _ = x - 2 ^ 52 * spacing x := by
          rw [abs_of_nonneg] <;> push_cast <;> linarith
      _ < x - z := by linarith
      _ ≤ |x - z| := le_abs_self _

/-- The rounded significand has at most 53 bits, or is the power of two beyond them. -/
theorem abs_nearestEven_spacing_le (x : ℚ) : |nearestEven (x / spacing x)| ≤ 2 ^ 53 := by
  have hpos := spacing_pos x
  apply abs_nearestEven_le
  rw [abs_div, abs_of_pos hpos, div_le_iff₀ hpos]
  exact_mod_cast (abs_lt_spacing x).le

theorem le_abs_nearestEven_spacing {x : ℚ} (hx : x ≠ 0) : 2 ^ 52 ≤ |nearestEven (x / spacing x)| := by
  have hpos := spacing_pos x
  have hle : 2 ^ 52 ≤ |x / spacing x| := by
    rw [abs_div, abs_of_pos hpos, le_div_iff₀ hpos]
    exact spacing_le_abs hx
  rw [le_abs]
  rcases le_abs.mp hle with h | h
  · exact .inl (le_nearestEven_of_lt (by push_cast; linarith))
  · right
    have hle := nearestEven_le_of_lt (x := x / spacing x) (m := -2 ^ 52) (by push_cast; linarith)
    linarith

/-- An even multiple of the spacing: with the carry it is a power of two, which has one bit only. -/
theorem hasEvenSignificand_roundNearest {x : ℚ} (hx : x ≠ 0)
    (h : Even (nearestEven (x / spacing x))) : HasEvenSignificand (roundNearest x) := by
  have hlo := le_abs_nearestEven_spacing hx
  rcases (abs_nearestEven_spacing_le x).lt_or_eq with hlt | hcarry
  · exact ⟨_, _, hlo, hlt, h, rfl⟩
  · have hdouble : (2 : ℚ) ^ (Int.log 2 |x| - 52 + 1) = spacing x * 2 := by
      rw [two_zpow_add, zpow_one, spacing]
    rcases eq_or_eq_neg_of_abs_eq hcarry with heq | heq
    · refine ⟨2 ^ 52, Int.log 2 |x| - 52 + 1, by norm_num, by norm_num, by decide, ?_⟩
      rw [roundNearest, heq, hdouble]
      push_cast
      ring
    · refine ⟨-2 ^ 52, Int.log 2 |x| - 52 + 1, by norm_num, by norm_num, by decide, ?_⟩
      rw [roundNearest, heq, hdouble]
      push_cast
      ring

@[simp] theorem roundNearest_zero : roundNearest 0 = 0 := by
  have hzero : nearestEven (0 : ℚ) = 0 := by simpa using nearestEven_intCast (K := ℚ) 0
  rw [roundNearest, zero_div, hzero, Int.cast_zero, zero_mul]

/-- **Rounding gives the nearest representable number**, of two the one with the even significand. -/
theorem isNearest_roundNearest (x : ℚ) : IsNearest x (roundNearest x) := by
  have hrep : Representable (roundNearest x) :=
    representable_mul_zpow (abs_nearestEven_spacing_le x) _
  rcases eq_or_ne x 0 with rfl | hx
  · refine ⟨hrep, fun hz => by simp, fun hz hne htie => absurd ?_ hne⟩
    simpa using htie
  refine ⟨hrep, fun hz => ?_, fun hz hne htie => ?_⟩
  · rcases hz.grid_spacing x with ⟨j, rfl⟩ | hsmall
    · exact abs_sub_roundNearest_le_grid x j
    · exact (abs_sub_roundNearest_lt hsmall hx).le
  · rcases hz.grid_spacing x with ⟨j, rfl⟩ | hsmall
    · apply hasEvenSignificand_roundNearest hx
      rw [roundNearest, abs_sub_mul (spacing_pos x), abs_sub_mul (spacing_pos x)] at htie
      exact even_nearestEven_of_tie (fun hj => hne (by rw [hj, roundNearest]))
        (mul_right_cancel₀ (spacing_pos x).ne' htie)
    · exact absurd htie (abs_sub_roundNearest_lt hsmall hx).ne'

/-! ## §4 What follows from being nearest -/

variable {x y z : ℚ}

/-- Of two numbers the upper one is nearer from the middle on. -/
theorem midpoint_le_of_nearer (hlt : z < y) (h : |x - y| ≤ |x - z|) : (y + z) / 2 ≤ x := by
  have hsq := sq_le_sq.mpr h
  by_contra! hx
  linarith [mul_pos (sub_pos.mpr hlt) (sub_pos.mpr hx)]

theorem le_midpoint_of_nearer (hlt : y < z) (h : |x - y| ≤ |x - z|) : x ≤ (y + z) / 2 := by
  have hsq := sq_le_sq.mpr h
  by_contra! hx
  linarith [mul_pos (sub_pos.mpr hlt) (sub_pos.mpr hx)]

theorem representable_roundNearest (x : ℚ) : Representable (roundNearest x) :=
  (isNearest_roundNearest x).representable

/-- Rounding does not carry a number past a representable one. -/
theorem roundNearest_le (hz : Representable z) (h : x ≤ z) : roundNearest x ≤ z := by
  by_contra! hlt
  linarith [midpoint_le_of_nearer hlt ((isNearest_roundNearest x).nearest hz)]

theorem le_roundNearest (hz : Representable z) (h : z ≤ x) : z ≤ roundNearest x := by
  by_contra! hlt
  linarith [le_midpoint_of_nearer hlt ((isNearest_roundNearest x).nearest hz)]

/-- Between two whole numbers a rounded number stays between them. -/
theorem roundNearest_mem_Icc {j k : ℤ} (hj : |j| ≤ 2 ^ 53) (hk : |k| ≤ 2 ^ 53)
    (h : x ∈ Set.Icc (j : ℚ) k) : roundNearest x ∈ Set.Icc (j : ℚ) k :=
  ⟨le_roundNearest (representable_intCast hj) h.1, roundNearest_le (representable_intCast hk) h.2⟩

theorem Representable.roundNearest_eq (h : Representable x) : roundNearest x = x :=
  le_antisymm (roundNearest_le h le_rfl) (le_roundNearest h le_rfl)

/-- Rounded the other way round, both numbers would lie in the middle of what they are rounded to. -/
theorem roundNearest_mono : Monotone roundNearest := by
  intro x y hxy
  by_contra! hlt
  have hx := midpoint_le_of_nearer hlt
    ((isNearest_roundNearest x).nearest (representable_roundNearest y))
  have hy := le_midpoint_of_nearer hlt
    ((isNearest_roundNearest y).nearest (representable_roundNearest x))
  have heq : x = y := by linarith
  rw [heq] at hlt
  exact lt_irrefl _ hlt

/-- On a grid of `2 ^ e` that needs no more than 53 bits at `x`, the error is at most half a step. -/
theorem abs_sub_roundNearest_le {e : ℤ} (h : |x| ≤ 2 ^ (e + 53)) :
    |x - roundNearest x| ≤ 2 ^ e / 2 := by
  have hpos := two_zpow_pos e
  have hbits : |nearestEven (x / 2 ^ e)| ≤ 2 ^ 53 := by
    apply abs_nearestEven_le
    rw [abs_div, abs_of_pos hpos, div_le_iff₀ hpos]
    calc |x| ≤ 2 ^ (e + 53) := h
      _ = (2 ^ 53 : ℤ) * 2 ^ e := by
          rw [two_zpow_add, mul_comm]
          norm_num
  calc |x - roundNearest x| ≤ |x - nearestEven (x / 2 ^ e) * 2 ^ e| :=
        (isNearest_roundNearest x).nearest (representable_mul_zpow hbits e)
    _ = |x / 2 ^ e - nearestEven (x / 2 ^ e)| * 2 ^ e := abs_sub_mul hpos x _
    _ ≤ 1 / 2 * 2 ^ e := mul_le_mul_of_nonneg_right (abs_sub_nearestEven_le _) hpos.le
    _ = 2 ^ e / 2 := by ring

/-- The error is at most one part in `2 ^ 53`. -/
theorem abs_sub_roundNearest_le_mul (x : ℚ) : |x - roundNearest x| ≤ |x| / 2 ^ 53 := by
  rcases eq_or_ne x 0 with rfl | hx
  · simp
  · have hsize : |x| ≤ 2 ^ (Int.log 2 |x| - 52 + 53) := by
      have hlt := abs_lt_spacing x
      rw [two_pow_mul_spacing] at hlt
      exact hlt.le
    have hle := spacing_le_abs hx
    calc |x - roundNearest x| ≤ spacing x / 2 := abs_sub_roundNearest_le hsize
      _ ≤ |x| / 2 ^ 53 := by linarith

theorem abs_roundNearest_le (x : ℚ) : |roundNearest x| ≤ |x| + |x| / 2 ^ 53 := by
  have herror := abs_sub_roundNearest_le_mul x
  rw [abs_sub_comm] at herror
  linarith [abs_sub_abs_le_abs_sub (roundNearest x) x]

end FlightAttitude
