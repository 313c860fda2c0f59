/-
# FlightAttitude.Proofs.Angle.Rounding — rounding to decimal places over exact numbers

The nearest integer is off by at most a half (`abs_sub_nearestEven_le`), so rounding never carries a
number past an integer. Scaled by a power of ten this says that rounding to `n` places is off by at most
half a step of the grid (`abs_roundPlaces_sub_le`), leaves the numbers of `n` places as they are
(`roundPlaces_of_grid`), and keeps every bound that is itself such a number (`roundPlaces_le`,
`le_roundPlaces`).

A right angle is such a number for every `n` from `-1` on. With three digits or more cut off before the
point, all that is within a right angle rounds to zero. What is left is `n = -2`: hundreds, of which a
right angle is none, and what is above fifty rounds up to a hundred (`abs_roundPlaces_hundreds`).
-/
import FlightAttitude.Proofs.Scalar.Exact

namespace FlightAttitude

universe u

namespace Angle

variable {K : Type u} [Field K] [LinearOrder K] [FloorRing K]

/-! ## §1 Places as powers of ten -/

/-- Whichever way the scale goes, it is the power of ten. -/
theorem roundPlaces_eq (n : ℤ) (x : K) :
    roundPlaces n x = nearestEven (x * 10 ^ n) / (10 : K) ^ n := by
  cases n with
  | ofNat n =>
    show nearest (x * powTen n) / powTen n = _
    rw [nearest_eq, powTen_eq, Int.ofNat_eq_natCast, zpow_natCast]
  | negSucc n =>
    show nearest (x / powTen (n + 1)) * powTen (n + 1) = _
    rw [nearest_eq, powTen_eq, zpow_negSucc, ← div_eq_mul_inv, div_inv_eq_mul]

/-- From tens on, a right angle is a number of `n` places. -/
theorem right_angle_mul_pow {n : ℤ} (hn : -1 ≤ n) :
    (90 : K) * 10 ^ n = (9 * 10 ^ (n + 1).toNat : ℤ) := by
  have hten : (10 : K) ≠ 0 := by norm_num
  have hpow : (10 : K) ^ (n + 1) = 10 ^ (n + 1).toNat := by
    rw [← zpow_natCast, Int.toNat_of_nonneg (by omega)]
  push_cast
  rw [← hpow, zpow_add_one₀ hten]
  ring

end Angle

variable {K : Type u} [Field K] [LinearOrder K] [IsStrictOrderedRing K] [FloorRing K]

/-! ## §2 The nearest integer -/

theorem abs_sub_nearestEven_le (x : K) : |x - nearestEven x| ≤ 1 / 2 := by
  have hfloor : x = ⌊x⌋ + Int.fract x := (Int.floor_add_fract x).symm
  have hlo := Int.fract_nonneg x
  have hhi := Int.fract_lt_one x
  unfold nearestEven
  rw [abs_le]
  split_ifs <;> push_cast <;> constructor <;> linarith

/-- The error is too small to reach the next integer from below the half before it. -/
theorem nearestEven_le_of_lt {x : K} {m : ℤ} (h : x < m + 1 / 2) : nearestEven x ≤ m := by
  have hnear := (abs_le.mp (abs_sub_nearestEven_le x)).1
  have hlt : (nearestEven x : K) < (m + 1 : ℤ) := by
    push_cast
    linarith
  exact Int.lt_add_one_iff.mp (Int.cast_lt.mp hlt)

theorem le_nearestEven_of_lt {x : K} {m : ℤ} (h : m - 1 / 2 < x) : m ≤ nearestEven x := by
  have hnear := (abs_le.mp (abs_sub_nearestEven_le x)).2
  have hlt : ((m - 1 : ℤ) : K) < nearestEven x := by
    push_cast
    linarith
  exact Int.sub_one_lt_iff.mp (Int.cast_lt.mp hlt)

/-- An integer nearer than a half is the nearest. -/
theorem nearestEven_eq_of_lt {x : K} {m : ℤ} (h : |x - m| < 1 / 2) : nearestEven x = m := by
  obtain ⟨hlo, hhi⟩ := abs_lt.mp h
  apply le_antisymm
  · exact nearestEven_le_of_lt (by linarith)
  · exact le_nearestEven_of_lt (by linarith)

/-- No integer is nearer. -/
theorem abs_sub_nearestEven_le_abs_sub (x : K) (j : ℤ) : |x - nearestEven x| ≤ |x - j| := by
  rcases lt_or_ge |x - j| (1 / 2) with h | h
  · rw [nearestEven_eq_of_lt h]
  · exact (abs_sub_nearestEven_le x).trans h

/-- Two integers are equally near only where both are a half away. -/
theorem even_nearestEven_of_tie {x : K} {j : ℤ} (hne : j ≠ nearestEven x)
    (htie : |x - j| = |x - nearestEven x|) : Even (nearestEven x) := by
  have hhalf : 1 / 2 ≤ |x - nearestEven x| := by
    rw [← htie]
    exact not_lt.mp fun h => hne (nearestEven_eq_of_lt h).symm
  have hfloor : x = ⌊x⌋ + Int.fract x := (Int.floor_add_fract x).symm
  have hlo := Int.fract_nonneg x
  have hhi := Int.fract_lt_one x
  revert hhalf
  unfold nearestEven
  split_ifs with hbelow habove heven
  · rw [abs_of_nonneg (by linarith)]
    intro hhalf
    linarith
  · push_cast
    rw [abs_of_nonpos (by linarith)]
    intro hhalf
    linarith
  · exact fun _ => heven
  · exact fun _ => (Int.not_even_iff_odd.mp heven).add_one

theorem nearestEven_intCast (m : ℤ) : nearestEven (m : K) = m :=
  nearestEven_eq_of_lt (by norm_num)

theorem abs_nearestEven_le {x : K} {m : ℤ} (h : |x| ≤ m) : |nearestEven x| ≤ m := by
  obtain ⟨hlo, hhi⟩ := abs_le.mp h
  rw [abs_le]
  constructor
  · exact le_nearestEven_of_lt (by push_cast; linarith)
  · exact nearestEven_le_of_lt (by linarith)

/-- Zero is even, so it also takes both halves beside it. -/
theorem nearestEven_eq_zero {x : K} (h : |x| ≤ 1 / 2) : nearestEven x = 0 := by
  obtain ⟨hlo, hhi⟩ := abs_le.mp h
  rcases le_or_gt 0 x with hx | hx
  · have hfloor : ⌊x⌋ = 0 := Int.floor_eq_zero_iff.mpr ⟨hx, by linarith⟩
    have hfract : Int.fract x = x := by rw [Int.fract, hfloor, Int.cast_zero, sub_zero]
    rw [nearestEven, hfloor, hfract, if_neg (not_lt.mpr hhi), if_pos Even.zero, ite_self]
  · have hfloor : ⌊x⌋ = -1 := by
      rw [Int.floor_eq_iff]
      push_cast
      constructor <;> linarith
    have hfract : Int.fract x = x + 1 := by
      rw [Int.fract, hfloor]
      norm_num
    -- the lower neighbour is odd, so it is taken neither below a half nor at it
    have hodd : ¬ Even (-1 : ℤ) := by decide
    rw [nearestEven, hfloor, hfract, if_neg (by linarith), if_neg hodd, neg_add_cancel, ite_self]

namespace Angle

/-! ## §3 The grid of `n` places -/

theorem pow_ten_pos (n : ℤ) : (0 : K) < 10 ^ n := zpow_pos (by norm_num) n

/-- Scaled back, the error is half a step of the grid. -/
theorem abs_roundPlaces_sub_le (n : ℤ) (x : K) : |roundPlaces n x - x| ≤ 1 / 2 * 10 ^ (-n) := by
  have hten := pow_ten_pos (K := K) n
  have herror : roundPlaces n x - x = -(x * 10 ^ n - nearestEven (x * 10 ^ n)) / 10 ^ n := by
    rw [roundPlaces_eq]
    field_simp
    ring
  rw [herror, abs_div, abs_neg, abs_of_pos hten, zpow_neg, ← div_eq_mul_inv,
    div_le_div_iff_of_pos_right hten]
  exact abs_sub_nearestEven_le _

theorem exists_roundPlaces_mul_pow (n : ℤ) (x : K) : ∃ m : ℤ, roundPlaces n x * 10 ^ n = m :=
  ⟨nearestEven (x * 10 ^ n), by rw [roundPlaces_eq, div_mul_cancel₀ _ (pow_ten_pos n).ne']⟩

theorem roundPlaces_of_grid {n m : ℤ} {x : K} (h : x * 10 ^ n = m) : roundPlaces n x = x := by
  rw [roundPlaces_eq, h, nearestEven_intCast, ← h, mul_div_cancel_right₀ _ (pow_ten_pos n).ne']

/-! ## §4 Bounds that rounding keeps -/

theorem roundPlaces_le {n m : ℤ} {x b : K} (hb : b * 10 ^ n = m) (h : x ≤ b) :
    roundPlaces n x ≤ b := by
  have hten := pow_ten_pos (K := K) n
  have hscaled : x * 10 ^ n ≤ m := hb ▸ mul_le_mul_of_nonneg_right h hten.le
  rw [roundPlaces_eq, div_le_iff₀ hten, hb, Int.cast_le]
  exact nearestEven_le_of_lt (by linarith)

theorem le_roundPlaces {n m : ℤ} {x b : K} (hb : b * 10 ^ n = m) (h : b ≤ x) :
    b ≤ roundPlaces n x := by
  have hten := pow_ten_pos (K := K) n
  have hscaled : m ≤ x * 10 ^ n := hb ▸ mul_le_mul_of_nonneg_right h hten.le
  rw [roundPlaces_eq, le_div_iff₀ hten, hb, Int.cast_le]
  exact le_nearestEven_of_lt (by linarith)

theorem roundPlaces_eq_zero {n : ℤ} {x : K} (h : |x| * 10 ^ n ≤ 1 / 2) : roundPlaces n x = 0 := by
  have hten := pow_ten_pos (K := K) n
  have hscaled : |x * 10 ^ n| ≤ 1 / 2 := by rwa [abs_mul, abs_of_pos hten]
  rw [roundPlaces_eq, nearestEven_eq_zero hscaled, Int.cast_zero, zero_div]

theorem roundPlaces_eq_of_lt {n m : ℤ} {x : K} (h : |x * 10 ^ n - m| < 1 / 2) :
    roundPlaces n x = m / 10 ^ n := by
  rw [roundPlaces_eq, nearestEven_eq_of_lt h]

/-! ## §5 Angles within a right angle -/

theorem roundPlaces_mem_of_right_angle {n : ℤ} (hn : -1 ≤ n) {x : K} (hx : -90 ≤ x ∧ x ≤ 90) :
    -90 ≤ roundPlaces n x ∧ roundPlaces n x ≤ 90 := by
  have hgrid := right_angle_mul_pow (K := K) hn
  have hneg : (-90 : K) * 10 ^ n = (-(9 * 10 ^ (n + 1).toNat) : ℤ) := by
    rw [neg_mul, hgrid, Int.cast_neg]
  exact ⟨le_roundPlaces hneg hx.1, roundPlaces_le hgrid hx.2⟩

/-- Thousands are too coarse for a right angle. -/
theorem roundPlaces_eq_zero_of_right_angle {n : ℤ} (hn : n ≤ -3) {x : K} (hx : |x| ≤ 90) :
    roundPlaces n x = 0 := by
  have hten := pow_ten_pos (K := K) n
  have hpow : (10 : K) ^ n ≤ 1 / 1000 :=
    calc (10 : K) ^ n ≤ 10 ^ (-3 : ℤ) := zpow_le_zpow_right₀ (by norm_num) hn
      _ = 1 / 1000 := by norm_num
  apply roundPlaces_eq_zero
  calc |x| * 10 ^ n ≤ 90 * (1 / 1000) := mul_le_mul hx hpow hten.le (by norm_num)
    _ ≤ 1 / 2 := by norm_num

/-- **Rounding to hundreds**: what is above fifty goes to a hundred, away from zero. -/
theorem abs_roundPlaces_hundreds {x : K} (hlo : 50 < |x|) (hhi : |x| ≤ 90) :
    |roundPlaces (-2) x| = 100 := by
  have hpow : (10 : K) ^ (-2 : ℤ) = 1 / 100 := by norm_num
  rcases abs_cases x with ⟨habs, _⟩ | ⟨habs, _⟩
  · have hnear : |x * 10 ^ (-2 : ℤ) - (1 : ℤ)| < 1 / 2 := by
      rw [hpow, Int.cast_one, abs_lt]
      constructor <;> linarith
    rw [roundPlaces_eq_of_lt hnear, hpow]
    norm_num
  · have hnear : |x * 10 ^ (-2 : ℤ) - (-1 : ℤ)| < 1 / 2 := by
      rw [hpow, Int.cast_neg, Int.cast_one, abs_lt]
      constructor <;> linarith
    rw [roundPlaces_eq_of_lt hnear, hpow]
    norm_num

theorem roundPlaces_hundreds_eq_zero {x : K} (hx : |x| ≤ 50) : roundPlaces (-2) x = 0 := by
  have hpow : (10 : K) ^ (-2 : ℤ) = 1 / 100 := by norm_num
  apply roundPlaces_eq_zero
  rw [hpow]
  linarith

/-- **A right angle is kept by every rounding but that to hundreds**, and by that one up to fifty. -/
theorem roundPlaces_mem {n : ℤ} {x : K} (hx : |x| ≤ 90) (h : n ≠ -2 ∨ |x| ≤ 50) :
    -90 ≤ roundPlaces n x ∧ roundPlaces n x ≤ 90 := by
  -- for `n` from `-1` on the bound is on the grid; below, everything goes to zero
  rcases le_or_gt (-1) n with hn | hn
  · exact roundPlaces_mem_of_right_angle hn (abs_le.mp hx)
  · have hzero : roundPlaces n x = 0 := by
      rcases eq_or_ne n (-2) with rfl | hne
      · exact roundPlaces_hundreds_eq_zero (h.resolve_left fun hne => hne rfl)
      · exact roundPlaces_eq_zero_of_right_angle (by omega) hx
    rw [hzero]
    norm_num

end Angle

end FlightAttitude
