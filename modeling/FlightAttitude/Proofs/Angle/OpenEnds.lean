/-
# FlightAttitude.Proofs.Angle.OpenEnds — the open ends of the wraps under rounding

A half-open range is at risk where rounding can move a result onto the end that is left out.

The unsigned wrap is safe under every monotone rounding that keeps zero and one turn
(`wrapUnsigned_openEnd`). Its remainder is exact; the one sum that is rounded cannot pass one turn, and
what reaches it is folded to zero.

The signed wrap has no such fold, and it does not keep its range. Up to `2 ^ 55` it adds whole turns
without an error, but it may add one too many: that happens exactly where `180 - a` is rounded up to a
number of whole turns that it falls short of (`ReachesTurn`), and then the result is just above `180`.
Between `-180` and `2 ^ 55` there is one such number, the neighbour of `-180` (`reachesTurn_iff`).
Beyond `2 ^ 55` the turns themselves are rounded, and the result is in the range up to an error in
proportion to the angle (`abs_wrapSigned_le`).
-/
import FlightAttitude.Proofs.Angle.Circle
import FlightAttitude.Proofs.Scalar.Nearest
import FlightAttitude.Proofs.Scalar.Rounded
import FlightAttitude.Stack.Vectors

namespace FlightAttitude

namespace Angle

open Rounded

/-! ## §1 The unsigned wrap -/

section Unsigned

variable {rnd : ℚ → ℚ} {a : ℚ}

theorem value_wrapUnsigned_of_nonneg (h : 0 ≤ remainder a 360) :
    (wrapUnsigned (of rnd a)).value = wrapUnsigned a := by
  have hfold : ¬ 360 ≤ remainder a 360 := not_le.mpr (remainder_turn_mem a).2
  rw [wrapUnsigned_of_nonneg h]
  simp only [wrapUnsigned, lt_iff, le_iff, value_of, value_remainder, value_fullTurn, value_zero,
    if_neg (not_lt.mpr h), hfold, false_and, if_false]

theorem value_wrapUnsigned_of_neg (h : remainder a 360 < 0) :
    (wrapUnsigned (of rnd a)).value =
      if rnd (wrapUnsigned a) = 360 then 0 else rnd (wrapUnsigned a) := by
  have hfold (s : ℚ) : (360 ≤ s ∧ s ≤ 360) ↔ s = 360 := by rw [← le_antisymm_iff, eq_comm]
  rw [wrapUnsigned_of_neg h]
  simp only [wrapUnsigned, lt_iff, le_iff, value_of, value_add, value_remainder, value_fullTurn,
    value_zero, if_pos h, hfold, apply_ite Rounded.value]

/-- **The unsigned wrap keeps its open end under rounding.** Where the remainder is negative the residue
is rounded, and only what is rounded up to a whole turn is folded. -/
theorem wrapUnsigned_openEnd (hmono : Monotone rnd) (hzero : rnd 0 = 0) (hturn : rnd 360 = 360)
    (a : ℚ) :
    ∃ r : ℚ, Stack.wrapUnsigned (.ok (.scalar (of rnd a))) = .ok (.scalar (of rnd r)) ∧
      r ∈ Set.Ico 0 360 ∧
      (0 ≤ remainder a 360 → r = toIcoMod turn_pos 0 a) ∧
      (remainder a 360 < 0 →
        r = if rnd (toIcoMod turn_pos 0 a) = 360 then 0 else rnd (toIcoMod turn_pos 0 a)) := by
  rw [← wrapUnsigned_eq_toIcoMod]
  obtain ⟨hlo, hhi⟩ := wrapUnsigned_mem a
  refine ⟨(wrapUnsigned (of rnd a)).value, rfl, ?_, value_wrapUnsigned_of_nonneg,
    value_wrapUnsigned_of_neg⟩
  rcases le_or_gt 0 (remainder a 360) with h | h
  · rw [value_wrapUnsigned_of_nonneg h]
    exact ⟨hlo, hhi⟩
  · have hnonneg : 0 ≤ rnd (wrapUnsigned a) := hzero ▸ hmono hlo
    have hle : rnd (wrapUnsigned a) ≤ 360 := hturn ▸ hmono hhi.le
    rw [value_wrapUnsigned_of_neg h]
    split_ifs with hfull
    · exact ⟨le_rfl, turn_pos⟩
    · exact ⟨hnonneg, lt_of_le_of_ne hle hfull⟩

/-- A tiny negative angle is rounded up to one turn, and folded. -/
theorem wrapUnsigned_openEnd_tiny :
    (Monotone roundNearest ∧ roundNearest 0 = 0 ∧ roundNearest 360 = 360) ∧
    ∃ r : ℚ, Stack.wrapUnsigned (.ok (.scalar (of roundNearest (-2 ^ (-60 : ℤ))))) =
        .ok (.scalar (of roundNearest r)) ∧ r = 0 := by
  have hturn : roundNearest 360 = 360 := by decide +kernel
  obtain ⟨r, hanswer, -, -, hneg⟩ :=
    wrapUnsigned_openEnd roundNearest_mono roundNearest_zero hturn (-2 ^ (-60 : ℤ))
  refine ⟨⟨roundNearest_mono, roundNearest_zero, hturn⟩, r, hanswer, ?_⟩
  have hresidue : toIcoMod turn_pos 0 (-2 ^ (-60 : ℤ) : ℚ) = 360 - 2 ^ (-60 : ℤ) := by
    rw [← wrapUnsigned_eq_toIcoMod]
    decide +kernel
  have hround : roundNearest (360 - 2 ^ (-60 : ℤ)) = 360 := by decide +kernel
  rw [hneg (by decide +kernel), hresidue, if_pos hround]

end Unsigned

/-! ## §2 Counting turns -/

variable {a : ℚ} {k : ℤ}

/-- **`turns a`** — the turns that the signed wrap adds over exact numbers. -/
def turns (a : ℚ) : ℤ := ⌊(180 - a) / 360⌋

/-- **`roundedTurns a`** — the turns that it adds when the difference and the quotient are rounded. -/
def roundedTurns (a : ℚ) : ℤ := ⌊roundNearest (roundNearest (180 - a) / 360)⌋

/-- **`ReachesTurn a`** — the distance of `a` from the upper end falls short of a number of whole turns,
and is rounded up to it. -/
def ReachesTurn (a : ℚ) : Prop :=
  ∃ k : ℤ, 180 - a < 360 * k ∧ roundNearest (180 - a) = 360 * k

theorem wrapSigned_eq_turns (a : ℚ) : wrapSigned a = a + 360 * turns a := wrapSigned_eq a

theorem value_wrapSigned (a : ℚ) : (wrapSigned (of roundNearest a)).value =
    roundNearest (a + roundNearest (360 * roundedTurns a)) := by
  simp only [wrapSigned, value_of, value_add, value_mul, value_fullTurn, value_floor, value_div,
    value_sub, value_halfTurn, roundedTurns]

theorem turns_mem (a : ℚ) : 360 * turns a ≤ 180 - a ∧ 180 - a < 360 * (turns a + 1) := by
  obtain ⟨hlo, hhi⟩ := wrapSigned_mem a
  rw [wrapSigned_eq_turns] at hlo hhi
  constructor <;> linarith

/-- One turn is `45 · 2 ^ 3`, so small numbers of turns are exact. -/
theorem representable_turns (h : |k| ≤ 2 ^ 47) : Representable (360 * k) := by
  have hbits : |45 * k| ≤ 2 ^ 53 := by
    rw [abs_mul, abs_of_pos (by norm_num)]
    linarith
  have heq : (360 * k : ℚ) = (45 * k : ℤ) * 2 ^ (3 : ℤ) := by
    push_cast
    ring
  rw [heq]
  exact representable_mul_zpow hbits 3

theorem abs_turns_le (h : |a| ≤ 2 ^ 55) : |turns a| ≤ 2 ^ 47 ∧ |turns a + 1| ≤ 2 ^ 47 := by
  obtain ⟨hlo, hhi⟩ := turns_mem a
  obtain ⟨hneg, hpos⟩ := abs_le.mp h
  have hlower : -2 ^ 47 ≤ turns a := by
    have hcast : (-2 ^ 47 : ℚ) ≤ turns a := by linarith
    exact_mod_cast hcast
  have hupper : turns a + 1 ≤ 2 ^ 47 := by
    have hcast : (turns a + 1 : ℚ) ≤ 2 ^ 47 := by linarith
    exact_mod_cast hcast
  constructor <;> rw [abs_le] <;> constructor <;> omega

/-- Below a number of turns, the next representable number is `2 ^ 8` of the spacings at that number
away. -/
theorem le_turns_sub {d : ℚ} (hk : |k| ≤ 2 ^ 47) (hne : (k : ℚ) ≠ 0) (hd : Representable d)
    (h : d < 360 * k) : d ≤ 360 * k - 2 ^ 8 * spacing (k : ℚ) := by
  have hpos := spacing_pos (k : ℚ)
  have hle := spacing_le_abs hne
  have hturns : |360 * (k : ℚ)| = 360 * |(k : ℚ)| := by rw [abs_mul, abs_of_pos turn_pos]
  have hsize : 2 ^ (Int.log 2 |(k : ℚ)| - 52 + (8 : ℕ) + 52) = 2 ^ 60 * spacing (k : ℚ) := by
    rw [two_pow_mul_spacing]
    congr 1
    push_cast
    ring
  have hcases := hd.le_sub_of_lt (representable_turns hk)
    (by rw [hsize, hturns]; linarith) h
  rw [← two_pow_mul_spacing, hsize] at hcases
  rcases hcases with hgap | hsmall
  · exact hgap
  -- what is smaller than all numbers of that size is far below `360 * k`, or not below it at all
  · obtain ⟨hlo, hhi⟩ := abs_lt.mp hsmall
    rcases abs_cases (k : ℚ) with ⟨habs, -⟩ | ⟨habs, -⟩ <;> rw [habs] at hle <;> linarith

/-- Division by a turn does not reach a whole number from below: the neighbours of a number of turns
are wider apart, in proportion, than those of the number. -/
theorem roundNearest_div_lt {d : ℚ} (hk : |k| ≤ 2 ^ 47) (hd : Representable d) (h : d < 360 * k) :
    roundNearest (d / 360) < k := by
  rcases eq_or_ne k 0 with rfl | hne
  · -- below zero there is no last number: the quotient stays below a number of its own size
    push_cast at h ⊢
    have hquotient : d / 360 ≤ d * 2 ^ (-9 : ℤ) := by
      norm_num
      linarith
    have hbelow : d * 2 ^ (-9 : ℤ) < 0 := mul_neg_of_neg_of_pos (by linarith) (two_zpow_pos _)
    exact (roundNearest_le (hd.mul_zpow (-9)) hquotient).trans_lt hbelow
  · have hcast : (k : ℚ) ≠ 0 := Int.cast_ne_zero.mpr hne
    have hwhole : Representable (k : ℚ) := representable_intCast (by linarith)
    have hgap := le_turns_sub hk hcast hd h
    by_contra! hle
    have hpos := spacing_pos (k : ℚ)
    have hmiddle := midpoint_le_of_nearer (by linarith)
      ((isNearest_roundNearest (d / 360)).nearest (hwhole.sub_spacing hcast))
    linarith

/-- The rounded distance from the upper end stays between the two numbers of turns that the exact one is
between. -/
theorem roundNearest_distance_mem (h : |a| ≤ 2 ^ 55) :
    360 * turns a ≤ roundNearest (180 - a) ∧ roundNearest (180 - a) ≤ 360 * (turns a + 1) := by
  obtain ⟨hlo, hhi⟩ := turns_mem a
  obtain ⟨hcount, hnext⟩ := abs_turns_le h
  have hupper := representable_turns hnext
  push_cast at hupper
  exact ⟨le_roundNearest (representable_turns hcount) hlo, roundNearest_le hupper hhi.le⟩

/-- So there is only one number of turns to reach. -/
theorem reachesTurn_iff_eq (h : |a| ≤ 2 ^ 55) :
    ReachesTurn a ↔ roundNearest (180 - a) = 360 * (turns a + 1) := by
  obtain ⟨hlo, hhi⟩ := turns_mem a
  constructor
  · rintro ⟨k, hshort, hreach⟩
    have hle := (roundNearest_distance_mem h).2
    have hmore : turns a < k := by
      have hcast : (turns a : ℚ) < k := by linarith
      exact_mod_cast hcast
    have hmost : k ≤ turns a + 1 := by
      have hcast : (k : ℚ) ≤ turns a + 1 := by linarith
      exact_mod_cast hcast
    rw [hreach, le_antisymm hmost hmore]
    push_cast
    rfl
  · intro hreach
    exact ⟨turns a + 1, by push_cast; exact hhi, by push_cast; exact hreach⟩

/-- **One turn too many is added where a number of turns is reached, and nowhere else.** -/
theorem roundedTurns_of_reachesTurn (h : |a| ≤ 2 ^ 55) (hreach : ReachesTurn a) :
    roundedTurns a = turns a + 1 := by
  have hnext := (abs_turns_le h).2
  have hwhole : Representable ((turns a + 1 : ℤ) : ℚ) := representable_intCast (by linarith)
  have hquotient : roundNearest (180 - a) / 360 = (turns a + 1 : ℤ) := by
    rw [(reachesTurn_iff_eq h).mp hreach, mul_div_cancel_left₀ _ turn_pos.ne']
    push_cast
    rfl
  rw [roundedTurns, hquotient, hwhole.roundNearest_eq, Int.floor_intCast]

theorem roundedTurns_of_not_reachesTurn (h : |a| ≤ 2 ^ 55) (hfree : ¬ ReachesTurn a) :
    roundedTurns a = turns a := by
  obtain ⟨hcount, hnext⟩ := abs_turns_le h
  obtain ⟨hlo, hhi⟩ := roundNearest_distance_mem h
  have hwhole : Representable (turns a : ℚ) := representable_intCast (by linarith)
  have hbelow : roundNearest (180 - a) < 360 * (turns a + 1) :=
    lt_of_le_of_ne hhi fun heq => hfree ((reachesTurn_iff_eq h).mpr heq)
  have hlower : (turns a : ℚ) ≤ roundNearest (roundNearest (180 - a) / 360) :=
    le_roundNearest hwhole (by rw [le_div_iff₀ turn_pos]; linarith)
  have hupper := roundNearest_div_lt hnext (representable_roundNearest (180 - a))
    (by push_cast; exact hbelow)
  push_cast at hupper
  exact Int.floor_eq_iff.mpr ⟨hlower, hupper⟩

/-! ## §3 The signed wrap -/

/-- The distance from the upper end is rounded by at most four degrees. -/
theorem abs_distance_sub_le (h : |a| ≤ 2 ^ 55) :
    |180 - a - roundNearest (180 - a)| ≤ 4 := by
  obtain ⟨hlo, hhi⟩ := abs_le.mp h
  have hsize : |180 - a| ≤ 2 ^ ((3 : ℤ) + 53) := by
    norm_num at hlo hhi ⊢
    rw [abs_le]
    constructor <;> linarith
  calc |180 - a - roundNearest (180 - a)| ≤ 2 ^ (3 : ℤ) / 2 := abs_sub_roundNearest_le hsize
    _ = 4 := by norm_num

/-- With one turn too many, the result is above the range by no more than the distance was rounded. -/
theorem add_roundedTurns_mem (h : |a| ≤ 2 ^ 55) :
    -180 < a + 360 * roundedTurns a ∧ a + 360 * roundedTurns a ≤ 184 := by
  obtain ⟨hlo, hhi⟩ := turns_mem a
  by_cases hreach : ReachesTurn a
  -- the distance was rounded up to the turns that are added
  · have herror := (abs_le.mp (abs_distance_sub_le h)).1
    rw [(reachesTurn_iff_eq h).mp hreach] at herror
    rw [roundedTurns_of_reachesTurn h hreach]
    push_cast
    constructor <;> linarith
  · rw [roundedTurns_of_not_reachesTurn h hreach]
    constructor <;> linarith

/-- Close to zero no turns are added, whether or not the distance is rounded. -/
theorem roundedTurns_of_small (h : |a| < 2 ^ 7) : roundedTurns a = 0 := by
  obtain ⟨hlo, hhi⟩ := abs_lt.mp h
  have hsize : |a| ≤ 2 ^ 55 := by linarith
  have hcount : turns a = 0 := by
    refine Int.floor_eq_iff.mpr ⟨?_, ?_⟩
    · rw [le_div_iff₀ turn_pos]
      push_cast
      linarith
    · rw [div_lt_iff₀ turn_pos]
      push_cast
      linarith
  have hfree : ¬ ReachesTurn a := by
    rw [reachesTurn_iff_eq hsize, hcount]
    have hle : roundNearest (180 - a) ≤ (308 : ℤ) :=
      roundNearest_le (representable_intCast (by norm_num)) (by push_cast; linarith)
    push_cast at hle ⊢
    intro heq
    linarith
  rw [roundedTurns_of_not_reachesTurn hsize hfree, hcount]

/-- **The turns are added without an error**: of a larger angle the result keeps the last bit. -/
theorem representable_add_roundedTurns (ha : Representable a) (h : |a| ≤ 2 ^ 55) :
    Representable (a + 360 * roundedTurns a) := by
  -- what is off this grid is less than `128` in size, and no turns are added to it
  rcases ha.grid_or_small (-45) with ⟨j, hj⟩ | hsmall
  · obtain ⟨hlo, hhi⟩ := add_roundedTurns_mem h
    have hgrid : a + 360 * roundedTurns a =
        (j + 360 * 2 ^ 45 * roundedTurns a : ℤ) * 2 ^ (-45 : ℤ) := by
      rw [hj]
      push_cast
      norm_num
      ring
    refine representable_of_grid hgrid ?_
    norm_num
    rw [abs_le]
    constructor <;> linarith
  · rw [roundedTurns_of_small (by norm_num at hsmall ⊢; exact hsmall)]
    simpa using ha

theorem value_wrapSigned_of_le (ha : Representable a) (h : |a| ≤ 2 ^ 55) :
    (wrapSigned (of roundNearest a)).value = a + 360 * roundedTurns a := by
  have hexact : Representable (360 * (roundedTurns a : ℚ)) := by
    apply representable_turns
    obtain ⟨hcount, hnext⟩ := abs_turns_le h
    by_cases hreach : ReachesTurn a
    · rwa [roundedTurns_of_reachesTurn h hreach]
    · rwa [roundedTurns_of_not_reachesTurn h hreach]
  rw [value_wrapSigned, hexact.roundNearest_eq, (representable_add_roundedTurns ha h).roundNearest_eq]

theorem value_wrapSigned_le (ha : Representable a) (h : |a| ≤ 2 ^ 55) :
    (wrapSigned (of roundNearest a)).value ≤ 184 := by
  rw [value_wrapSigned_of_le ha h]
  exact (add_roundedTurns_mem h).2

theorem value_wrapSigned_of_not_reachesTurn (ha : Representable a) (h : |a| ≤ 2 ^ 55)
    (hfree : ¬ ReachesTurn a) : (wrapSigned (of roundNearest a)).value = wrapSigned a := by
  rw [value_wrapSigned_of_le ha h, roundedTurns_of_not_reachesTurn h hfree, wrapSigned_eq_turns]

theorem value_wrapSigned_of_reachesTurn (ha : Representable a) (h : |a| ≤ 2 ^ 55)
    (hreach : ReachesTurn a) : (wrapSigned (of roundNearest a)).value = wrapSigned a + 360 := by
  rw [value_wrapSigned_of_le ha h, roundedTurns_of_reachesTurn h hreach, wrapSigned_eq_turns]
  push_cast
  ring

/-! ### Where a number of turns is reached -/

/-- Past a half turn the distance from the upper end is on the grid of the angle, so it is exact. -/
theorem representable_distance (ha : Representable a) (hlo : 180 ≤ a) (hhi : a ≤ 2 ^ 55) :
    Representable (180 - a) := by
  have hsize : |180 - a| ≤ a := by
    rw [abs_of_nonpos (by linarith)]
    linarith
  obtain ⟨m, e, hm, rfl⟩ := ha
  -- `180` is `45 · 2 ^ 2`: the difference is on the finer one of the two grids
  rcases le_or_gt e 2 with hfine | hcoarse
  · have hgrid : 180 - m * 2 ^ e = (45 * 2 ^ (2 - e).toNat - m : ℤ) * (2 : ℚ) ^ e := by
      have hhalf : (180 : ℚ) = 45 * 2 ^ (2 : ℤ) := by norm_num
      rw [hhalf, two_zpow_of_le hfine]
      push_cast
      ring
    have hbits : (m : ℚ) ≤ 2 ^ 53 := by exact_mod_cast ((le_abs_self m).trans hm.le)
    refine representable_of_grid hgrid (hsize.trans ?_)
    calc (m : ℚ) * 2 ^ e ≤ 2 ^ 53 * 2 ^ e := mul_le_mul_of_nonneg_right hbits (two_zpow_pos e).le
      _ = 2 ^ (e + 53) := by
          rw [two_zpow_add, mul_comm]
          norm_num
  · have hgrid : 180 - m * 2 ^ e = (45 - m * 2 ^ (e - 2).toNat : ℤ) * (2 : ℚ) ^ (2 : ℤ) := by
      rw [two_zpow_of_le hcoarse.le]
      push_cast
      ring
    refine representable_of_grid hgrid (hsize.trans ?_)
    norm_num
    linarith

/-- Next to the open end, the distance falls short of one turn by too little to be told from it. -/
theorem eq_next_of_reached (ha : Representable a) (hlo : -180 < a)
    (hreach : 360 ≤ roundNearest (180 - a)) : a = -180 + 2 ^ (-45 : ℤ) := by
  have hbelow : a < -180 + 2 ^ (-44 : ℤ) := by
    by_contra! hfar
    have hlast : Representable (360 - 2 ^ (-44 : ℤ)) :=
      representable_of_grid (j := 360 * 2 ^ 44 - 1) (e := -44) (by norm_num) (by norm_num)
    linarith [roundNearest_le hlast (x := 180 - a) (by linarith), two_zpow_pos (-44)]
  have hsecond : Representable (-180 + 2 ^ (-44 : ℤ)) :=
    ⟨-180 * 2 ^ 44 + 1, -44, by norm_num, by norm_num⟩
  have hsize : (2 : ℚ) ^ ((-45 : ℤ) + 52) ≤ |-180 + 2 ^ (-44 : ℤ)| := by norm_num [abs_of_neg]
  rcases ha.eq_or_le_of_lt hsecond hsize hbelow with hnext | hend | hsmall
  · rw [hnext]
    norm_num
  · norm_num at hend
    linarith
  · have hfar := (abs_lt.mp hsmall).1
    norm_num at hfar hbelow
    linarith

/-- From `-180` on there is one such angle, the next one above: half way between `360` and its neighbour
below, the distance is rounded to `360`, which is even. -/
theorem reachesTurn_iff (ha : Representable a) (hlo : -180 ≤ a) (hhi : a ≤ 2 ^ 55) :
    ReachesTurn a ↔ a = -180 + 2 ^ (-45 : ℤ) := by
  constructor
  · rintro ⟨k, hshort, hreach⟩
    rcases lt_or_ge 180 a with hpast | hwithin
    · rw [(representable_distance ha hpast.le hhi).roundNearest_eq] at hreach
      linarith
    · -- the distance is in `[0, 360]`, so one turn is the only one it can fall short of
      have hfirst : (1 : ℚ) ≤ k := by
        have hpos : (0 : ℚ) < k := by linarith
        exact_mod_cast hpos
      have hturn : Representable ((360 : ℤ) : ℚ) := representable_intCast (by norm_num)
      have hle := roundNearest_le hturn (x := 180 - a) (by push_cast; linarith)
      push_cast at hle
      exact eq_next_of_reached ha (by linarith) (by linarith)
  · rintro rfl
    exact ⟨1, by norm_num, by decide +kernel⟩

/-! ### The error at any size -/

/-- What the two roundings before the floor leave of the counted turns: the distance, and up to one turn
that the floor cuts off. -/
theorem roundedTurns_mem (a : ℚ) :
    -360 - (2 + 1 / 2 ^ 53) * |180 - a| / 2 ^ 53 ≤ 360 * roundedTurns a - (180 - a) ∧
      360 * roundedTurns a - (180 - a) ≤ (2 + 1 / 2 ^ 53) * |180 - a| / 2 ^ 53 := by
  have hdistance := abs_le.mp (abs_sub_roundNearest_le_mul (180 - a))
  have hsize := abs_roundNearest_le (180 - a)
  have hquotient := abs_sub_roundNearest_le_mul (roundNearest (180 - a) / 360)
  rw [abs_le, abs_div, abs_of_pos (turn_pos (K := ℚ))] at hquotient
  have hfloor : (roundedTurns a : ℚ) ≤ roundNearest (roundNearest (180 - a) / 360) :=
    Int.floor_le _
  have hnext : roundNearest (roundNearest (180 - a) / 360) < roundedTurns a + 1 :=
    Int.lt_floor_add_one _
  constructor <;> linarith

/-- **At any size the result is in the range up to an error in proportion to the angle.** -/
theorem abs_wrapSigned_le (a : ℚ) :
    |(wrapSigned (of roundNearest a)).value| ≤ 180 + (|a| + 360) / 2 ^ 51 := by
  have hdistance : |180 - a| ≤ |a| + 180 := by
    rw [abs_le]
    constructor <;> linarith [le_abs_self a, neg_abs_le a]
  obtain ⟨hlo, hhi⟩ := roundedTurns_mem a
  have hturns : |(360 * roundedTurns a : ℚ)| ≤ 360 + (1 + 1 / 2 ^ 51) * |180 - a| := by
    rw [abs_le]
    constructor <;> linarith [le_abs_self (180 - a), neg_abs_le (180 - a), abs_nonneg (180 - a)]
  have hproduct := abs_le.mp (abs_sub_roundNearest_le_mul (360 * roundedTurns a))
  have hsum : |a + roundNearest (360 * roundedTurns a)| ≤
      180 + (|360 * (roundedTurns a : ℚ)| + (2 + 1 / 2 ^ 53) * |180 - a|) / 2 ^ 53 := by
    rw [abs_le]
    constructor <;> linarith
  rw [value_wrapSigned]
  linarith [abs_roundNearest_le (a + roundNearest (360 * roundedTurns a)), abs_nonneg (180 - a)]

/-! ### What is answered -/

/-- **The signed wrap under rounding.** Up to `2 ^ 55` in size it is exact and in its range, or it has
added one turn too many and is just above the range; the second happens exactly where a number of turns
is reached, which from `-180` on is one angle only. -/
theorem wrapSigned_openEnd (ha : Representable a) :
    ∃ r : ℚ, Stack.wrapSigned (.ok (.scalar (of roundNearest a))) =
        .ok (.scalar (of roundNearest r)) ∧
      (|a| ≤ 2 ^ 55 →
        (¬ ReachesTurn a → r = wrapSigned a ∧ r ∈ Set.Ioc (-180) 180) ∧
        (ReachesTurn a → r = wrapSigned a + 360 ∧ r ∈ Set.Ioc 180 184)) ∧
      (-180 ≤ a → a ≤ 2 ^ 55 → (r ∈ Set.Ioc (-180) 180 ↔ a ≠ -180 + 2 ^ (-45 : ℤ))) ∧
      |r| ≤ 180 + (|a| + 360) / 2 ^ 51 := by
  have hwhole (h : |a| ≤ 2 ^ 55) :
      (¬ ReachesTurn a → (wrapSigned (of roundNearest a)).value = wrapSigned a ∧
        (wrapSigned (of roundNearest a)).value ∈ Set.Ioc (-180) 180) ∧
      (ReachesTurn a → (wrapSigned (of roundNearest a)).value = wrapSigned a + 360 ∧
        (wrapSigned (of roundNearest a)).value ∈ Set.Ioc 180 184) := by
    obtain ⟨hlo, hhi⟩ := wrapSigned_mem a
    constructor
    · intro hfree
      rw [value_wrapSigned_of_not_reachesTurn ha h hfree]
      exact ⟨rfl, hlo, hhi⟩
    · intro hreach
      have hupper := value_wrapSigned_le ha h
      have hvalue := value_wrapSigned_of_reachesTurn ha h hreach
      exact ⟨hvalue, by linarith, hupper⟩
  refine ⟨(wrapSigned (of roundNearest a)).value, rfl, hwhole, fun hlo hhi => ?_,
    abs_wrapSigned_le a⟩
  obtain ⟨hfree, hreach⟩ := hwhole (abs_le.mpr ⟨by linarith, hhi⟩)
  rw [ne_eq, ← reachesTurn_iff ha hlo hhi]
  constructor
  · intro hmem hturn
    exact absurd hmem.2 (not_le.mpr (hreach hturn).2.1)
  · exact fun hturn => (hfree hturn).2

/-- Two and a half turns below zero the distance from the upper end passes `2 ^ 10` and loses a bit. -/
theorem wrapSigned_openEnd_third_turn :
    Representable (-900 + 2 ^ (-43 : ℤ)) ∧ ReachesTurn (-900 + 2 ^ (-43 : ℤ)) ∧
    ∃ r : ℚ, Stack.wrapSigned (.ok (.scalar (of roundNearest (-900 + 2 ^ (-43 : ℤ))))) =
        .ok (.scalar (of roundNearest r)) ∧
      r = wrapSigned (-900 + 2 ^ (-43 : ℤ)) + 360 ∧ r ∈ Set.Ioc 180 184 := by
  have hrep : Representable (-900 + 2 ^ (-43 : ℤ)) :=
    ⟨-900 * 2 ^ 43 + 1, -43, by norm_num, by norm_num⟩
  have hreach : ReachesTurn (-900 + 2 ^ (-43 : ℤ)) := ⟨3, by norm_num, by decide +kernel⟩
  obtain ⟨r, hanswer, hwhole, -⟩ := wrapSigned_openEnd hrep
  have hsize : |(-900 + 2 ^ (-43 : ℤ) : ℚ)| ≤ 2 ^ 55 := by norm_num [abs_of_neg]
  exact ⟨hrep, hreach, r, hanswer, (hwhole hsize).2 hreach⟩

/-- The range is left next to its open end, and far away from zero, where a turn is less than the
distance of neighbours. -/
theorem wrapSigned_leaves_range :
    (Representable (-180 + 2 ^ (-45 : ℤ)) ∧
      wrapSigned (of roundNearest (-180 + 2 ^ (-45 : ℤ))) = of roundNearest (180 + 2 ^ (-45 : ℤ)) ∧
      (180 + 2 ^ (-45 : ℤ) : ℚ) ∉ Set.Ioc (-180) 180) ∧
    Representable (2 ^ 61) ∧ wrapSigned (of roundNearest (2 ^ 61)) = of roundNearest 256 ∧
      (256 : ℚ) ∉ Set.Ioc (-180) 180 := by
  refine ⟨⟨⟨-180 * 2 ^ 45 + 1, -45, by norm_num, by norm_num⟩, by decide +kernel, ?_⟩,
    ⟨1, 61, by norm_num, by norm_num⟩, by decide +kernel, ?_⟩
  · norm_num
  · norm_num

end Angle

end FlightAttitude
