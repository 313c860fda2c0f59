/-
# FlightAttitude.Proofs.Converter.Columns — what a column of a prepared stack owes to the others

A check that does not refuse either leaves a stack as it is or brings all of it to length one, and which
of the two is one decision over all columns (`Normalizes`). Under the checks that do not test that
decision is fixed, so there a column comes out as it does alone.

Under the check that warns it is not: one column that is off brings the columns to length one that pass
the test too. A column then comes out other than alone exactly if it passes and is not of length one
(`prepare_columnwise`).
-/
import FlightAttitude.Proofs.Converter.Prepare
import FlightAttitude.Proofs.Stack.Single

namespace FlightAttitude

namespace Quaternion

theorem normalize_eq_self_iff {q : Quaternion ℝ} (hq : q ≠ 0) : q.normalize = q ↔ q.norm = 1 := by
  constructor
  · intro same
    rw [← same]
    exact norm_normalize hq
  · exact normalize_of_norm_eq_one

theorem norm_scalar (w : ℝ) : (⟨0, 0, 0, w⟩ : Quaternion ℝ).norm = |w| := by
  rw [norm, sqrt_eq, normSq_eq]
  simp [Real.sqrt_sq_eq_abs]

end Quaternion

namespace Converter

variable {c : Converter ℝ} {t : ℝ} {s : Shape} {q : Tensor ℝ (4 :: s)} {check : UnitCheck}

/-! ## §1 One decision -/

/-- **`Normalizes check t q`** — the check brings the stack `q` to length one at the tolerance `t`. -/
def Normalizes (check : UnitCheck) (t : ℝ) (q : Tensor ℝ (4 :: s)) : Prop :=
  check = .normalize ∨ (check = .warn ∧ ¬ UnitWithin t q)

theorem prepare_of_normalizes (htol : c.tolerance = .ok (.scalar (Stack.upTo t)))
    (h : Normalizes c.check t q) :
    (c.prepare (.ok ⟨4 :: s, q⟩)).result = .ok ⟨4 :: s, normalColumns q⟩ := by
  have answer := prepare_prepared htol q
  generalize c.prepare (.ok ⟨4 :: s, q⟩) = r, c.check = check at answer h
  cases answer with
  | normalized | warned => rfl
  | passedWarn within => simp [Normalizes, within] at h
  | ignored | passedRaise | refused => simp [Normalizes] at h

theorem prepare_of_not_normalizes (htol : c.tolerance = .ok (.scalar (Stack.upTo t)))
    (hcheck : c.check ≠ .raise) (h : ¬ Normalizes c.check t q) :
    (c.prepare (.ok ⟨4 :: s, q⟩)).result = .ok ⟨4 :: s, q⟩ := by
  have answer := prepare_prepared htol q
  generalize c.prepare (.ok ⟨4 :: s, q⟩) = r, c.check = check at answer h hcheck
  cases answer with
  | ignored | passedWarn => rfl
  | normalized => simp [Normalizes] at h
  | warned off => simp [Normalizes, off] at h
  | passedRaise | refused => exact absurd rfl hcheck

/-! ## §2 A column and the same quaternion alone -/

/-- **`single x`** — the stack of no axes. -/
def single (x : Quaternion ℝ) : Tensor ℝ [4] :=
  .ofColumns fun _ => x

theorem unitWithin_single (x : Quaternion ℝ) : UnitWithin t (single x) ↔ |x.norm - 1| ≤ t := by
  constructor
  · intro within
    exact within ()
  · rintro within ⟨⟩
    exact within

theorem normalizes_single (x : Quaternion ℝ) :
    Normalizes check t (single x) ↔ check = .normalize ∨ (check = .warn ∧ t < |x.norm - 1|) := by
  rw [Normalizes, unitWithin_single, not_le]

/-- A column that is brought to length one alone is brought to it in the stack. -/
theorem Normalizes.of_single {p : Position s} (h : Normalizes check t (single (q.column p))) :
    Normalizes check t q := by
  rcases (normalizes_single _).mp h with always | ⟨warns, off⟩
  · exact Or.inl always
  · exact Or.inr ⟨warns, not_unitWithin_iff.mpr ⟨p, off⟩⟩

/-- A stack is brought to length one for another column where this one alone is left as it is. -/
theorem normalizes_not_single_iff {p : Position s} :
    (Normalizes check t q ∧ ¬ Normalizes check t (single (q.column p))) ↔
      check = .warn ∧ |(q.column p).norm - 1| ≤ t ∧ ∃ p', t < |(q.column p').norm - 1| := by
  rw [normalizes_single, Normalizes, not_unitWithin_iff]
  constructor
  · rintro ⟨always | ⟨warns, off⟩, kept⟩
    · exact absurd (Or.inl always) kept
    · exact ⟨warns, not_lt.mp fun offHere => kept (Or.inr ⟨warns, offHere⟩), off⟩
  · rintro ⟨rfl, within, off⟩
    refine ⟨Or.inr ⟨rfl, off⟩, ?_⟩
    rintro (always | ⟨_, offHere⟩)
    · cases always
    · exact absurd within (not_le.mpr offHere)

theorem prepare_toGrid_of_normalizes (htol : c.tolerance = .ok (.scalar (Stack.upTo t)))
    {x : Quaternion ℝ} (h : Normalizes c.check t (single x)) :
    (c.prepare x.toGrid).result = .ok x.normalize.toGrid :=
  prepare_of_normalizes htol h

theorem prepare_toGrid_of_not_normalizes (htol : c.tolerance = .ok (.scalar (Stack.upTo t)))
    (hcheck : c.check ≠ .raise) {x : Quaternion ℝ} (h : ¬ Normalizes c.check t (single x)) :
    (c.prepare x.toGrid).result = .ok x.toGrid :=
  prepare_of_not_normalizes htol hcheck h

/-- **A prepared column is the quaternion prepared alone**, whatever the other columns hold, but for one
case: the check warns, the column passes its test without being of length one, and another column does not
pass. The stack is judged as a whole, and then that column too is brought to length one. -/
theorem prepare_columnwise (htol : c.tolerance = .ok (.scalar (Stack.upTo t)))
    (hcheck : c.check ≠ .raise) (hq : ∀ p, q.column p ≠ 0) :
    ∃ r : Tensor ℝ (4 :: s), (c.prepare (.ok ⟨4 :: s, q⟩)).result = .ok ⟨4 :: s, r⟩ ∧
      ∀ p, ∃ u : Quaternion ℝ, (c.prepare (q.column p).toGrid).result = .ok u.toGrid ∧
        (r.column p = u ↔
          ¬ (c.check = .warn ∧ |(q.column p).norm - 1| ≤ t ∧ (q.column p).norm ≠ 1 ∧
            ∃ p', t < |(q.column p').norm - 1|)) ∧
        (r.column p ≠ u → u = q.column p ∧ r.column p = (q.column p).normalize) := by
  by_cases h : Normalizes c.check t q
  · refine ⟨normalColumns q, prepare_of_normalizes htol h, ?_⟩
    intro p
    rw [normalColumns, Tensor.column_ofColumns]
    by_cases alone : Normalizes c.check t (single (q.column p))
    · refine ⟨_, prepare_toGrid_of_normalizes htol alone, ?_, fun other => absurd rfl other⟩
      refine iff_of_true rfl ?_
      rintro ⟨warns, within, -, off⟩
      exact (normalizes_not_single_iff.mpr ⟨warns, within, off⟩).2 alone
    · refine ⟨_, prepare_toGrid_of_not_normalizes htol hcheck alone, ?_, fun _ => ⟨rfl, rfl⟩⟩
      obtain ⟨warns, within, off⟩ := normalizes_not_single_iff.mp ⟨h, alone⟩
      rw [Quaternion.normalize_eq_self_iff (hq p)]
      simp only [warns, within, off, true_and, and_true, not_not]
  · refine ⟨q, prepare_of_not_normalizes htol hcheck h, ?_⟩
    intro p
    have alone : ¬ Normalizes c.check t (single (q.column p)) := mt Normalizes.of_single h
    refine ⟨_, prepare_toGrid_of_not_normalizes htol hcheck alone, ?_, fun other => absurd rfl other⟩
    refine iff_of_true rfl ?_
    rintro ⟨warns, within, -, off⟩
    exact h (normalizes_not_single_iff.mpr ⟨warns, within, off⟩).1

/-- **`lenient`** — warns, and accepts a length that is off by one. -/
noncomputable def lenient : Converter ℝ :=
  ⟨.warn, .ok (.scalar (Stack.upTo 1)), false, .ok none⟩

/-- **`twoAndFour`** — two columns, of these lengths. -/
noncomputable def twoAndFour : Tensor ℝ [4, 2] :=
  .ofColumns fun p => ⟨0, 0, 0, if p.1.val = 0 then two else two + two⟩

theorem column_twoAndFour_zero : twoAndFour.column (0, ()) = ⟨0, 0, 0, 2⟩ := by
  rw [twoAndFour, Tensor.column_ofColumns, if_pos (by decide), two_eq]

theorem norm_twoAndFour_zero : (twoAndFour.column (0, ())).norm = 2 := by
  rw [column_twoAndFour_zero, Quaternion.norm_scalar, abs_two]

theorem off_twoAndFour_one : 1 < |(twoAndFour.column (1, ())).norm - 1| := by
  rw [twoAndFour, Tensor.column_ofColumns, if_neg (by decide), two_eq, Quaternion.norm_scalar]
  norm_num

/-- The second column comes out as it does alone, the first does not. -/
theorem prepare_columnwise_two_and_four :
    (∀ p, twoAndFour.column p ≠ 0) ∧ lenient.check ≠ .raise ∧
    ∃ r : Tensor ℝ [4, 2], (lenient.prepare (.ok ⟨[4, 2], twoAndFour⟩)).result = .ok ⟨[4, 2], r⟩ ∧
      (∃ u : Quaternion ℝ, (lenient.prepare (twoAndFour.column (1, ())).toGrid).result =
        .ok u.toGrid ∧ r.column (1, ()) = u) ∧
      ∃ u : Quaternion ℝ, (lenient.prepare (twoAndFour.column (0, ())).toGrid).result =
        .ok u.toGrid ∧ r.column (0, ()) ≠ u := by
  have nonzero : ∀ p, twoAndFour.column p ≠ 0 := by
    intro p
    rw [twoAndFour, Tensor.column_ofColumns, Quaternion.zero_def, two_eq]
    split_ifs <;> norm_num
  have warns : lenient.check ≠ .raise := by decide
  obtain ⟨r, prepared, columns⟩ := prepare_columnwise (c := lenient) rfl warns nonzero
  refine ⟨nonzero, warns, r, prepared, ?_, ?_⟩
  · obtain ⟨u, alone, same, -⟩ := columns (1, ())
    refine ⟨u, alone, same.mpr ?_⟩
    rintro ⟨-, within, -⟩
    exact absurd within (not_le.mpr off_twoAndFour_one)
  · obtain ⟨u, alone, same, -⟩ := columns (0, ())
    refine ⟨u, alone, mt same.mp (not_not.mpr ⟨rfl, ?_, ?_, (1, ()), off_twoAndFour_one⟩)⟩
    · rw [norm_twoAndFour_zero]
      norm_num
    · rw [norm_twoAndFour_zero]
      norm_num

/-- A column that passes the test is brought to length one for its neighbour. -/
theorem prepare_not_columnwise :
    ∃ r : Tensor ℝ [4, 2], (lenient.prepare (.ok ⟨[4, 2], twoAndFour⟩)).result = .ok ⟨[4, 2], r⟩ ∧
      r.column (0, ()) = .identity ∧
      (lenient.prepare (twoAndFour.column (0, ())).toGrid).result =
        .ok (⟨0, 0, 0, 2⟩ : Quaternion ℝ).toGrid := by
  have passes : lenient.check = .warn ∧ |(twoAndFour.column (0, ())).norm - 1| ≤ 1 ∧
      ∃ p, 1 < |(twoAndFour.column p).norm - 1| := by
    refine ⟨rfl, ?_, (1, ()), off_twoAndFour_one⟩
    rw [norm_twoAndFour_zero]
    norm_num
  obtain ⟨stack, alone⟩ := normalizes_not_single_iff.mpr passes
  refine ⟨_, prepare_of_normalizes rfl stack, ?_, ?_⟩
  · rw [normalColumns, Tensor.column_ofColumns, Quaternion.normalize_eq, norm_twoAndFour_zero,
      column_twoAndFour_zero, Quaternion.scale_def, Quaternion.identity]
    norm_num
  · rw [← column_twoAndFour_zero]
    exact prepare_toGrid_of_not_normalizes rfl (by decide) alone

end Converter

end FlightAttitude
