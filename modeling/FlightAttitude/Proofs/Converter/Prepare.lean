/-
# FlightAttitude.Proofs.Converter.Prepare — what preparing a stack promises

`Prepared` is the table of what `Converter.prepare` can answer for a stack of quaternions, one row for
each check and verdict, with the whole report in each row (`prepare_prepared`). What preparing promises
is read off the table: a stack is refused or warned about for one column that is off, what comes out is
within the tolerance and turns as what went in, and preparing it once more changes nothing
(`prepare_contract`).

The second run needs a column of length one to pass the test even where the tolerance is zero, so
lengths are taken over the reals, and no column is zero.
-/
import FlightAttitude.Converter
import FlightAttitude.Proofs.Quaternion.Length
import FlightAttitude.Proofs.Stack.Columns

namespace FlightAttitude.Converter

variable {c : Converter ℝ} {t : ℝ} {s : Shape} {q : Tensor ℝ (4 :: s)}

/-! ## §1 The verdict on a stack -/

/-- **`UnitWithin t q`** — every column is of length one, up to `t`. -/
def UnitWithin (t : ℝ) (q : Tensor ℝ (4 :: s)) : Prop :=
  ∀ p, |(q.column p).norm - 1| ≤ t

theorem not_unitWithin_iff : ¬ UnitWithin t q ↔ ∃ p, t < |(q.column p).norm - 1| := by
  simp only [UnitWithin, not_forall, not_le]

theorem unitWithin_of_unit (ht : 0 ≤ t) (hq : ∀ p, (q.column p).norm = 1) : UnitWithin t q := by
  intro p
  rw [hq p, sub_self, abs_zero]
  exact ht

/-- The verdicts on the columns, taken together, decide between two reports. -/
theorem judge_eq [Decidable (UnitWithin t q)] (htol : c.tolerance = .ok (.scalar (Stack.upTo t)))
    (pass off : Report (Grid ℝ)) :
    (Report.ofExcept (Stack.areUnit (.ok ⟨4 :: s, q⟩) c.tolerance)).bind
      (fun verdicts => if verdicts.toList.all id then pass else off) =
        if UnitWithin t q then pass else off := by
  have all : (Grid.mk s (.ofFn fun p => decide ((q.column p).offUnit ≤ t))).toList.all id = true ↔
      UnitWithin t q := by
    rw [Grid.toList, Tensor.all_toList_iff]
    simp only [Tensor.get_ofFn, id_eq, decide_eq_true_eq, Quaternion.offUnit_eq, UnitWithin]
  rw [htol, Stack.areUnit_columns, Report.ofExcept, Report.bind_ok]
  exact if_congr all rfl rfl

/-! ## §2 The normal form of a stack -/

/-- **`normalColumns q`** — every column at length one. -/
noncomputable def normalColumns (q : Tensor ℝ (4 :: s)) : Tensor ℝ (4 :: s) :=
  .ofColumns fun p => (q.column p).normalize

theorem norm_column_normalColumns (hq : ∀ p, q.column p ≠ 0) (p : Position s) :
    ((normalColumns q).column p).norm = 1 := by
  rw [normalColumns, Tensor.column_ofColumns]
  exact Quaternion.norm_normalize (hq p)

theorem column_normalColumns (hq : ∀ p, q.column p ≠ 0) (p : Position s) :
    ∃ k > 0, (normalColumns q).column p = (q.column p).scale k := by
  refine ⟨(q.column p).norm⁻¹, inv_pos.mpr (Quaternion.norm_pos (hq p)), ?_⟩
  rw [normalColumns, Tensor.column_ofColumns]
  exact Quaternion.normalize_eq _

theorem normalColumns_of_unit (hq : ∀ p, (q.column p).norm = 1) : normalColumns q = q := by
  have same : (fun p => (q.column p).normalize) = q.column :=
    funext fun p => Quaternion.normalize_of_norm_eq_one (hq p)
  rw [normalColumns, same, Tensor.ofColumns_column]

theorem normalize_eq_normalColumns (q : Tensor ℝ (4 :: s)) :
    Stack.normalize (.ok ⟨4 :: s, q⟩) = ⟨[], .ok ⟨4 :: s, normalColumns q⟩⟩ :=
  Stack.normalize_columns fun _ => rfl

/-! ## §3 The answers -/

/-- **`Prepared t q check r`** — `r` is the answer of `check` to the stack `q` at the tolerance `t`. -/
inductive Prepared (t : ℝ) (q : Tensor ℝ (4 :: s)) : UnitCheck → Report (Grid ℝ) → Prop where
  | ignored : Prepared t q .ignore ⟨[], .ok ⟨4 :: s, q⟩⟩
  | normalized : Prepared t q .normalize ⟨[], .ok ⟨4 :: s, normalColumns q⟩⟩
  | passedWarn (within : UnitWithin t q) : Prepared t q .warn ⟨[], .ok ⟨4 :: s, q⟩⟩
  | warned (off : ¬ UnitWithin t q) :
      Prepared t q .warn ⟨[.normalizing], .ok ⟨4 :: s, normalColumns q⟩⟩
  | passedRaise (within : UnitWithin t q) : Prepared t q .raise ⟨[], .ok ⟨4 :: s, q⟩⟩
  | refused (off : ¬ UnitWithin t q) : Prepared t q .raise ⟨[], .error .nonUnit⟩

theorem prepare_prepared (htol : c.tolerance = .ok (.scalar (Stack.upTo t)))
    (q : Tensor ℝ (4 :: s)) : Prepared t q c.check (c.prepare (.ok ⟨4 :: s, q⟩)) := by
  -- lengths are real numbers, so the verdict is not one that can be computed
  classical
  unfold prepare
  cases c.check with
  | ignore => exact .ignored
  | normalize =>
    change Prepared t q .normalize (Report.bind ⟨[], .ok _⟩ fun _ => Stack.normalize _)
    rw [Report.bind_ok, normalize_eq_normalColumns]
    exact .normalized
  | warn =>
    change Prepared t q .warn (Report.bind (Report.ofExcept (Stack.areUnit _ _)) _)
    rw [judge_eq htol]
    split_ifs with within
    · exact .passedWarn within
    · rw [normalize_eq_normalColumns]
      exact .warned within
  | raise =>
    change Prepared t q .raise (Report.bind (Report.ofExcept (Stack.areUnit _ _)) _)
    rw [judge_eq htol]
    split_ifs with within
    · exact .passedRaise within
    · exact .refused within

namespace Prepared

variable {check : UnitCheck} {r : Report (Grid ℝ)}

/-- The only fault is that of a stack with a column that is off. -/
theorem error_iff (answer : Prepared t q check r) (f : Fault) :
    r.result = .error f ↔ f = .nonUnit ∧ check = .raise ∧ ¬ UnitWithin t q := by
  cases answer with
  | ignored | normalized | passedWarn | warned => simp
  | passedRaise within => simp [within]
  | refused off => simp [off, eq_comm]

theorem notices_of_off (answer : Prepared t q check r) (hcheck : check = .warn)
    (off : ¬ UnitWithin t q) : r.notices = [.normalizing] := by
  subst hcheck
  cases answer with
  | passedWarn within => exact absurd within off
  | warned => rfl

theorem notices_eq_nil (answer : Prepared t q check r)
    (h : ¬ (check = .warn ∧ ¬ UnitWithin t q)) : r.notices = [] := by
  cases answer with
  | warned off => exact absurd ⟨rfl, off⟩ h
  | ignored | normalized | passedWarn | passedRaise | refused => rfl

/-- What a check lets through passed the test as it stands, or it is the normal form. -/
theorem eq_or_eq_normalColumns (answer : Prepared t q check r) (hcheck : check ≠ .ignore)
    {a : Grid ℝ} (ha : r.result = .ok a) :
    (UnitWithin t q ∧ r = ⟨[], .ok a⟩ ∧ a = ⟨4 :: s, q⟩) ∨ a = ⟨4 :: s, normalColumns q⟩ := by
  cases answer with
  | ignored => exact absurd rfl hcheck
  | passedWarn within | passedRaise within =>
    cases ha
    exact Or.inl ⟨within, rfl, rfl⟩
  | normalized | warned =>
    cases ha
    exact Or.inr rfl
  | refused => cases ha

end Prepared

/-- A stack of columns of length one goes through every check as it is. -/
theorem prepare_of_unit (ht : 0 ≤ t) (htol : c.tolerance = .ok (.scalar (Stack.upTo t)))
    (hq : ∀ p, (q.column p).norm = 1) : c.prepare (.ok ⟨4 :: s, q⟩) = ⟨[], .ok ⟨4 :: s, q⟩⟩ := by
  -- length one is within every tolerance, so the rows with a column that is off do not apply
  have within := unitWithin_of_unit ht hq
  have answer := prepare_prepared htol q
  generalize c.prepare (.ok ⟨4 :: s, q⟩) = r, c.check = check at answer
  cases answer with
  | ignored | passedWarn | passedRaise => rfl
  | normalized => rw [normalColumns_of_unit hq]
  | warned off | refused off => exact absurd within off

/-! ## §4 The promise -/

/-- What comes out is within the tolerance, turns as what went in, and comes out again. -/
theorem prepare_ok (ht : 0 ≤ t) (htol : c.tolerance = .ok (.scalar (Stack.upTo t)))
    (hcheck : c.check ≠ .ignore) (hq : ∀ p, q.column p ≠ 0) {a : Grid ℝ}
    (ha : (c.prepare (.ok ⟨4 :: s, q⟩)).result = .ok a) :
    ∃ r : Tensor ℝ (4 :: s), a = ⟨4 :: s, r⟩ ∧
      (UnitWithin t r ∧ ∀ p, ∃ k > 0, r.column p = (q.column p).scale k) ∧
      c.prepare (.ok a) = ⟨[], .ok a⟩ := by
  rcases (prepare_prepared htol q).eq_or_eq_normalColumns hcheck ha with
    ⟨within, again, rfl⟩ | rfl
  · -- nothing was changed, so the second run is the first
    refine ⟨q, rfl, ⟨within, fun p => ⟨1, one_pos, ?_⟩⟩, again⟩
    rw [Quaternion.scale_one]
  · -- what was normalized has length one exactly, which no check touches again
    have unit := norm_column_normalColumns hq
    exact ⟨normalColumns q, rfl, ⟨unitWithin_of_unit ht unit, column_normalColumns hq⟩,
      prepare_of_unit ht htol unit⟩

/-- **Preparing a stack.** It is refused exactly by the check that refuses and for a column that is off;
one warning is given exactly by the check that warns and for such a column; and what comes out has
columns within the tolerance that are positive multiples of those that went in, and is prepared
already. -/
theorem prepare_contract (ht : 0 ≤ t) (htol : c.tolerance = .ok (.scalar (Stack.upTo t)))
    (hcheck : c.check ≠ .ignore) (hq : ∀ p, q.column p ≠ 0) :
    (∀ f, (c.prepare (.ok ⟨4 :: s, q⟩)).result = .error f ↔
      f = .nonUnit ∧ c.check = .raise ∧ ∃ p, t < |(q.column p).norm - 1|) ∧
    ((c.check = .warn ∧ ∃ p, t < |(q.column p).norm - 1|) →
      (c.prepare (.ok ⟨4 :: s, q⟩)).notices = [.normalizing]) ∧
    (¬ (c.check = .warn ∧ ∃ p, t < |(q.column p).norm - 1|) →
      (c.prepare (.ok ⟨4 :: s, q⟩)).notices = []) ∧
    ∀ a, (c.prepare (.ok ⟨4 :: s, q⟩)).result = .ok a →
      ∃ r : Tensor ℝ (4 :: s), a = ⟨4 :: s, r⟩ ∧
        (∀ p, |(r.column p).norm - 1| ≤ t ∧ ∃ k > 0, r.column p = (q.column p).scale k) ∧
        c.prepare (.ok a) = ⟨[], .ok a⟩ := by
  have answer := prepare_prepared htol q
  rw [← not_unitWithin_iff]
  refine ⟨answer.error_iff, fun h => answer.notices_of_off h.1 h.2, answer.notices_eq_nil, ?_⟩
  intro a ha
  obtain ⟨r, hr, ⟨within, scaled⟩, again⟩ := prepare_ok ht htol hcheck hq ha
  exact ⟨r, hr, fun p => ⟨within p, scaled p⟩, again⟩

/-- **`strict check`** — no length but one is accepted. -/
noncomputable def strict (check : UnitCheck) : Converter ℝ :=
  ⟨check, .ok (.scalar (Stack.upTo 0)), false, .ok none⟩

/-- **`secondTwice`** — two columns, the second of length two. -/
noncomputable def secondTwice : Tensor ℝ [4, 2] :=
  .ofColumns fun p => if p.1.val = 0 then .identity else ⟨0, 0, 0, two⟩

/-- One column that is off is enough, at the tolerance zero too. -/
theorem prepare_contract_second_twice :
    ((strict .raise).prepare (.ok ⟨[4, 2], secondTwice⟩)).result = .error .nonUnit ∧
    ((strict .warn).prepare (.ok ⟨[4, 2], secondTwice⟩)).notices = [.normalizing] := by
  have nonzero : ∀ p, secondTwice.column p ≠ 0 := by
    intro p
    rw [secondTwice, Tensor.column_ofColumns, Quaternion.zero_def, two_eq]
    split_ifs <;> simp [Quaternion.identity]
  have second : secondTwice.column (1, ()) = ⟨0, 0, 0, 2⟩ := by
    rw [secondTwice, Tensor.column_ofColumns, if_neg (by decide), two_eq]
  have off : ∃ p, 0 < |(secondTwice.column p).norm - 1| := by
    refine ⟨(1, ()), ?_⟩
    rw [second, abs_pos, sub_ne_zero, Ne, Quaternion.norm_eq_one_iff, Quaternion.normSq_eq]
    norm_num
  have refuses := prepare_contract (c := strict .raise) le_rfl rfl (by decide) nonzero
  have warns := prepare_contract (c := strict .warn) le_rfl rfl (by decide) nonzero
  exact ⟨(refuses.1 .nonUnit).mpr ⟨rfl, rfl, off⟩, warns.2.1 ⟨rfl, off⟩⟩

end FlightAttitude.Converter
