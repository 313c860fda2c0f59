/-
# FlightAttitude.Proofs.Converter.Scale — a converter that normalizes sees rotations only

The quaternions on one line through the origin stand for one rotation. The functions on stacks do not
know that: the clip and the test for gimbal lock look at entries that grow with the square of the length,
and the inverse keeps the length it is given. A converter that brings every quaternion to length one
before it converts is left with two quaternions for each line, and these have the same matrix; so its
angles are those of the rotation, and of a factor the inverse keeps the sign alone (`scale_invariant`).
-/
import FlightAttitude.Proofs.Converter.Single
import FlightAttitude.Proofs.Quaternion.Length

namespace FlightAttitude

/-- All quaternions on one line have one matrix once they are normalized. -/
theorem Quaternion.toMatrix_normalize_scale {k : ℝ} (hk : k ≠ 0) (q : Quaternion ℝ) :
    (q.scale k).normalize.toMatrix = q.normalize.toMatrix := by
  rcases normalize_scale_eq_or hk q with h | h
  · rw [h]
  · rw [h, toMatrix_neg]

theorem Quaternion.inverse_normalize_scale {k : ℝ} (hk : k ≠ 0) (q : Quaternion ℝ) :
    (q.scale k).normalize.inverse = q.normalize.inverse.scale (signum k) := by
  rw [normalize_scale hk, inverse_scale]

namespace Converter

variable {c : Converter ℝ} {q : Quaternion ℝ} {k : ℝ}

theorem eulerAngles_scale (hcheck : c.check = .normalize) (hk : k ≠ 0) (q : Quaternion ℝ)
    (order : Datum) :
    c.eulerAngles order (q.scale k).toGrid = c.eulerAngles order q.toGrid := by
  rw [eulerAngles_of_prepare (prepare_toGrid_of_normalize hcheck _),
    eulerAngles_of_prepare (prepare_toGrid_of_normalize hcheck _),
    Stack.eulerAngles_congr (Quaternion.toMatrix_normalize_scale hk q)]

theorem attitudes_scale (hcheck : c.check = .normalize) (hk : k ≠ 0) (q : Quaternion ℝ) :
    c.attitudes (q.scale k).toGrid = c.attitudes q.toGrid := by
  -- the places need not be known: both runs round the same angles, or fail on the same places
  have same : (q.scale k).normalize.attitude = q.normalize.attitude := by
    unfold Quaternion.attitude Quaternion.eulerAngles
    rw [Quaternion.toMatrix_normalize_scale hk]
  unfold attitudes
  rw [prepare_toGrid_of_normalize hcheck, prepare_toGrid_of_normalize hcheck, Report.silent_bind,
    Report.silent_bind, Stack.attitudes_toGrid, Stack.attitudes_toGrid, same]

/-- Only the sign of the factor is left in the inverse. -/
theorem inverses_scale (hcheck : c.check = .normalize) (hk : k ≠ 0) (q : Quaternion ℝ) :
    c.inverses (q.scale k).toGrid =
      ⟨[], .ok (q.normalize.inverse.scale (signum k)).toGrid⟩ := by
  rw [inverses_of_prepare (prepare_toGrid_of_normalize hcheck _),
    Quaternion.inverse_normalize_scale hk]

/-- What is prepared times what is answered as its inverse is the rotation by no angle. -/
theorem multiply_prepared_inverse (hq : q ≠ 0) :
    Stack.multiply (.ok q.normalize.toGrid) (.ok q.normalize.inverse.toGrid) =
      .ok Quaternion.identity.toGrid := by
  rw [Stack.multiply_toGrid, Quaternion.mul_inverse_of_norm_eq_one (Quaternion.norm_normalize hq)]

theorem exists_eulerAngles (hcheck : c.check = .normalize) {places : Option ℤ}
    (hplaces : c.places = .ok places) (q : Quaternion ℝ) :
    ∃ e, c.eulerAngles (.order .yzx) q.toGrid = ⟨[], .ok e⟩ := by
  rw [eulerAngles_of_prepare (prepare_toGrid_of_normalize hcheck _), Stack.eulerAngles_toGrid,
    Report.lift_ok_bind]
  unfold round
  rw [hplaces]
  cases places with
  | none => exact ⟨_, rfl⟩
  | some n => exact ⟨_, rfl⟩

/-- **Neither scale nor sign is seen.** Under the check that normalizes, a factor that is not zero
changes neither the Euler angles, in any order that is asked for, nor the flight attitude; both are
answered wherever the places are. The inverse takes the sign of the factor, and it is the inverse of
what was prepared. Of a quaternion of length one the sign alone makes no difference to the Euler
angles, gimbal lock or not. -/
theorem scale_invariant (hcheck : c.check = .normalize) (hq : q ≠ 0) (hk : k ≠ 0) :
    (∀ order, c.eulerAngles order (q.scale k).toGrid = c.eulerAngles order q.toGrid) ∧
    c.attitudes (q.scale k).toGrid = c.attitudes q.toGrid ∧
    (∀ places, c.places = .ok places →
      (∃ e, c.eulerAngles (.order .yzx) q.toGrid = ⟨[], .ok e⟩) ∧
      ∃ a, c.attitudes q.toGrid = ⟨[], .ok a⟩) ∧
    (∃ p i : Quaternion ℝ,
      c.prepare q.toGrid = ⟨[], .ok p.toGrid⟩ ∧
      c.inverses q.toGrid = ⟨[], .ok i.toGrid⟩ ∧
      c.inverses (q.scale k).toGrid = ⟨[], .ok (i.scale (signum k)).toGrid⟩ ∧
      Stack.multiply (.ok p.toGrid) (.ok i.toGrid) = .ok Quaternion.identity.toGrid) ∧
    ∀ u : Quaternion ℝ, u.norm = 1 → ∀ order,
      Stack.eulerAngles order (.ok (-u).toGrid) = Stack.eulerAngles order (.ok u.toGrid) := by
  have prepared := prepare_toGrid_of_normalize hcheck q
  refine ⟨eulerAngles_scale hcheck hk q, attitudes_scale hcheck hk q, ?_, ?_, ?_⟩
  · intro places hplaces
    exact ⟨exists_eulerAngles hcheck hplaces q, _, attitudes_of_prepare prepared hplaces⟩
  · exact ⟨q.normalize, q.normalize.inverse, prepared, inverses_of_prepare prepared,
      inverses_scale hcheck hk q, multiply_prepared_inverse hq⟩
  · intro u _ order
    exact Stack.eulerAngles_congr u.toMatrix_neg order

/-- **`normalizer`** — brings every quaternion to length one and rounds to two places. -/
noncomputable def normalizer : Converter ℝ :=
  ⟨.normalize, .ok (.scalar (Stack.upTo 0)), true, .ok (some 2)⟩

/-- Straight up, so in gimbal lock, and of length two; with a negative factor. -/
theorem scale_invariant_straight_up :
    normalizer.attitudes ((⟨1, 1, -1, 1⟩ : Quaternion ℝ).scale (-3)).toGrid =
      normalizer.attitudes (⟨1, 1, -1, 1⟩ : Quaternion ℝ).toGrid ∧
    ∃ a, normalizer.attitudes (⟨1, 1, -1, 1⟩ : Quaternion ℝ).toGrid = ⟨[], .ok a⟩ := by
  have hq : (⟨1, 1, -1, 1⟩ : Quaternion ℝ) ≠ 0 := by
    rw [Quaternion.zero_def]
    simp
  obtain ⟨-, same, answered, -⟩ :=
    scale_invariant (c := normalizer) (k := -3) rfl hq (by norm_num)
  exact ⟨same, (answered (some 2) rfl).2⟩

end Converter

end FlightAttitude
