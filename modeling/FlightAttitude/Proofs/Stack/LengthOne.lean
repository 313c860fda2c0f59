/-
# FlightAttitude.Proofs.Stack.LengthOne — bringing to length one, and what is said of it

Bringing a stack to length one gives a notice where the scale of some column is not finite. It looks
at the scale, which is the reciprocal of the length, and not at what comes out. The reciprocal of an
infinite length is zero. So an infinite component, or finite ones whose squares are too large to be
summed, leave the scale finite and the result without length one, and nothing is said of it
(`normalize_fails_silently`, over binary floating numbers).

Over `Limited` numbers this is the only such case (`normalize_notice`): as long as no column is too
long, silence means that every column came out at length one. These numbers do not become zero for
being small; what that does to a length is not looked at here.
-/
import FlightAttitude.Proofs.Quaternion.Overflow
import FlightAttitude.Proofs.Stack.Columns
import FlightAttitude.Scalar.Binary64

namespace FlightAttitude.Stack

open Extended (finite)

variable {limit : ℝ} {s : Shape}

/-! ## §1 Silence -/

/-- **What silence means.** A stack of quaternions is brought to length one, and the notice is given
exactly where some column has an undefined component or is too short. The column at `p` comes out
finite and at length one exactly where it is between the limits. One that is too long comes out as
zeros, undefined where it was infinite. Without such columns, silence means that all columns came out
at length one; and the silent failures are the stacks with such a column in which all others are
between the limits. -/
theorem normalize_notice (beyond : 1 < limit) (t : Tensor (Limited limit) (4 :: s)) :
    ∃ notices, ∃ r : Tensor (Limited limit) (4 :: s),
      normalize (.ok ⟨4 :: s, t⟩) = ⟨notices, .ok ⟨4 :: s, r⟩⟩ ∧
      (notices = [.zeroLength] ↔ ∃ p, (t.column p).HasUndefined ∨ (t.column p).IsShort) ∧
      (notices = [] ↔ ∀ p, (t.column p).IsScalable ∨ (t.column p).IsLong) ∧
      (∀ p, (r.column p).IsUnit ↔ (t.column p).IsScalable) ∧
      (∀ p, (t.column p).IsLong → ∀ i, (r.column p).values.component i =
        if isFinite ((t.column p).values.component i) then finite 0 else .undefined) ∧
      ((∀ p, ¬ (t.column p).IsLong) → (notices = [] ↔ ∀ p, (r.column p).IsUnit)) ∧
      ((notices = [] ∧ ∃ p, ¬ (r.column p).IsUnit) ↔
        (∀ p, (t.column p).IsScalable ∨ (t.column p).IsLong) ∧ ∃ p, (t.column p).IsLong) := by
  obtain ⟨spoken, silent⟩ := notices_normalize t
  rw [normalize_report] at spoken silent ⊢
  simp only [Quaternion.isFinite_unitScale_iff beyond,
    Quaternion.isFinite_unitScale_eq_false_iff beyond] at spoken silent
  have unit (p : Position s) : ((t.column p).normalize).IsUnit ↔ (t.column p).IsScalable :=
    Quaternion.isUnit_normalize_iff beyond
  refine ⟨_, _, rfl, spoken, silent, ?_, ?_, ?_, ?_⟩
  · intro p
    rw [Tensor.column_ofColumns, unit]
  · intro p long i
    rw [Tensor.column_ofColumns, Quaternion.normalize_of_long beyond long]
  · intro none_long
    simp only [silent, Tensor.column_ofColumns, unit]
    exact forall_congr' fun p => or_iff_left (none_long p)
  · simp only [silent, Tensor.column_ofColumns, unit]
    refine and_congr_right fun kept => exists_congr fun p => ⟨fun lost => ?_, fun long scalable => ?_⟩
    · exact (kept p).resolve_left lost
    · exact scalable.not_isLong long

/-- **`onAxis limit x`** — the quaternion with `x` for its first component and no others. -/
noncomputable def onAxis (limit x : ℝ) : Quaternion (Limited limit) := ⟨.ofExtended (finite x), 0, 0, 0⟩

theorem values_onAxis {x : ℝ} (below : |x| < limit) :
    (onAxis limit x).values = (⟨x, 0, 0, 0⟩ : Quaternion ℝ).extend := by
  have zero : (0 : Limited limit).value = finite 0 :=
    Extended.confine_finite (by rw [abs_zero]; exact (abs_nonneg x).trans_lt below)
  exact Quaternion.ext (Extended.confine_finite below) zero zero zero

/-- One component below the limit is enough, where its square is not below it. -/
theorem isLong_onAxis {x : ℝ} (below : |x| < limit) (reached : limit ≤ x * x) :
    (onAxis limit x).IsLong := by
  constructor
  · rintro ⟨i, undefined⟩
    rw [values_onAxis below] at undefined
    match i with
    | 0 | 1 | 2 | 3 => cases undefined
  · have component : (onAxis limit x).x.value = finite x :=
      congrArg Quaternion.x (values_onAxis below)
    have square : ENNReal.ofReal limit ≤ (onAxis limit x).x.value.squared := by
      rw [component]
      exact ENNReal.ofReal_le_ofReal reached
    exact square.trans (le_self_add.trans (le_self_add.trans le_self_add))

/-- The number `2 ^ 600` is a binary floating number, and its square is not. -/
theorem normalize_notice_overflow :
    (1 : ℝ) < 2 ^ 1024 ∧ (onAxis (2 ^ 1024) (2 ^ 600)).IsLong ∧
      ∃ r, normalize (.ok ⟨[4], .ofColumns fun _ => onAxis (2 ^ 1024) (2 ^ 600)⟩) =
          ⟨[], .ok ⟨[4], r⟩⟩ ∧
        ¬ (Tensor.column (s := []) r ()).IsUnit := by
  have beyond : (1 : ℝ) < 2 ^ 1024 := one_lt_pow₀ one_lt_two (by decide)
  have long : (onAxis (2 ^ 1024) (2 ^ 600)).IsLong := by
    apply isLong_onAxis
    · rw [abs_of_pos (by positivity)]
      exact pow_lt_pow_right₀ one_lt_two (by decide)
    · rw [← pow_add]
      exact pow_le_pow_right₀ one_le_two (by decide)
  obtain ⟨notices, r, report, -, silent, unit, -⟩ :=
    normalize_notice (s := []) beyond (.ofColumns fun _ => onAxis (2 ^ 1024) (2 ^ 600))
  refine ⟨beyond, long, r, ?_, ?_⟩
  · rw [report, silent.mpr]
    intro p
    rw [Tensor.column_ofColumns]
    exact .inr long
  · rw [unit, Tensor.column_ofColumns]
    exact fun scalable => scalable.not_isLong long

/-! ## §2 Binary floating numbers -/

/-- One quaternion, with what is said of it. -/
theorem normalize_single {α : Type} [Zero α] [One α] [Add α] [Mul α] [Div α] [SquareRoot α]
    [Finiteness α] (q : Quaternion α) :
    normalize q.toGrid =
      ⟨if isFinite q.unitScale then [] else [.zeroLength], .ok q.normalize.toGrid⟩ := by
  show Report.bind (Report.sayIf (!([q].all fun q => isFinite q.unitScale)) .zeroLength) _ = _
  rw [List.all_cons, List.all_nil, Bool.and_true]
  cases isFinite q.unitScale <;> rfl

/-- **Silence is not success**, over binary floating numbers. An infinite component leaves a quaternion
that is no number. Finite components with too large a square leave the zero quaternion, whose length is
zero. Nothing is said of either. -/
theorem normalize_fails_silently :
    (normalize (⟨1 / 0, 0, 0, 0⟩ : Quaternion Float).toGrid =
        ⟨[], .ok (⟨0 / 0, 0, 0, 0⟩ : Quaternion Float).toGrid⟩ ∧
      (⟨0 / 0, 0, 0, 0⟩ : Quaternion Float).isFinite = false) ∧
    normalize (⟨1e200, 0, 0, 0⟩ : Quaternion Float).toGrid =
        ⟨[], .ok (0 : Quaternion Float).toGrid⟩ ∧
      (0 : Quaternion Float).norm = 0 := by
  have infinite : (⟨1 / 0, 0, 0, 0⟩ : Quaternion Float).normalize = ⟨0 / 0, 0, 0, 0⟩ := by
    decide +kernel
  have large : (⟨1e200, 0, 0, 0⟩ : Quaternion Float).normalize = 0 := by
    decide +kernel
  have infinite_scale : isFinite (⟨1 / 0, 0, 0, 0⟩ : Quaternion Float).unitScale = true := by
    decide +kernel
  have large_scale : isFinite (⟨1e200, 0, 0, 0⟩ : Quaternion Float).unitScale = true := by
    decide +kernel
  refine ⟨⟨?_, by decide +kernel⟩, ?_, by decide +kernel⟩
  · rw [normalize_single, infinite, infinite_scale]
    rfl
  · rw [normalize_single, large, large_scale]
    rfl

end FlightAttitude.Stack
