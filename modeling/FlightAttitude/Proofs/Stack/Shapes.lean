/-
# FlightAttitude.Proofs.Stack.Shapes — which shapes are taken, and which come out

Every function of quaternions takes its array apart by `Grid.quaternions` before anything else, and that
step looks at the length of the first axis and at nothing beyond it. What follows acts on the column
axes as a whole. So an array is refused for its first axis only, and all that can follow the first axis
is taken: no axes at all, any number of them, and axes of length zero (`TakesQuaternions.bind`). Angles
alone look at something before that, their order (`eulerAngles_of_unsupported`).

`TakesQuaternions` says this of one answer, together with the shape that comes out. Where matrices are
made there are two axes in the place of one, and they have to fit into an array.
-/
import FlightAttitude.Proofs.Stack.Attitudes

namespace FlightAttitude

variable {α β γ : Type}

/-! ## §1 What is refused -/

namespace Grid

theorem quaternions_of_shape {g : Grid α} {s : Shape} (h : g.shape = 4 :: s) :
    ∃ qs, g.quaternions = .ok qs ∧ qs.shape = s := by
  obtain ⟨shape, cells⟩ := g
  cases h
  exact ⟨_, rfl, rfl⟩

theorem quaternions_of_head {g : Grid α} (h : g.shape.head? ≠ some 4) :
    g.quaternions = .error .firstAxisNotFour := by
  obtain ⟨shape, cells⟩ := g
  match shape with
  | [] | 0 :: _ | 1 :: _ | 2 :: _ | 3 :: _ => rfl
  | 4 :: _ => exact absurd rfl h
  | (_ + 5) :: _ => rfl

end Grid

/-- What is not an order is refused as such. -/
theorem AxisOrder.ofDatum_of_unsupported {order : Datum} (h : ∀ o, AxisOrder.ofDatum order ≠ .ok o) :
    AxisOrder.ofDatum order = .error (.unsupportedOrder order) := by
  cases order with
  | order o => exact absurd rfl (h o)
  | text s =>
    cases named : AxisOrder.ofText? s with
    | some o => exact absurd (by simp only [AxisOrder.ofDatum, named]) (h o)
    | none => simp only [AxisOrder.ofDatum, named]
  | _ => rfl

/-- **`Attitude.HasShape a s`** — the three arrays have the shape `s`. -/
def Attitude.HasShape (a : Attitude (Grid α)) (s : Shape) : Prop :=
  a.pitch.shape = s ∧ a.heading.shape = s ∧ a.roll.shape = s

namespace Stack

/-- **`TakesQuaternions g shaped r`** — `r` is an answer to the array `g` that refuses it exactly for its
first axis, and otherwise has the shape that goes with the column axes. -/
structure TakesQuaternions (g : Grid α) (shaped : Shape → β → Prop) (r : Except Fault β) :
    Prop where
  refused : ∀ f, r = .error f ↔ f = .firstAxisNotFour ∧ g.shape.head? ≠ some 4
  answered : ∀ s, g.shape = 4 :: s → ∃ b, r = .ok b ∧ shaped s b

/-- What is refused for its first axis, and has an answer where that is right. -/
theorem TakesQuaternions.of_answers {g : Grid α} {shaped : Shape → β → Prop} {r : Except Fault β}
    (refused : g.shape.head? ≠ some 4 → r = .error .firstAxisNotFour)
    (answered : ∀ s, g.shape = 4 :: s → ∃ b, r = .ok b ∧ shaped s b) :
    TakesQuaternions g shaped r := by
  refine ⟨fun f => ?_, answered⟩
  by_cases h : g.shape.head? = some 4
  · obtain ⟨s, rest⟩ := List.head?_eq_some_iff.mp h
    obtain ⟨b, answer, -⟩ := answered s rest
    simp [answer, h]
  · simp [refused h, h, eq_comm]

/-- **A further step that always has an answer keeps the refusals.** -/
theorem TakesQuaternions.bind {g : Grid α} {shaped : Shape → β → Prop} {shaped' : Shape → γ → Prop}
    {r : Except Fault β} (taken : TakesQuaternions g shaped r) {f : β → Except Fault γ}
    (total : ∀ {s b}, g.shape = 4 :: s → shaped s b → ∃ c, f b = .ok c ∧ shaped' s c) :
    TakesQuaternions g shaped' (r.bind f) := by
  have answered (s : Shape) (h : g.shape = 4 :: s) : ∃ c, r.bind f = .ok c ∧ shaped' s c := by
    obtain ⟨b, rfl, shape⟩ := taken.answered s h
    exact total h shape
  refine .of_answers (fun head => ?_) answered
  rw [(taken.refused _).mpr ⟨rfl, head⟩, Except.bind]

/-- What is known of the answer may be forgotten. -/
theorem TakesQuaternions.imp {g : Grid α} {shaped shaped' : Shape → β → Prop} {r : Except Fault β}
    (taken : TakesQuaternions g shaped r) (h : ∀ {s b}, shaped s b → shaped' s b) :
    TakesQuaternions g shaped' r :=
  ⟨taken.refused, fun s shape => (taken.answered s shape).imp fun _ ⟨answer, known⟩ => ⟨answer, h known⟩⟩

theorem quaternions_taken (g : Grid α) :
    TakesQuaternions g (fun s qs => qs.shape = s) g.quaternions :=
  .of_answers Grid.quaternions_of_head fun _ => Grid.quaternions_of_shape

/-! ## §2 Functions of the columns -/

section Lengths

variable [Zero α] [One α] [Add α] [Mul α] [SquareRoot α]

omit [One α] in
theorem quaternionNorms_taken (g : Grid α) :
    TakesQuaternions g (fun s n => n.shape = s) (quaternionNorms (.ok g)) := by
  show TakesQuaternions g _ (g.quaternions.bind fun qs => .ok (qs.map Quaternion.norm))
  exact (quaternions_taken g).bind fun _ shape => ⟨_, rfl, shape⟩

theorem result_normalize [Div α] [Finiteness α] (g : Grid α) :
    (normalize (.ok g)).result =
      g.quaternions.bind fun qs => .ok (.ofQuaternions (qs.map Quaternion.normalize)) := by
  unfold normalize
  rw [Report.lift_ok_bind]
  cases g.quaternions with
  | error f => rfl
  | ok qs =>
    rw [Report.lift_ok_bind]
    exact Report.result_bind_of_ok (Report.result_sayIf _ _) _

theorem normalize_taken [Div α] [Finiteness α] (g : Grid α) :
    TakesQuaternions g (fun s r => r.shape = 4 :: s) (normalize (.ok g)).result := by
  rw [result_normalize]
  exact (quaternions_taken g).bind fun _ shape => ⟨_, rfl, congrArg (4 :: ·) shape⟩

/-- One tolerance meets every column. -/
theorem areUnit_taken [Sub α] [Neg α] [LT α] [DecidableLT α] [LE α] [DecidableLE α] (g : Grid α)
    (tolerance : α) :
    TakesQuaternions g (fun s v => v.shape = s)
      (areUnit (.ok g) (.ok (.scalar (upTo tolerance)))) := by
  show TakesQuaternions g _ (g.quaternions.bind fun qs =>
    (Grid.zipWith (fun x (accepts : Tolerance α) => accepts x) (qs.map Quaternion.offUnit)
      (.scalar (upTo tolerance))).bind fun verdicts => verdicts.traverse id)
  refine (quaternions_taken g).bind fun _ shape => ?_
  rw [Grid.zipWith_scalar]
  show ∃ v, Grid.traverse id _ = .ok v ∧ _
  simp only [Grid.traverse, Grid.map, Tensor.traverse_map, upTo, id_eq, Tensor.traverse_ok]
  exact ⟨_, rfl, shape⟩

end Lengths

theorem inverses_taken [Neg α] (g : Grid α) :
    TakesQuaternions g (fun s r => r.shape = 4 :: s) (inverses (.ok g)) := by
  show TakesQuaternions g _
    (g.quaternions.bind fun qs => .ok (Grid.ofQuaternions (qs.map Quaternion.inverse)))
  exact (quaternions_taken g).bind fun _ shape => ⟨_, rfl, congrArg (4 :: ·) shape⟩

/-! ## §3 Functions of the matrices -/

section Matrices

variable [NatCast α] [Zero α] [One α] [Add α] [Sub α] [Mul α] [Neg α] {g : Grid α}

theorem toMatrices_of_head (head : g.shape.head? ≠ some 4) :
    toMatrices (.ok g) = .error .firstAxisNotFour := by
  obtain ⟨shape, cells⟩ := g
  match shape with
  | [] | 0 :: _ | 1 :: _ | 2 :: _ | 3 :: _ => rfl
  | 4 :: _ => exact absurd rfl head
  | (_ + 5) :: _ => rfl

/-- Matrices have one axis more than their quaternions. -/
theorem matrices_taken (few : g.shape.length + 1 ≤ maxAxes) :
    TakesQuaternions g (fun s m => ∃ f, m = ⟨s ++ [3, 3], .ofMatrices f⟩) (toMatrices (.ok g)) := by
  refine .of_answers toMatrices_of_head fun s shape => ?_
  obtain ⟨_, q⟩ := g
  cases shape
  exact ⟨_, toMatrices_columns few q, _, rfl⟩

theorem toMatrices_taken (few : g.shape.length + 1 ≤ maxAxes) :
    TakesQuaternions g (fun s m => m.shape = s ++ [3, 3]) (toMatrices (.ok g)) :=
  (matrices_taken few).imp fun ⟨_, known⟩ => congrArg Grid.shape known

variable [Div α] [LT α] [DecidableLT α] [LE α] [DecidableLE α] [IntegerParts α] [Trigonometry α]

theorem angles_taken (few : g.shape.length + 1 ≤ maxAxes) :
    TakesQuaternions g
      (fun s a => ∃ e : Position s → EulerAngles α, a = ⟨3 :: s, .ofVectors fun p => (e p).toVec3⟩)
      (eulerAngles (.order .yzx) (.ok g)) := by
  show TakesQuaternions g _ ((toMatrices (.ok g)).bind eulerOf)
  refine (matrices_taken few).bind ?_
  rintro s _ - ⟨m, rfl⟩
  exact ⟨_, eulerOf_matrices m, _, rfl⟩

theorem eulerAngles_taken (few : g.shape.length + 1 ≤ maxAxes) {order : Datum} {o : AxisOrder}
    (supported : AxisOrder.ofDatum order = .ok o) :
    TakesQuaternions g (fun s e => e.shape = 3 :: s) (eulerAngles order (.ok g)) := by
  cases o with
  | yzx =>
    have same : eulerAngles order (.ok g) = eulerAngles (.order .yzx) (.ok g) := by
      unfold eulerAngles
      rw [supported]
      rfl
    rw [same]
    exact (angles_taken few).imp fun ⟨_, known⟩ => congrArg Grid.shape known

/-- **The order is looked at first**, whatever the quaternions are. -/
theorem eulerAngles_of_unsupported {order : Datum} (h : ∀ o, AxisOrder.ofDatum order ≠ .ok o)
    (q : Operand α) : eulerAngles order q = .error (.unsupportedOrder order) := by
  unfold eulerAngles
  rw [AxisOrder.ofDatum_of_unsupported h]
  rfl

theorem attitudes_taken (few : g.shape.length + 1 ≤ maxAxes) :
    TakesQuaternions g (fun s a => a.HasShape s) (attitudes (.ok g)) := by
  show TakesQuaternions g _
    ((eulerAngles (.order .yzx) (.ok g)).bind fun e => attitudesOfEuler (.ok e))
  refine (angles_taken few).bind ?_
  rintro s _ - ⟨e, rfl⟩
  exact ⟨_, attitudesOfEuler_vectors e, rfl, rfl, rfl⟩

end Matrices

end Stack

end FlightAttitude
