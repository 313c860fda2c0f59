/-
# FlightAttitude.Proofs.Stack.Directions — directions, column by column

Lengths, inner products and unit vectors of a stack of vectors are those of its columns, since each of
them joins a stack with one number for each column, and such a stack has the shape of one row
(`Grid.zipWith_vectors`). From this a stack of directions is made orthonormal column by column
(`orthoNormalize_columns`), and columns along at most one axis are faced column by column
(`facing_columns`). One pair of directions is a stack of no axes, so what holds of it is the same with
no column axes (`orthoNormalize_toGrid`, `facing_toGrid`).

Nothing is asked of the numbers. A column that is zero, or parallel to its partner, may come out
undefined; it does so alone, and only the notice is given for the stack as a whole
(`directions_columnwise`).
-/
import FlightAttitude.Proofs.Stack.Matrices
import FlightAttitude.Stack.Facing

namespace FlightAttitude

variable {α : Type} {s : Shape}

/-! ## §1 One number for each column -/

namespace Grid

/-- One number for each column meets every component of that column. -/
theorem zipWith_vectors (f : α → α → α) (t : Tensor α (3 :: s)) (b : Tensor α s) :
    zipWith f ⟨3 :: s, t⟩ ⟨s, b⟩ =
      .ok ⟨3 :: s, .ofVectors fun p => (t.vector p).map (f · (b.get p))⟩ := by
  rw [zipWith_row, ← Tensor.ofVectors_ofComponents]
  rfl

theorem mul_vectors [Mul α] (t : Tensor α (3 :: s)) (b : Tensor α s) :
    mul ⟨3 :: s, t⟩ ⟨s, b⟩ = .ok ⟨3 :: s, .ofVectors fun p => (t.vector p).scale (b.get p)⟩ :=
  zipWith_vectors (· * ·) t b

theorem div_vectors [Div α] (t : Tensor α (3 :: s)) (b : Tensor α s) :
    div ⟨3 :: s, t⟩ ⟨s, b⟩ =
      .ok ⟨3 :: s, .ofVectors fun p => (t.vector p).map (· / b.get p)⟩ :=
  zipWith_vectors (· / ·) t b

theorem sub_vectors [Sub α] (a b : Tensor α (3 :: s)) :
    sub ⟨3 :: s, a⟩ ⟨3 :: s, b⟩ = .ok ⟨3 :: s, .ofVectors fun p => a.vector p - b.vector p⟩ := by
  rw [sub, zipWith_same, ← Tensor.ofVectors_ofComponents]
  rfl

end Grid

namespace Stack

/-! ## §2 Products and lengths -/

section Products

variable [Zero α] [Add α] [Mul α]

theorem dot_columns (a b : Tensor α (3 :: s)) :
    dot (.ok ⟨3 :: s, a⟩) (.ok ⟨3 :: s, b⟩) =
      .ok ⟨s, .ofFn fun p => (a.vector p).dot (b.vector p)⟩ := by
  show Except.bind (Grid.mul _ _) (fun g => Except.ok g.sumFirst) = _
  rw [Grid.mul_products, Except.bind, Grid.sumFirst_vectors]
  rfl

theorem norms_columns [SquareRoot α] (t : Tensor α (3 :: s)) :
    norms (.ok ⟨3 :: s, t⟩) = .ok ⟨s, .ofFn fun p => (t.vector p).norm⟩ := by
  show Except.ok ((Grid.sumFirst ⟨3 :: s, .ofFn fun p => t.get p * t.get p⟩).map sqrt) = _
  rw [← Tensor.ofVectors_ofComponents, Grid.sumFirst_vectors, Grid.map_ofFn]
  rfl

theorem units_columns [Div α] [SquareRoot α] (t : Tensor α (3 :: s)) :
    units (.ok ⟨3 :: s, t⟩) = .ok ⟨3 :: s, .ofVectors fun p => (t.vector p).unit⟩ := by
  show Except.bind (norms (.ok ⟨3 :: s, t⟩)) (fun g => Grid.div ⟨3 :: s, t⟩ g) = _
  rw [norms_columns, Except.bind, Grid.div_vectors]
  simp only [Tensor.get_ofFn]
  rfl

/-- One vector. -/
theorem units_toGrid [Div α] [SquareRoot α] (v : Vec3 α) : units v.toGrid = .ok v.unit.toGrid := by
  have one := units_columns (s := []) (.ofVectors fun _ => v)
  simp only [Tensor.vector_ofVectors] at one
  exact one

end Products

/-- Stacks of one shape with few enough axes have the cross products of their columns. -/
theorem cross_columns [Sub α] [Mul α] [Neg α] (few : s.length ≤ maxColumnAxes)
    (a b : Position s → Vec3 α) :
    cross (.ok ⟨3 :: s, .ofVectors a⟩) (.ok ⟨3 :: s, .ofVectors b⟩) =
      .ok ⟨3 :: s, .ofVectors fun p => (a p).cross (b p)⟩ := by
  have enough : ¬ maxColumnAxes < s.length := by omega
  show (productsBy Vec3.cross ⟨s, .ofFn (Tensor.ofVectors a).vector⟩
    ⟨s, .ofFn (Tensor.ofVectors b).vector⟩).map Grid.ofVectors = _
  unfold productsBy
  rw [decide_eq_false enough, Bool.or_self, if_neg Bool.false_ne_true, Grid.zipWith_same, Except.map,
    Grid.ofVectors_ofFn]
  simp only [Tensor.vector_ofVectors, Tensor.get_ofFn]

/-! ## §3 Right, up and forward -/

/-- Directions side by side on the second axis are the columns of matrices on the first two. -/
theorem stackSecond_vectors (r u f : Position s → Vec3 α) (few : s.length + 2 ≤ maxAxes) :
    Grid.stackSecond [⟨3 :: s, .ofVectors r⟩, ⟨3 :: s, .ofVectors u⟩, ⟨3 :: s, .ofVectors f⟩] =
      .ok ⟨3 :: 3 :: s, .ofFn fun (i, j, p) => (Mat3.ofColumns (r p) (u p) (f p)).entry i j⟩ := by
  have stacked := Grid.stack_same (Tensor.ofVectors r) [.ofVectors u, .ofVectors f]
  simp only [List.map_cons, List.map_nil] at stacked
  show (Grid.stack _).bind _ = _
  rw [stacked]
  refine (if_neg (Nat.not_lt.mpr few)).trans ?_
  refine congrArg (fun t => Except.ok (Grid.mk (3 :: 3 :: s) t)) (Tensor.ext_get ?_)
  rintro ⟨i, j, p⟩
  rw [Tensor.get_exchangeFirstTwo, Tensor.get_ofFn]
  match j with
  | 0 | 1 | 2 =>
    refine (Tensor.get_ofVectors _ i p).trans ?_
    match i with
    | 0 | 1 | 2 => rfl

section Facing

variable [NatCast α] [Zero α] [One α] [Add α] [Sub α] [Mul α] [Div α] [Neg α]
  [LT α] [DecidableLT α] [LE α] [DecidableLE α] [SquareRoot α] (r u f : Position s → Vec3 α)

/-- The matrices are made of whole arrays, with the axis of the stack in front where there is one. -/
theorem facingRobust_columns (few : s.length ≤ 1) :
    facingRobust ⟨3 :: s, .ofVectors r⟩ ⟨3 :: s, .ofVectors u⟩ ⟨3 :: s, .ofVectors f⟩ =
      .ok ⟨4 :: s, .ofColumns fun p => .ofMatrix (.ofColumns (r p) (u p) (f p))⟩ := by
  have axes : s.length + 2 ≤ maxAxes := by unfold maxAxes; omega
  unfold facingRobust
  rw [stackSecond_vectors r u f axes]
  -- without a stack the axes of the basis are those of the matrix already
  match s with
  | [] => exact ofMatrices_toGrid (.ofColumns (r ()) (u ()) (f ()))
  | [n] =>
    refine (ofMatrices_columns _).trans ?_
    simp only [Tensor.matrix_lastFirst, Tensor.get_ofFn]
    rfl

omit [Zero α] [Neg α] [LT α] [DecidableLT α] [LE α] [DecidableLE α] in
/-- The closed form is computed of whole rows. -/
theorem facingClosed_columns :
    facingClosed ⟨3 :: s, .ofVectors r⟩ ⟨3 :: s, .ofVectors u⟩ ⟨3 :: s, .ofVectors f⟩ =
      .ok ⟨4 :: s, .ofColumns fun p => .ofMatrixTrace (.ofColumns (r p) (u p) (f p))⟩ := by
  unfold facingClosed
  simp (disch := decide) only [Fault.ok_bind, Grid.row_vectors, Grid.map_ofFn, Grid.add, Grid.sub,
    Grid.mul, Grid.zipWith_same, Tensor.get_ofFn]
  rw [Grid.stack_quaternions]
  rfl

end Facing

/-! ## §4 Orthonormal pairs -/

section Directions

variable [Zero α] [Add α] [Sub α] [Mul α] [Div α] [SquareRoot α] [Finiteness α]

theorem orthoNormalize_columns (n t : Tensor α (3 :: s)) :
    let pair (p : Position s) : Vec3 α × Vec3 α := Vec3.orthoNormalize (n.vector p) (t.vector p)
    let tangent : Tensor α (3 :: s) := .ofVectors fun p => (pair p).2
    orthoNormalize (.ok ⟨3 :: s, n⟩) (.ok ⟨3 :: s, t⟩) =
      ⟨if tangent.toList.all isFinite then [] else [.parallelDirections],
        .ok (⟨3 :: s, .ofVectors fun p => (pair p).1⟩, ⟨3 :: s, tangent⟩)⟩ := by
  intro pair tangent
  unfold orthoNormalize
  rw [units_columns, units_columns, Report.lift_ok_bind, Report.lift_ok_bind, dot_columns,
    Report.lift_ok_bind, Grid.mul_vectors, Report.lift_ok_bind, Grid.sub_vectors, units_columns,
    Report.lift_ok_bind]
  simp only [Tensor.vector_ofVectors, Tensor.get_ofFn]
  show Report.bind (Report.sayIf (!tangent.toList.all isFinite) _) _ = _
  cases tangent.toList.all isFinite <;> rfl

/-- The notice is given for a tangent that is not finite, in whatever column, and nothing else is. -/
theorem notices_orthoNormalize (n t : Tensor α (3 :: s)) :
    let tangent (p : Position s) : Vec3 α := (Vec3.orthoNormalize (n.vector p) (t.vector p)).2
    ((orthoNormalize (.ok ⟨3 :: s, n⟩) (.ok ⟨3 :: s, t⟩)).notices = [.parallelDirections] ↔
      ∃ p, (tangent p).isFinite = false) ∧
    ((orthoNormalize (.ok ⟨3 :: s, n⟩) (.ok ⟨3 :: s, t⟩)).notices = [] ↔
      ∀ p, (tangent p).isFinite = true) := by
  intro tangent
  have verdict := (Tensor.ofVectors tangent).all_isFinite_iff
  rw [Tensor.vector_ofVectors] at verdict
  rw [orthoNormalize_columns]
  by_cases finite : ∀ p, (tangent p).isFinite = true
  · rw [if_pos (verdict.mpr finite)]
    simp [finite]
  · rw [if_neg (mt verdict.mp finite)]
    simp only [Classical.not_forall, Bool.not_eq_true] at finite
    simp [finite]

/-- One pair, with what is said of it. -/
theorem orthoNormalize_pair (n t : Vec3 α) :
    orthoNormalize n.toGrid t.toGrid =
      ⟨if (Vec3.orthoNormalize n t).2.isFinite then [] else [.parallelDirections],
        .ok ((Vec3.orthoNormalize n t).1.toGrid, (Vec3.orthoNormalize n t).2.toGrid)⟩ := by
  have verdict (v : Vec3 α) :
      (Tensor.ofVectors (s := []) fun _ => v).toList.all isFinite = v.isFinite := by
    rw [Bool.eq_iff_iff, Tensor.all_isFinite_iff, Tensor.vector_ofVectors]
    exact ⟨fun finite => finite (), fun finite _ => finite⟩
  have one := orthoNormalize_columns (s := []) (.ofVectors fun _ => n) (.ofVectors fun _ => t)
  simp only [Tensor.vector_ofVectors, verdict] at one
  exact one

theorem orthoNormalize_toGrid (n t : Vec3 α) :
    (orthoNormalize n.toGrid t.toGrid).result =
      .ok ((Vec3.orthoNormalize n t).1.toGrid, (Vec3.orthoNormalize n t).2.toGrid) :=
  congrArg Report.result (orthoNormalize_pair n t)

/-! ## §5 Facing orientations -/

theorem facing_columns [NatCast α] [One α] [Neg α] [LT α] [DecidableLT α] [LE α] [DecidableLE α]
    (few : s.length ≤ 1) (robust : Bool) (f u : Tensor α (3 :: s)) :
    (facing (.ok robust) (.ok ⟨3 :: s, f⟩) (.ok ⟨3 :: s, u⟩)).result =
      .ok ⟨4 :: s, .ofColumns fun p => Quaternion.facing robust (f.vector p) (u.vector p)⟩ := by
  have columnAxes : s.length ≤ maxColumnAxes := Nat.le_trans few (by decide)
  refine (Report.result_bind_of_ok (congrArg Report.result (orthoNormalize_columns f u)) _).trans ?_
  dsimp only
  rw [cross_columns columnAxes, Report.lift_ok_bind, Report.lift_ok_bind]
  cases robust with
  | true =>
    rw [if_pos rfl, facingRobust_columns _ _ _ few]
    rfl
  | false =>
    rw [if_neg Bool.false_ne_true, facingClosed_columns, Report.lift_ok_bind]
    exact Report.result_bind_of_ok (Report.result_sayIf _ _) _

/-- One pair of directions. -/
theorem facing_toGrid [NatCast α] [One α] [Neg α] [LT α] [DecidableLT α] [LE α] [DecidableLE α]
    (robust : Bool) (forward up : Vec3 α) :
    (facing (.ok robust) forward.toGrid up.toGrid).result =
      .ok (Quaternion.facing robust forward up).toGrid := by
  have one := facing_columns (s := []) (Nat.zero_le 1) robust (.ofVectors fun _ => forward)
    (.ofVectors fun _ => up)
  simp only [Tensor.vector_ofVectors] at one
  exact one

/-! ## §6 Column by column -/

/-- **Directions are treated column by column**, however many there are and whatever the other columns
hold. The column at `k` of a pair that is made orthonormal, and of the orientations that face the
directions, robust or not, is what the column at `k` gives alone. The notice that directions are
parallel is given where some tangent is not finite, and nothing is said otherwise. -/
theorem directions_columnwise [NatCast α] [One α] [Neg α] [LT α] [DecidableLT α] [LE α]
    [DecidableLE α] (n : Nat) (f u : Tensor α [3, n]) :
    (∃ normal tangent : Tensor α [3, n],
      (orthoNormalize (.ok ⟨[3, n], f⟩) (.ok ⟨[3, n], u⟩)).result =
        .ok (⟨[3, n], normal⟩, ⟨[3, n], tangent⟩) ∧
      (∀ k, (orthoNormalize (f.vector k).toGrid (u.vector k).toGrid).result =
        .ok ((normal.vector k).toGrid, (tangent.vector k).toGrid)) ∧
      ((orthoNormalize (.ok ⟨[3, n], f⟩) (.ok ⟨[3, n], u⟩)).notices = [.parallelDirections] ↔
        ∃ k, (tangent.vector k).isFinite = false) ∧
      ((orthoNormalize (.ok ⟨[3, n], f⟩) (.ok ⟨[3, n], u⟩)).notices = [] ↔
        ∀ k, (tangent.vector k).isFinite = true)) ∧
    ∀ robust, ∃ q : Tensor α [4, n],
      (facing (.ok robust) (.ok ⟨[3, n], f⟩) (.ok ⟨[3, n], u⟩)).result = .ok ⟨[4, n], q⟩ ∧
      ∀ k, (facing (.ok robust) (f.vector k).toGrid (u.vector k).toGrid).result =
        .ok (q.column k).toGrid := by
  constructor
  · refine ⟨_, _, congrArg Report.result (orthoNormalize_columns f u), ?_, ?_⟩
    · intro k
      rw [orthoNormalize_toGrid, Tensor.vector_ofVectors, Tensor.vector_ofVectors]
    · rw [Tensor.vector_ofVectors]
      exact notices_orthoNormalize f u
  · intro robust
    refine ⟨_, facing_columns (s := [n]) (Nat.le_refl 1) robust f u, ?_⟩
    intro k
    rw [facing_toGrid, Tensor.column_ofColumns]

end Directions

end Stack

end FlightAttitude
