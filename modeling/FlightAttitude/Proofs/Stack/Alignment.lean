/-
# FlightAttitude.Proofs.Stack.Alignment — one operand beside a stack

Shapes are laid side by side with their last axes aligned, so the components of one vector stand beside
the **columns** of a stack, not beside its components. One operand and a stack are therefore refused
(`multiply_single_stack_refused`, `multiply_stack_single_refused`, `orthoNormalize_single_refused`)
unless there are three columns or one: then the shapes agree, and an array of three columns comes out.

What is in its columns is said with `Vec3.spread`, the vector whose components are all the one at the
number of the column. Wherever a formula scales the single vector or multiplies it component by
component, the spread vector stands in its place; the cross product alone pairs the operand with each
column (`multiply_single_stack`, `multiply_stack_single`, `orthoNormalize_single`). So the columns are
not the products, but for operands that spreading does not change (`multiply_single_stack_iff`,
`multiply_stack_single_iff`).
-/
import FlightAttitude.Proofs.Quaternion.Algebra
import FlightAttitude.Proofs.Stack.Directions
import FlightAttitude.Proofs.Vec3.GramSchmidt

namespace FlightAttitude

variable {α : Type} {n : Nat}

/-! ## §1 The columns beside three components -/

namespace Shape

/-- Three components stand beside three columns, or three times beside one. -/
theorem eq_of_reading? {column : Position [3] → Position [n]}
    (meets : reading? [n] [3] = some column) : n = 3 ∨ n = 1 := by
  by_cases three : n = 3
  · exact Or.inl three
  by_cases one : n = 1
  · exact Or.inr one
  simp [reading?, alongAxes?, three, one] at meets

theorem reading?_vectors {column : Position [3] → Position [n]}
    (meets : reading? [n] [3] = some column) :
    reading? [3, n] [3, 3] = some fun p => (p.1, column p.2) := by
  have along : alongAxes? [n] [3] = some column := meets
  show alongAxes? [3, n] [3, 3] = _
  rw [alongAxes?, along]
  rfl

theorem join_axis_eq_none (notOne : n ≠ 1) (notThree : n ≠ 3) : join [n] [3] = none := by
  show (if n = 3 then _ else if n = 1 then _ else if 3 = 1 then _ else none) = none
  rw [if_neg notThree, if_neg notOne, if_neg (by decide)]

theorem join_vectors_eq_none (notOne : n ≠ 1) (notThree : n ≠ 3) : join [3, n] [3] = none := by
  show (join [n] [3]).bind _ = none
  rw [join_axis_eq_none notOne notThree, Option.bind_none]

end Shape

namespace Grid

variable {β γ : Type}

theorem axis_refused (notOne : n ≠ 1) (notThree : n ≠ 3) (f : α → β → γ) (a : Tensor α [n])
    (b : Tensor β [3]) : zipWith f ⟨[n], a⟩ ⟨[3], b⟩ = .error .shapesDisagree :=
  zipWith_of_join_none f (Shape.join_axis_eq_none notOne notThree)

theorem vectors_refused (notOne : n ≠ 1) (notThree : n ≠ 3) (f : α → β → γ) (a : Tensor α [3, n])
    (b : Tensor β [3]) : zipWith f ⟨[3, n], a⟩ ⟨[3], b⟩ = .error .shapesDisagree :=
  zipWith_of_join_none f (Shape.join_vectors_eq_none notOne notThree)

variable {column : Position [3] → Position [n]} (meets : Shape.reading? [n] [3] = some column)
include meets

theorem axis_zipWith_axis (f : α → β → γ) (a : Position [n] → α) (b : Position [3] → β) :
    zipWith f ⟨[n], .ofFn a⟩ ⟨[3], .ofFn b⟩ = .ok ⟨[3], .ofFn fun j => f (a (column j)) (b j)⟩ := by
  have common : Shape.join [n] [3] = some [3] := by
    rcases Shape.eq_of_reading? meets with rfl | rfl <;> rfl
  rw [zipWith_of_join f common meets (Shape.reading?_self [3])]
  simp only [Tensor.get_ofFn, id_eq]

theorem vectors_zipWith_axis (f : α → β → α) (a : Position [n] → Vec3 α) (b : Position [3] → β) :
    zipWith f ⟨[3, n], .ofVectors a⟩ ⟨[3], .ofFn b⟩ =
      .ok ⟨[3, 3], .ofVectors fun j => (a (column j)).map (f · (b j))⟩ := by
  have common : Shape.join [3, n] [3] = some [3, 3] := by
    rcases Shape.eq_of_reading? meets with rfl | rfl <;> rfl
  rw [zipWith_of_join f common (Shape.reading?_vectors meets) (Shape.reading?_row 3 [3]),
    ← Tensor.ofVectors_ofComponents]
  simp only [Tensor.ofVectors, Tensor.get_ofFn]
  rfl

theorem axis_zipWith_vectors (f : β → α → α) (a : Position [3] → β) (b : Position [n] → Vec3 α) :
    zipWith f ⟨[3], .ofFn a⟩ ⟨[3, n], .ofVectors b⟩ =
      .ok ⟨[3, 3], .ofVectors fun j => (b (column j)).map (f (a j))⟩ := by
  have common : Shape.join [3] [3, n] = some [3, 3] := by
    rcases Shape.eq_of_reading? meets with rfl | rfl <;> rfl
  rw [zipWith_of_join f common (Shape.reading?_row 3 [3]) (Shape.reading?_vectors meets),
    ← Tensor.ofVectors_ofComponents]
  simp only [Tensor.ofVectors, Tensor.get_ofFn]
  rfl

theorem vectors_zipWith_vectors (f : α → α → α) (a : Position [3] → Vec3 α)
    (b : Position [n] → Vec3 α) :
    zipWith f ⟨[3, 3], .ofVectors a⟩ ⟨[3, n], .ofVectors b⟩ =
      .ok ⟨[3, 3], .ofVectors fun j =>
        .ofComponents fun i => f ((a j).component i) ((b (column j)).component i)⟩ := by
  have common : Shape.join [3, 3] [3, n] = some [3, 3] := by
    rcases Shape.eq_of_reading? meets with rfl | rfl <;> rfl
  rw [zipWith_of_join f common (Shape.reading?_self [3, 3]) (Shape.reading?_vectors meets),
    ← Tensor.ofVectors_ofComponents]
  simp only [Tensor.ofVectors, Tensor.get_ofFn, id_eq]

end Grid

/-! ## §2 Spread operands -/

/-- **`spread v i`** — the vector whose components are all component `i` of `v`. -/
def Vec3.spread (v : Vec3 α) (i : Fin 3) : Vec3 α :=
  .ofComponents fun _ => v.component i

/-- **`tangentBeside v i t`** — the unit tangent of `t` when the unit normal of `v` is spread. -/
def Vec3.tangentBeside [Zero α] [Add α] [Sub α] [Mul α] [Div α] [SquareRoot α] (v : Vec3 α)
    (i : Fin 3) (t : Vec3 α) : Vec3 α :=
  (t.unit.reject (v.unit.spread i)).unit

namespace Quaternion

/-- **`spread q i`** — the vector part spread, the scalar part as it is. -/
def spread (q : Quaternion α) (i : Fin 3) : Quaternion α :=
  .ofParts (q.vector.spread i) q.w

theorem spread_eq_self_iff (q : Quaternion α) : (∀ i, q.spread i = q) ↔ q.x = q.y ∧ q.y = q.z := by
  constructor
  · intro same
    exact ⟨congrArg Quaternion.y (same 0), congrArg Quaternion.z (same 1)⟩
  · rintro ⟨xy, yz⟩ i
    match i with
    | 0 => exact Quaternion.ext rfl xy (xy.trans yz) rfl
    | 1 => exact Quaternion.ext xy.symm rfl yz rfl
    | 2 => exact Quaternion.ext (xy.trans yz).symm yz.symm rfl rfl

variable [Zero α] [Add α] [Sub α] [Mul α]

/-- **`mulWith c p q`** — the Hamilton product with `c` in the place of the cross product. -/
def mulWith (c : Vec3 α) (p q : Quaternion α) : Quaternion α :=
  ⟨p.w * q.x + q.w * p.x + c.x,
   p.w * q.y + q.w * p.y + c.y,
   p.w * q.z + q.w * p.z + c.z,
   p.w * q.w - p.vector.dot q.vector⟩

/-- **`spreadMul p i q`** — the product where `p` is spread, but in the cross product. -/
def spreadMul (p : Quaternion α) (i : Fin 3) (q : Quaternion α) : Quaternion α :=
  mulWith (p.vector.cross q.vector) (p.spread i) q

/-- **`mulSpread q i p`** — the product where the right factor `p` is spread, but in the cross product. -/
def mulSpread (q : Quaternion α) (i : Fin 3) (p : Quaternion α) : Quaternion α :=
  mulWith (q.vector.cross p.vector) q (p.spread i)

theorem spreadMul_of_spread {p : Quaternion α} {i : Fin 3} (h : p.spread i = p) (q : Quaternion α) :
    p.spreadMul i q = p * q := by
  rw [spreadMul, h]
  rfl

theorem mulSpread_of_spread {p : Quaternion α} {i : Fin 3} (h : p.spread i = p) (q : Quaternion α) :
    q.mulSpread i p = q * p := by
  rw [mulSpread, h]
  rfl

section Identity

variable {α : Type} [CommRing α]

theorem spreadMul_identity (p : Quaternion α) (i : Fin 3) : p.spreadMul i identity = p.spread i := by
  ext <;> simp [spreadMul, mulWith, identity, vector, Vec3.cross, Vec3.dot]

theorem identity_mulSpread (p : Quaternion α) (i : Fin 3) : identity.mulSpread i p = p.spread i := by
  ext <;> simp [mulSpread, mulWith, identity, vector, Vec3.cross, Vec3.dot]

end Identity

end Quaternion

namespace Stack

/-! ## §3 Products -/

section Products

theorem scalar_crossVectors [Sub α] [Mul α] (u : Vec3 α) (v : Position [n] → Vec3 α) :
    crossVectors (.scalar u) ⟨[n], .ofFn v⟩ = .ok ⟨[n], .ofFn fun k => u.cross (v k)⟩ := by
  show Grid.zipWith _ _ _ = _
  rw [Grid.scalar_zipWith, Grid.map_ofFn]

theorem crossVectors_scalar [Sub α] [Mul α] (u : Vec3 α) (v : Position [n] → Vec3 α) :
    crossVectors ⟨[n], .ofFn v⟩ (.scalar u) = .ok ⟨[n], .ofFn fun k => (v k).cross u⟩ := by
  show Grid.zipWith _ _ _ = _
  rw [Grid.zipWith_scalar, Grid.map_ofFn]

variable [Zero α] [Add α] [Sub α] [Mul α]

/-- A product is put together from the parts of the columns. -/
theorem multiply_parts {s t : Shape} (p : Tensor α (4 :: s)) (q : Tensor α (4 :: t)) :
    multiply (.ok ⟨4 :: s, p⟩) (.ok ⟨4 :: t, q⟩) = (do
      let pScalar : Grid α := ⟨s, .ofFn fun k => (p.column k).w⟩
      let qScalar : Grid α := ⟨t, .ofFn fun k => (q.column k).w⟩
      let pVector : Grid α := ⟨3 :: s, .ofVectors fun k => (p.column k).vector⟩
      let qVector : Grid α := ⟨3 :: t, .ofVectors fun k => (q.column k).vector⟩
      let scaled ← Grid.add (← pScalar.mul qVector) (← qScalar.mul pVector)
      let crossed ← crossVectors ⟨s, .ofFn fun k => (p.column k).vector⟩
        ⟨t, .ofFn fun k => (q.column k).vector⟩
      let vectorPart ← scaled.add (.ofVectors crossed)
      let scalarPart ← Grid.sub (← pScalar.mul qScalar) (← dot pVector qVector)
      vectorPart.appendFirst scalarPart.underOne) := by
  simp only [← Grid.ofVectors_ofFn, ← Grid.map_ofFn]
  rfl

section Meets

variable {column : Position [3] → Position [n]} (meets : Shape.reading? [n] [3] = some column)
include meets

theorem multiply_single_stack (p : Quaternion α) (q : Tensor α [4, n]) :
    multiply p.toGrid (.ok ⟨[4, n], q⟩) =
      .ok ⟨[4, 3], .ofColumns fun j => p.spreadMul j.1 (q.column (column j))⟩ := by
  -- one vector is three numbers in a row, and that row is what meets the columns
  have row : (⟨[3], .ofVectors fun _ => p.vector⟩ : Grid α) =
      ⟨[3], .ofFn fun j => p.vector.component j.1⟩ := rfl
  refine (multiply_parts (s := []) (.ofColumns fun _ => p) q).trans ?_
  simp only [Tensor.column_ofColumns, Grid.ofFn_nil, row, Grid.mul, Grid.add, Grid.sub, dot,
    Grid.scalar_zipWith, Grid.map_ofFn, Grid.map_ofVectors, Grid.ofVectors_ofFn, scalar_crossVectors,
    Grid.axis_zipWith_axis meets, Grid.vectors_zipWith_axis meets, Grid.axis_zipWith_vectors meets,
    Grid.vectors_zipWith_vectors meets, Grid.sumFirst_vectors, bind, pure, Except.bind, Except.pure]
  exact Grid.appendFirst_vectors _ _

theorem multiply_stack_single (q : Tensor α [4, n]) (p : Quaternion α) :
    multiply (.ok ⟨[4, n], q⟩) p.toGrid =
      .ok ⟨[4, 3], .ofColumns fun j => (q.column (column j)).mulSpread j.1 p⟩ := by
  have row : (⟨[3], .ofVectors fun _ => p.vector⟩ : Grid α) =
      ⟨[3], .ofFn fun j => p.vector.component j.1⟩ := rfl
  refine (multiply_parts (t := []) q (.ofColumns fun _ => p)).trans ?_
  simp only [Tensor.column_ofColumns, Grid.ofFn_nil, row, Grid.mul, Grid.add, Grid.sub, dot,
    Grid.zipWith_scalar, Grid.scalar_zipWith, Grid.map_ofFn, Grid.map_ofVectors, Grid.ofVectors_ofFn,
    crossVectors_scalar, Grid.axis_zipWith_axis meets, Grid.vectors_zipWith_axis meets,
    Grid.axis_zipWith_vectors meets, Grid.vectors_zipWith_vectors meets, Grid.sumFirst_vectors, bind,
    pure, Except.bind, Except.pure]
  exact Grid.appendFirst_vectors _ _

end Meets

/-- The scalar parts of the stack do not meet the vector part of `p`. -/
theorem multiply_single_stack_refused (notOne : n ≠ 1) (notThree : n ≠ 3) (p : Quaternion α)
    (q : Tensor α [4, n]) : multiply p.toGrid (.ok ⟨[4, n], q⟩) = .error .shapesDisagree := by
  refine (multiply_parts (s := []) (.ofColumns fun _ => p) q).trans ?_
  simp only [Grid.ofFn_nil, Grid.mul, Grid.scalar_zipWith, Grid.axis_refused notOne notThree]
  rfl

@[inherit_doc multiply_single_stack_refused]
theorem multiply_stack_single_refused (notOne : n ≠ 1) (notThree : n ≠ 3) (q : Tensor α [4, n])
    (p : Quaternion α) : multiply (.ok ⟨[4, n], q⟩) p.toGrid = .error .shapesDisagree := by
  refine (multiply_parts (t := []) q (.ofColumns fun _ => p)).trans ?_
  simp only [Grid.mul, Grid.axis_refused notOne notThree]
  rfl

end Products

section Aligned

variable {α : Type} [CommRing α]

/-- **Beside three columns the products come out for no other operands** than those whose vector part
has three equal components: a stack of identities tells them apart. -/
theorem multiply_single_stack_iff (p : Quaternion α) :
    (∀ q : Tensor α [4, 3], multiply p.toGrid (.ok ⟨[4, 3], q⟩) =
      .ok ⟨[4, 3], .ofColumns fun j => p * q.column j⟩) ↔ p.x = p.y ∧ p.y = p.z := by
  have meets : Shape.reading? [3] [3] = some id := Shape.reading?_self [3]
  simp only [multiply_single_stack meets, Except.ok.injEq, Grid.mk.injEq, heq_eq_eq, true_and, id_eq,
    ← Quaternion.spread_eq_self_iff]
  constructor
  · intro aligned i
    have identities := congrArg (Tensor.column · (i, ())) (aligned (.ofColumns fun _ => .identity))
    simpa only [Tensor.column_ofColumns, Quaternion.spreadMul_identity, Quaternion.mul_identity]
      using identities
  · intro same q
    simp only [Quaternion.spreadMul_of_spread (same _)]

@[inherit_doc multiply_single_stack_iff]
theorem multiply_stack_single_iff (p : Quaternion α) :
    (∀ q : Tensor α [4, 3], multiply (.ok ⟨[4, 3], q⟩) p.toGrid =
      .ok ⟨[4, 3], .ofColumns fun j => q.column j * p⟩) ↔ p.x = p.y ∧ p.y = p.z := by
  have meets : Shape.reading? [3] [3] = some id := Shape.reading?_self [3]
  simp only [multiply_stack_single meets, Except.ok.injEq, Grid.mk.injEq, heq_eq_eq, true_and, id_eq,
    ← Quaternion.spread_eq_self_iff]
  constructor
  · intro aligned i
    have identities := congrArg (Tensor.column · (i, ())) (aligned (.ofColumns fun _ => .identity))
    simpa only [Tensor.column_ofColumns, Quaternion.identity_mulSpread, Quaternion.identity_mul]
      using identities
  · intro same q
    simp only [Quaternion.mulSpread_of_spread (same _)]

end Aligned

/-! ## §4 Orthonormal pairs -/

section Directions

variable [Zero α] [Add α] [Sub α] [Mul α] [Div α] [SquareRoot α] [Finiteness α]

theorem orthoNormalize_single {column : Position [3] → Position [n]}
    (meets : Shape.reading? [n] [3] = some column) (v : Vec3 α) (w : Tensor α [3, n]) :
    (orthoNormalize v.toGrid (.ok ⟨[3, n], w⟩)).result =
      .ok (v.unit.toGrid,
        ⟨[3, 3], .ofVectors fun j => v.tangentBeside j.1 (w.vector (column j))⟩) := by
  have row : v.unit.toGrid = ⟨[3], .ofFn fun j => v.unit.component j.1⟩ := rfl
  have along : dot (.ok ⟨[3, n], .ofVectors fun k => (w.vector k).unit⟩)
      (.ok ⟨[3], .ofFn fun j => v.unit.component j.1⟩) =
        .ok ⟨[3], .ofFn fun j => (w.vector (column j)).unit.dot (v.unit.spread j.1)⟩ := by
    show Except.bind (Grid.zipWith _ _ _) (fun g => Except.ok g.sumFirst) = _
    rw [Grid.vectors_zipWith_axis meets, Except.bind, Grid.sumFirst_vectors]
    rfl
  unfold orthoNormalize
  rw [units_toGrid, units_columns, Report.lift_ok_bind, Report.lift_ok_bind, row, along,
    Report.lift_ok_bind, Grid.mul, Grid.zipWith_same, Report.lift_ok_bind, Grid.sub]
  simp only [Tensor.get_ofFn]
  rw [Grid.vectors_zipWith_axis meets, units_columns, Report.lift_ok_bind, Tensor.vector_ofVectors]
  exact Report.result_bind_of_ok (Report.result_sayIf _ _) _

theorem orthoNormalize_single_refused (notOne : n ≠ 1) (notThree : n ≠ 3) (v : Vec3 α)
    (w : Tensor α [3, n]) :
    orthoNormalize v.toGrid (.ok ⟨[3, n], w⟩) = Report.fail .shapesDisagree := by
  have along : dot (.ok ⟨[3, n], .ofVectors fun k => (w.vector k).unit⟩) (.ok v.unit.toGrid) =
      .error .shapesDisagree := by
    show Except.bind (Grid.zipWith _ _ _) (fun g => Except.ok g.sumFirst) = _
    rw [Vec3.toGrid, Grid.scalar, Grid.ofVectors, Grid.vectors_refused notOne notThree]
    rfl
  unfold orthoNormalize
  rw [units_toGrid, units_columns, Report.lift_ok_bind, Report.lift_ok_bind, along]
  rfl

/-! ## §5 One operand beside any stack -/

/-- **One operand beside a stack** is refused, in either order and as the normal of a stack of tangents,
unless the stack has three columns or one. Beside three, column `j` of what comes out belongs to column
`j` of the stack and to the operand spread from its component `j`. Beside one, three columns come out all
the same, and each belongs to that column. -/
theorem single_beside_stack (p : Quaternion α) (v : Vec3 α) :
    (∀ (n : Nat) (q : Tensor α [4, n]) (w : Tensor α [3, n]), n ≠ 1 → n ≠ 3 →
      multiply p.toGrid (.ok ⟨[4, n], q⟩) = .error .shapesDisagree ∧
      multiply (.ok ⟨[4, n], q⟩) p.toGrid = .error .shapesDisagree ∧
      orthoNormalize v.toGrid (.ok ⟨[3, n], w⟩) = Report.fail .shapesDisagree) ∧
    (∀ (q : Tensor α [4, 3]) (w : Tensor α [3, 3]),
      multiply p.toGrid (.ok ⟨[4, 3], q⟩) =
        .ok ⟨[4, 3], .ofColumns fun j => p.spreadMul j.1 (q.column j)⟩ ∧
      multiply (.ok ⟨[4, 3], q⟩) p.toGrid =
        .ok ⟨[4, 3], .ofColumns fun j => (q.column j).mulSpread j.1 p⟩ ∧
      (orthoNormalize v.toGrid (.ok ⟨[3, 3], w⟩)).result =
        .ok (v.unit.toGrid, ⟨[3, 3], .ofVectors fun j => v.tangentBeside j.1 (w.vector j)⟩)) ∧
    (∀ (q : Tensor α [4, 1]) (w : Tensor α [3, 1]),
      multiply p.toGrid (.ok ⟨[4, 1], q⟩) =
        .ok ⟨[4, 3], .ofColumns fun j => p.spreadMul j.1 (q.column (0, ()))⟩ ∧
      multiply (.ok ⟨[4, 1], q⟩) p.toGrid =
        .ok ⟨[4, 3], .ofColumns fun j => (q.column (0, ())).mulSpread j.1 p⟩ ∧
      (orthoNormalize v.toGrid (.ok ⟨[3, 1], w⟩)).result =
        .ok (v.unit.toGrid,
          ⟨[3, 3], .ofVectors fun j => v.tangentBeside j.1 (w.vector (0, ()))⟩)) := by
  refine ⟨?_, ?_, ?_⟩
  · intro n q w notOne notThree
    exact ⟨multiply_single_stack_refused notOne notThree p q, multiply_stack_single_refused notOne notThree q p,
      orthoNormalize_single_refused notOne notThree v w⟩
  · intro q w
    have meets : Shape.reading? [3] [3] = some id := Shape.reading?_self [3]
    exact ⟨multiply_single_stack meets p q, multiply_stack_single meets q p, orthoNormalize_single meets v w⟩
  · intro q w
    have meets : Shape.reading? [1] [3] = some fun _ => (0, ()) := rfl
    exact ⟨multiply_single_stack meets p q, multiply_stack_single meets q p, orthoNormalize_single meets v w⟩

end Directions

/-- Two columns are refused. -/
theorem single_beside_stack_two :
    let p : Quaternion ℝ := .identity
    let q : Tensor ℝ [4, 2] := .ofColumns fun _ => .identity
    (2 : Nat) ≠ 1 ∧ (2 : Nat) ≠ 3 ∧
      multiply p.toGrid (.ok ⟨[4, 2], q⟩) = .error .shapesDisagree ∧
      multiply (.ok ⟨[4, 2], q⟩) p.toGrid = .error .shapesDisagree := by
  intro p q
  have refused := (single_beside_stack p ⟨1, 0, 0⟩).1 2 q (.ofVectors fun _ => ⟨0, 1, 0⟩)
    (by decide) (by decide)
  exact ⟨by decide, by decide, refused.1, refused.2.1⟩

/-- Beside three identities half a turn about the first axis is not what comes out in the first column;
and beside a normal along the first axis a tangent along the second does not stay as it is. -/
theorem single_misaligned :
    let halfTurn : Quaternion ℝ := ⟨1, 0, 0, 0⟩
    let identities : Tensor ℝ [4, 3] := .ofColumns fun _ => .identity
    let normal : Vec3 ℝ := ⟨1, 0, 0⟩
    let tangents : Tensor ℝ [3, 3] := .ofVectors fun _ => ⟨0, 1, 0⟩
    (∃ r : Tensor ℝ [4, 3], multiply halfTurn.toGrid (.ok ⟨[4, 3], identities⟩) = .ok ⟨[4, 3], r⟩ ∧
      r.column (0, ()) = ⟨1, 1, 1, 0⟩ ∧
      halfTurn * identities.column (0, ()) = ⟨1, 0, 0, 0⟩) ∧
    ∃ t : Tensor ℝ [3, 3],
      (orthoNormalize normal.toGrid (.ok ⟨[3, 3], tangents⟩)).result =
        .ok (normal.unit.toGrid, ⟨[3, 3], t⟩) ∧
      (t.vector (0, ())).y = 0 ∧
      (Vec3.orthoNormalize normal (tangents.vector (0, ()))).2 = ⟨0, 1, 0⟩ := by
  intro halfTurn identities normal tangents
  have meets : Shape.reading? [3] [3] = some id := Shape.reading?_self [3]
  have first : normal.unit = normal := Vec3.unit_of_dot_self_eq_one (by norm_num [normal, Vec3.dot])
  have second : (⟨0, 1, 0⟩ : Vec3 ℝ).unit = ⟨0, 1, 0⟩ :=
    Vec3.unit_of_dot_self_eq_one (by norm_num [Vec3.dot])
  refine ⟨⟨_, multiply_single_stack meets halfTurn identities, ?_, ?_⟩,
    ⟨_, orthoNormalize_single meets normal tangents, ?_, ?_⟩⟩
  · rw [Tensor.column_ofColumns, Tensor.column_ofColumns, Quaternion.spreadMul_identity]
    rfl
  · rw [Tensor.column_ofColumns, Quaternion.mul_identity]
  · -- the spread normal is as long in the second direction as the tangent, and nothing is left there
    have left : ((⟨0, 1, 0⟩ : Vec3 ℝ).reject (normal.spread 0)).y = 0 := by
      simp [Vec3.reject_def, Vec3.sub_def, Vec3.scale_def, Vec3.dot, Vec3.spread, Vec3.ofComponents,
        Vec3.component, normal]
    rw [Tensor.vector_ofVectors, Tensor.vector_ofVectors, Vec3.tangentBeside, first, second,
      Vec3.unit_eq, Vec3.scale_def, left, zero_mul]
  · have kept : (⟨0, 1, 0⟩ : Vec3 ℝ).reject normal = ⟨0, 1, 0⟩ := by
      simp [Vec3.reject_def, Vec3.sub_def, Vec3.scale_def, Vec3.dot, normal]
    rw [Tensor.vector_ofVectors, Vec3.orthoNormalize, first, second, kept, second]

end Stack

end FlightAttitude
