/-
# FlightAttitude.Proofs.Stack.Columns — stacks, column by column

An array whose first axis is of length four is known by its columns, one quaternion at each position
of the other axes (`Tensor.ofColumns_column`); in the same way one whose first axis is of length three
is known by its vectors, and one whose last two axes are of length three by its matrices. What a
function on stacks does is said by columns: bringing a stack to length one brings every column to it
(`Stack.normalize_columns`), and testing a stack against one tolerance tests every column against it
(`Stack.areUnit_columns`).
-/
import FlightAttitude.Proofs.Grid.Axes
import FlightAttitude.Stack.Quaternions

namespace FlightAttitude

variable {α : Type} {s : Shape}

/-! ## §1 Columns -/

namespace Tensor

/-- **`column t p`** — the quaternion in the column at `p`. -/
def column (t : Tensor α (4 :: s)) (p : Position s) : Quaternion α :=
  .ofComponents fun i => t.get (i, p)

/-- **`ofColumns f`** — the array whose column at `p` is `f p`. -/
def ofColumns (f : Position s → Quaternion α) : Tensor α (4 :: s) :=
  .ofFn fun (i, p) => (f p).component i

@[simp] theorem column_ofColumns (f : Position s → Quaternion α) (p : Position s) :
    (ofColumns f).column p = f p := by
  simp only [column, ofColumns, get_ofFn]
  exact Quaternion.ofComponents_component _

theorem ofColumns_column (t : Tensor α (4 :: s)) : ofColumns t.column = t := by
  apply ext_get
  rintro ⟨i, p⟩
  rw [ofColumns, get_ofFn]
  exact Quaternion.component_ofComponents _ i

theorem column_map (f : α → α) (t : Tensor α (4 :: s)) (p : Position s) :
    column (t.map f) p = (t.column p).map f := by
  simp only [column, get_map]
  rfl

theorem column_rows (a b c d : Tensor α s) (p : Position s) :
    column (#v[a, b, c, d] : Tensor α (4 :: s)) p = ⟨a.get p, b.get p, c.get p, d.get p⟩ := rfl

/-- **`vector t p`** — the vector in the column at `p`. -/
def vector (t : Tensor α (3 :: s)) (p : Position s) : Vec3 α :=
  .ofComponents fun i => t.get (i, p)

/-- **`ofVectors f`** — the array whose vector at `p` is `f p`. -/
def ofVectors (f : Position s → Vec3 α) : Tensor α (3 :: s) :=
  .ofFn fun (i, p) => (f p).component i

theorem get_ofVectors (f : Position s → Vec3 α) (i : Fin 3) (p : Position s) :
    (ofVectors f).get (i, p) = (f p).component i := by
  rw [ofVectors, get_ofFn]

@[simp] theorem vector_ofVectors (f : Position s → Vec3 α) : (ofVectors f).vector = f := by
  funext p
  simp only [vector, ofVectors, get_ofFn]
  exact Vec3.ofComponents_component _

theorem ofVectors_vector (t : Tensor α (3 :: s)) : ofVectors t.vector = t := by
  apply ext_get
  rintro ⟨i, p⟩
  rw [ofVectors, get_ofFn]
  exact Vec3.component_ofComponents _ i

theorem vector_rows (a b c : Tensor α s) (p : Position s) :
    vector (#v[a, b, c] : Tensor α (3 :: s)) p = ⟨a.get p, b.get p, c.get p⟩ := rfl

theorem row_ofVectors (f : Position s → Vec3 α) (i : Fin 3) :
    row (ofVectors f) i = ofFn fun p => (f p).component i := by
  refine ext_get fun p => ?_
  rw [get_row, get_ofVectors, get_ofFn]

/-- An array given cell by cell, given vector by vector. -/
theorem ofVectors_ofComponents (f : Position (3 :: s) → α) :
    ofVectors (fun p => .ofComponents fun i => f (i, p)) = ofFn f := by
  unfold ofVectors
  congr 1
  funext ⟨i, p⟩
  exact Vec3.component_ofComponents (fun i => f (i, p)) i

/-- All cells are finite where all vectors are. -/
theorem all_isFinite_iff [Finiteness α] (t : Tensor α (3 :: s)) :
    t.toList.all isFinite = true ↔ ∀ p, (t.vector p).isFinite = true := by
  simp only [all_toList_iff, Vec3.isFinite_iff]
  constructor
  · intro h p i
    rw [vector, Vec3.component_ofComponents]
    exact h (i, p)
  · rintro h ⟨i, p⟩
    have component := h p i
    rwa [vector, Vec3.component_ofComponents] at component

/-- **`matrix t p`** — the matrix at `p`, on the last two axes. -/
def matrix (t : Tensor α (s ++ [3, 3])) (p : Position s) : Mat3 α :=
  .ofEntries fun i j => t.get (p.append (i, j, ()))

/-- **`ofMatrices f`** — the array whose matrix at `p` is `f p`. -/
def ofMatrices (f : Position s → Mat3 α) : Tensor α (s ++ [3, 3]) :=
  .ofFn fun p =>
    let (k, i, j, _) := Position.split s p
    (f k).entry i j

theorem get_ofMatrices (f : Position s → Mat3 α) (p : Position s) (i j : Fin 3) :
    (ofMatrices f).get (p.append (i, j, ())) = (f p).entry i j := by
  rw [ofMatrices, get_ofFn, Position.split_append]

/-- Where the axis of the stack stands last, the matrices are found after it is moved to the front. -/
theorem matrix_lastFirst {n : Nat} (t : Tensor α [3, 3, n]) (p : Position [n]) :
    matrix (s := [n]) t.lastFirst p = .ofEntries fun i j => t.get (i, j, p) := by
  refine congrArg Mat3.ofEntries (funext fun i => funext fun j => ?_)
  exact get_lastFirst t p.1 i j

@[simp] theorem matrix_ofMatrices (f : Position s → Mat3 α) : (ofMatrices f).matrix = f := by
  funext p
  simp only [matrix, ofMatrices, get_ofFn, Position.split_append]
  exact Mat3.ofEntries_entry _

end Tensor

namespace Grid

theorem ofQuaternions_ofFn (f : Position s → Quaternion α) :
    ofQuaternions ⟨s, .ofFn f⟩ = ⟨4 :: s, .ofColumns f⟩ := by
  simp only [ofQuaternions, Tensor.get_ofFn]
  rfl

theorem ofVectors_ofFn (f : Position s → Vec3 α) :
    ofVectors ⟨s, .ofFn f⟩ = ⟨3 :: s, .ofVectors f⟩ := by
  simp only [ofVectors, Tensor.get_ofFn]
  rfl

theorem row_vectors (v : Position s → Vec3 α) {i : Nat} (h : i < 3) :
    row i ⟨3 :: s, .ofVectors v⟩ = .ok ⟨s, .ofFn fun p => (v p).component ⟨i, h⟩⟩ := by
  rw [row, dif_pos h, Tensor.row_ofVectors]

theorem stack_vectors (x y z : Position s → α) :
    stack [⟨s, .ofFn x⟩, ⟨s, .ofFn y⟩, ⟨s, .ofFn z⟩] =
      .ok ⟨3 :: s, .ofVectors fun p => ⟨x p, y p, z p⟩⟩ := by
  refine (stack_same (.ofFn x) [.ofFn y, .ofFn z]).trans ?_
  refine congrArg (fun t => Except.ok (mk (3 :: s) t)) ((Tensor.ofVectors_vector _).symm.trans ?_)
  refine congrArg Tensor.ofVectors (funext fun p => (Tensor.vector_rows _ _ _ p).trans ?_)
  rw [Tensor.get_ofFn, Tensor.get_ofFn, Tensor.get_ofFn]

theorem stack_quaternions (x y z w : Position s → α) :
    stack [⟨s, .ofFn x⟩, ⟨s, .ofFn y⟩, ⟨s, .ofFn z⟩, ⟨s, .ofFn w⟩] =
      .ok ⟨4 :: s, .ofColumns fun p => ⟨x p, y p, z p, w p⟩⟩ := by
  refine (stack_same (.ofFn x) [.ofFn y, .ofFn z, .ofFn w]).trans ?_
  refine congrArg (fun t => Except.ok (mk (4 :: s) t)) ((Tensor.ofColumns_column _).symm.trans ?_)
  refine congrArg Tensor.ofColumns (funext fun p => (Tensor.column_rows _ _ _ _ p).trans ?_)
  rw [Tensor.get_ofFn, Tensor.get_ofFn, Tensor.get_ofFn, Tensor.get_ofFn]

theorem map_ofVectors (f : α → α) (v : Position s → Vec3 α) :
    map f ⟨3 :: s, .ofVectors v⟩ = ⟨3 :: s, .ofVectors fun p => (v p).map f⟩ := by
  rw [Tensor.ofVectors, map_ofFn, ← Tensor.ofVectors_ofComponents]
  rfl

theorem mul_products [Mul α] (a b : Tensor α (3 :: s)) :
    mul ⟨3 :: s, a⟩ ⟨3 :: s, b⟩ =
      .ok ⟨3 :: s, .ofVectors fun p => .ofComponents fun i => a.get (i, p) * b.get (i, p)⟩ := by
  rw [mul, zipWith_same, Tensor.ofVectors_ofComponents fun i => a.get i * b.get i]

theorem sumFirst_vectors [Zero α] [Add α] (v : Position s → Vec3 α) :
    sumFirst ⟨3 :: s, .ofVectors v⟩ = ⟨s, .ofFn fun p => 0 + (v p).x + (v p).y + (v p).z⟩ := by
  simp only [sumFirst, Summation.ofColumn_of_lt (by decide : 3 < 8), Tensor.ofVectors,
    Tensor.get_ofFn]
  rfl

/-- A stack of vectors with a row under it is a stack of quaternions. -/
theorem appendFirst_vectors (v : Position s → Vec3 α) (w : Position s → α) :
    appendFirst ⟨3 :: s, .ofVectors v⟩ (underOne ⟨s, .ofFn w⟩) =
      .ok ⟨4 :: s, .ofColumns fun p => .ofParts (v p) (w p)⟩ := by
  show (if h : s = s then _ else _) = _
  rw [dif_pos rfl]
  rfl

/-- A function of each quaternion of a stack is a function of each column of the array. -/
theorem ofQuaternions_map_columns (f : Quaternion α → Quaternion α) (t : Tensor α (4 :: s)) :
    ofQuaternions (map f ⟨s, .ofFn t.column⟩) = ⟨4 :: s, .ofColumns fun p => f (t.column p)⟩ := by
  rw [map_ofFn, ofQuaternions_ofFn]

end Grid

/-! ## §2 Functions of each column -/

namespace Stack

variable [Zero α] [One α] [Add α] [Mul α] [SquareRoot α]

section Normalize

variable [Div α] [Finiteness α]

/-- Every column is brought to length one; what is said looks at the scales of all of them. -/
theorem normalize_report (t : Tensor α (4 :: s)) :
    normalize (.ok ⟨4 :: s, t⟩) =
      ⟨if (Tensor.ofFn t.column).toList.all fun q => isFinite q.unitScale then []
        else [.zeroLength],
        .ok ⟨4 :: s, .ofColumns fun p => (t.column p).normalize⟩⟩ := by
  show Report.bind (Report.sayIf (!(Tensor.ofFn t.column).toList.all _) .zeroLength) _ = _
  rw [← Grid.ofQuaternions_map_columns]
  cases (Tensor.ofFn t.column).toList.all fun q => isFinite q.unitScale <;> rfl

theorem all_unitScale_iff (t : Tensor α (4 :: s)) :
    ((Tensor.ofFn t.column).toList.all fun q => isFinite q.unitScale) = true ↔
      ∀ p, isFinite (t.column p).unitScale = true := by
  simp only [Tensor.all_toList_iff, Tensor.get_ofFn]

/-- Where every column has a finite scale, nothing is said. -/
theorem normalize_columns {t : Tensor α (4 :: s)}
    (finite : ∀ p, isFinite (t.column p).unitScale = true) :
    normalize (.ok ⟨4 :: s, t⟩) =
      ⟨[], .ok ⟨4 :: s, .ofColumns fun p => (t.column p).normalize⟩⟩ := by
  rw [normalize_report, if_pos ((all_unitScale_iff t).mpr finite)]

/-- The notice is given for a scale that is not finite, in whatever column, and nothing else is. -/
theorem notices_normalize (t : Tensor α (4 :: s)) :
    ((normalize (.ok ⟨4 :: s, t⟩)).notices = [.zeroLength] ↔
      ∃ p, isFinite (t.column p).unitScale = false) ∧
    ((normalize (.ok ⟨4 :: s, t⟩)).notices = [] ↔
      ∀ p, isFinite (t.column p).unitScale = true) := by
  rw [normalize_report]
  by_cases finite : ∀ p, isFinite (t.column p).unitScale = true
  · rw [if_pos ((all_unitScale_iff t).mpr finite)]
    simp [finite]
  · rw [if_neg (mt (all_unitScale_iff t).mp finite)]
    simp only [Classical.not_forall, Bool.not_eq_true] at finite
    simp [finite]

end Normalize

/-- One tolerance tests every column. -/
theorem areUnit_columns [Sub α] [Neg α] [LT α] [DecidableLT α] [LE α] [DecidableLE α]
    (t : Tensor α (4 :: s)) (tolerance : α) :
    areUnit (.ok ⟨4 :: s, t⟩) (.ok (.scalar (upTo tolerance))) =
      .ok ⟨s, .ofFn fun p => decide ((t.column p).offUnit ≤ tolerance)⟩ := by
  change Except.bind (Grid.zipWith _ (Grid.map _ ⟨s, .ofFn t.column⟩) (.scalar _)) _ = _
  rw [Grid.zipWith_scalar]
  change Grid.traverse id _ = _
  simp only [Grid.traverse, Grid.map, Tensor.traverse_map, upTo, id_eq, Tensor.traverse_ok]
  simp only [Tensor.map, Tensor.get_ofFn]

end Stack

end FlightAttitude
