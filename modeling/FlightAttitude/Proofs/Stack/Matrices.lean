/-
# FlightAttitude.Proofs.Stack.Matrices — quaternions and matrices, column by column

The conversions between quaternions and matrices work on whole arrays. One of them puts scalars under
two axes of length one, adds up products along the first axis and moves the axes of a cross product to
the end; the other computes all four cases for all matrices and picks one row for each column. No
column reads anything of another for all that: what comes out stands in the array as if every column
had been converted by itself (`toMatrices_columns`, `ofMatrices_columns`).

The choice of a case is where the two ways differ most. The array way numbers the rows and keeps the
number of the greatest so far, `Mat3.greatest` keeps the component and its value; both make the same
comparisons (`Mat3.number_greatest`). A single matrix goes the way of a stack of one, and its column is
read back at the end.
-/
import FlightAttitude.Proofs.Stack.Columns
import FlightAttitude.Proofs.Stack.Single
import FlightAttitude.Stack.Rotations
import Mathlib.Data.Fintype.Basic
import Mathlib.Tactic.FinCases

namespace FlightAttitude

variable {α : Type} {s : Shape} {n : Nat}

namespace Stack

/-! ## §1 From quaternions to matrices -/

theorem skews_columns [Zero α] [Neg α] (few : s.length + 2 ≤ maxAxes) (v : Tensor α (3 :: s)) :
    skews (.ok ⟨3 :: s, v⟩) = .ok ⟨s ++ [3, 3], .ofMatrices fun p => .skew (v.vector p)⟩ := by
  refine (if_neg (Nat.not_lt.mpr few)).trans ?_
  refine congrArg (fun t => Except.ok (Grid.mk (s ++ [3, 3]) t)) (Tensor.ext_entries ?_)
  intro p i j
  rw [Tensor.get_moveFirstTwo, Tensor.get_ofMatrices]
  match i, j with
  | 0, 0 | 1, 1 | 2, 2 => exact Tensor.get_ofFn _ p
  | 0, 1 | 1, 2 | 2, 0 => exact Tensor.get_map _ _ p
  | 0, 2 | 1, 0 | 2, 1 => rfl

section ToMatrices

variable [NatCast α] [Zero α] [One α] [Add α] [Sub α] [Mul α] [Neg α]

theorem toMatrices_columns (few : s.length + 2 ≤ maxAxes) (q : Tensor α (4 :: s)) :
    toMatrices (.ok ⟨4 :: s, q⟩) =
      .ok ⟨s ++ [3, 3], .ofMatrices fun p => (q.column p).toMatrix⟩ := by
  unfold toMatrices
  simp only [Fault.ok_bind, Grid.overOnes_of_few few, Grid.mul_products,
    Grid.sumFirst_vectors, Grid.map_overOnes, Grid.sub, Grid.zipWith_overOnes_overOnes]
  rw [skews_columns few]
  simp only [Fault.ok_bind, Grid.mul, Grid.zipWith_overOnes_matrix, Grid.zipWith_overOnes, Grid.map, Grid.add,
    Grid.zipWith_same]
  -- the arrays are the same entry by entry
  refine congrArg (fun t => Except.ok (Grid.mk (s ++ [3, 3]) t)) (Tensor.ext_entries ?_)
  intro p i j
  simp only [Tensor.get_ofFn, Position.split_append, Tensor.get_zipWith, Tensor.get_map]
  rw [Tensor.get_outer, Tensor.get_identity, Tensor.get_ofMatrices, Tensor.get_ofMatrices]
  simp only [Tensor.vector, Tensor.get_firstRows]
  -- both sides add and multiply in one order, so the nine entries are the same by definition
  fin_cases i <;> fin_cases j <;> rfl

theorem toMatrices_toGrid (q : Quaternion α) : toMatrices q.toGrid = .ok q.toMatrix.toGrid := by
  have one := toMatrices_columns (s := []) (by decide) (.ofColumns fun _ => q)
  simp only [Tensor.column_ofColumns] at one
  exact one

theorem matricesOf_columns (few : s.length + 2 ≤ maxAxes) (q : Tensor α (4 :: s)) :
    matricesOf (.ok ⟨4 :: s, q⟩) = .ok ⟨s, .ofFn fun p => (q.column p).toMatrix⟩ := by
  unfold matricesOf
  rw [toMatrices_columns few]
  show Except.bind (.ok _) _ = _
  rw [Except.bind, Grid.lastTwo?_append]
  show Except.ok (Grid.mk s (.ofFn (Tensor.ofMatrices _).matrix)) = _
  rw [Tensor.matrix_ofMatrices]

theorem matricesOf_toGrid (q : Quaternion α) :
    matricesOf (.ok q.toGrid) = .ok (.scalar q.toMatrix) := by
  have one := matricesOf_columns (s := []) (by decide) (.ofColumns fun _ => q)
  simp only [Tensor.column_ofColumns] at one
  exact one

end ToMatrices

end Stack

/-! ## §2 The choice of a case -/

/-- The number of a component. -/
def Quaternion.Part.number : Part → Fin 4
  | .x => 0
  | .y => 1
  | .z => 2
  | .w => 3

/-- The numbers among which the greatest is looked for, each in the place of its component. -/
def Mat3.ranked [Zero α] [Add α] (m : Mat3 α) : Quaternion α :=
  ⟨m.xx, m.yy, m.zz, m.trace⟩

/-- Each number is compared with the greatest of those before it. -/
theorem Mat3.number_greatest [Zero α] [Add α] [LE α] [DecidableLE α] (m : Mat3 α) :
    m.greatest.number = Fin.foldl 3 (fun best i =>
      if exceeds (m.ranked.component best) (m.ranked.component i.succ) then i.succ else best) 0 := by
  simp only [Fin.foldl_succ, Fin.foldl_zero]
  unfold greatest
  -- the second and the third comparison depend on how those before them came out
  by_cases y : exceeds m.xx m.yy
  · by_cases z : exceeds m.yy m.zz
    · by_cases w : exceeds m.zz m.trace <;>
        simp [ranked, Quaternion.component, Quaternion.Part.number, y, z, w]
    · by_cases w : exceeds m.yy m.trace <;>
        simp [ranked, Quaternion.component, Quaternion.Part.number, y, z, w]
  · by_cases z : exceeds m.xx m.zz
    · by_cases w : exceeds m.zz m.trace <;>
        simp [ranked, Quaternion.component, Quaternion.Part.number, y, z, w]
    · by_cases w : exceeds m.xx m.trace <;>
        simp [ranked, Quaternion.component, Quaternion.Part.number, y, z, w]

namespace Stack

/-! ## §3 From matrices to quaternions -/

section OfMatrices

variable (t : Tensor α [n, 3, 3]) (p : Position [n])

theorem get_entryOf (i j : Fin 3) :
    (entryOf t i j).get p = (Tensor.matrix (s := [n]) t p).entry i j := by
  rw [entryOf, Tensor.get_entries, Tensor.matrix, Mat3.entry_ofEntries]

theorem get_traceOf [Zero α] [Add α] :
    (traceOf t).get p = (Tensor.matrix (s := [n]) t p).trace := by
  rw [traceOf, Tensor.traces, Tensor.get_ofFn]
  rfl

theorem get_choiceOf [Zero α] [Add α] [LE α] [DecidableLE α] :
    (choiceOf t).get p = (Tensor.matrix (s := [n]) t p).greatest.number := by
  have ranked (c : Fin 4) : Tensor.get (s := [4, n])
      #v[entryOf t 0 0, entryOf t 1 1, entryOf t 2 2, traceOf t] (c, p) =
        (Tensor.matrix (s := [n]) t p).ranked.component c := by
    have column := Tensor.column_rows (entryOf t 0 0) (entryOf t 1 1) (entryOf t 2 2) (traceOf t) p
    rw [get_entryOf, get_entryOf, get_entryOf, get_traceOf] at column
    exact (Quaternion.component_ofComponents _ c).symm.trans (congrArg (·.component c) column)
  rw [choiceOf, Tensor.greatestRow, Tensor.get_ofFn, Mat3.number_greatest]
  simp only [ranked]

variable [NatCast α] [Zero α] [One α] [Add α] [Sub α] [Mul α] [Div α] [LT α] [DecidableLT α]
  [SquareRoot α]

theorem column_sizesOf : (sizesOf t).column p = (Tensor.matrix (s := [n]) t p).sizes := by
  rw [sizesOf, Tensor.column_map, Tensor.column_map, Tensor.column_rows]
  simp only [Tensor.get_zipWith, Tensor.get_map, get_entryOf, get_traceOf]
  rfl

theorem get_sizesOf (c : Fin 4) :
    (sizesOf t).get (c, p) = (Tensor.matrix (s := [n]) t p).sizes.component c := by
  rw [← column_sizesOf, Tensor.column, Quaternion.component_ofComponents]

theorem column_casesOf (c : Quaternion.Part) :
    (Tensor.row (casesOf t) c.number).column p = (Tensor.matrix (s := [n]) t p).caseOf c := by
  cases c with
  | x | y | z | w =>
    refine (Tensor.column_rows _ _ _ _ p).trans ?_
    simp only [Tensor.get_zipWith, Tensor.get_row, Tensor.get_map, get_entryOf]
    rw [get_sizesOf]
    rfl

variable [Neg α] [LE α] [DecidableLE α]

omit p in
/-- Each column is picked from the case of its own matrix, and has its own sign. -/
theorem quaternionStack_columns :
    quaternionStack t =
      .ok ⟨[4, n], .ofColumns fun p => .ofMatrix (Tensor.matrix (s := [n]) t p)⟩ := by
  have picked (i : Fin 4) (p : Position [n]) :
      ((casesOf t).pick (choiceOf t) (.numbers n)).transpose.get (i, p) =
        ((Tensor.matrix (s := [n]) t p).caseOf
          (Tensor.matrix (s := [n]) t p).greatest).component i := by
    rw [Tensor.get_transpose, Tensor.get_pick, Tensor.get_numbers, get_choiceOf, ← column_casesOf,
      Tensor.column, Quaternion.component_ofComponents]
    rfl
  rw [quaternionStack, Grid.mul, Grid.zipWith_row]
  refine congrArg (fun t => Except.ok (Grid.mk [4, n] t)) (Tensor.ext_get ?_)
  rintro ⟨i, p⟩
  rw [Tensor.get_ofFn, Tensor.ofColumns, Tensor.get_ofFn, Tensor.get_map, Tensor.get_row, picked,
    picked]
  fin_cases i <;> rfl

omit p in
theorem ofMatrices_columns :
    ofMatrices (.ok ⟨[n, 3, 3], t⟩) =
      .ok ⟨[4, n], .ofColumns fun p => .ofMatrix (Tensor.matrix (s := [n]) t p)⟩ := by
  have stack : matrixStack ⟨[n, 3, 3], t⟩ = .ok ⟨n, t⟩ := by
    -- a single matrix is looked for first, so the length has to be known before the array is read
    match n with
    | 0 | 1 | 2 | 3 => rfl
    | _ + 4 => rfl
  unfold ofMatrices
  simp only [bind, Except.bind, stack, quaternionStack_columns]
  rfl

omit t p in
/-- One matrix is a stack of one, of which the one column is read. -/
theorem ofMatrices_toGrid (m : Mat3 α) :
    ofMatrices m.toGrid = .ok (Quaternion.ofMatrix m).toGrid := by
  let t : Tensor α [1, 3, 3] := #v[Tensor.ofMatrices (s := []) fun _ => m]
  show (quaternionStack t).bind (Grid.columnAt 0) = _
  rw [quaternionStack_columns]
  rfl

end OfMatrices

end Stack

end FlightAttitude
