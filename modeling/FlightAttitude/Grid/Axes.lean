/-
# FlightAttitude.Grid.Axes — axes that are read, added, moved and stacked

Rows are read from the first axis of an array and entries from its last two. Arrays get axes of length
one at the end, are stacked under a new axis, and have their axes moved and exchanged. Cells are also
picked by number, one row for each column.

Where the shape is known the operations are on `Tensor`, and each says of a position of its result which
cell it takes there. Where it is not they are on `Grid`, and a shape that does not suit them is a fault.
-/
import FlightAttitude.Grid
import FlightAttitude.Scalar

namespace FlightAttitude

universe u v w

variable {α : Type u} {β : Type v} {γ : Type w} {s : Shape} {k m n : Nat}

namespace Tensor

/-! ## §1 Rows -/

/-- **`zipWith f a b`** — two arrays of one shape, combined cell by cell. -/
def zipWith (f : α → β → γ) (a : Tensor α s) (b : Tensor β s) : Tensor γ s :=
  .ofFn fun p => f (a.get p) (b.get p)

/-- **`row t i`** — the row at `i`. -/
def row (t : Tensor α (n :: s)) (i : Fin n) : Tensor α s :=
  Vector.get t i

/-- **`firstRows few t`** — the rows before the one at `k`. -/
def firstRows (few : k ≤ n) (t : Tensor α (n :: s)) : Tensor α (k :: s) :=
  .ofFn fun (i, p) => t.get (i.castLE few, p)

/-- **`greatestRow t`** — for each column the number of the row that holds its greatest cell. -/
def greatestRow [LE α] [DecidableLE α] (t : Tensor α ((n + 1) :: s)) : Tensor (Fin (n + 1)) s :=
  .ofFn fun p =>
    Fin.foldl n (fun best i => if exceeds (t.get (best, p)) (t.get (i.succ, p)) then i.succ else best) 0

theorem get_row (t : Tensor α (n :: s)) (i : Fin n) (p : Position s) :
    (t.row i).get p = t.get (i, p) := rfl

@[simp] theorem get_firstRows (few : k ≤ n) (t : Tensor α (n :: s)) (i : Fin k) (p : Position s) :
    (firstRows few t).get (i, p) = t.get (i.castLE few, p) := by
  rw [firstRows, get_ofFn]

@[simp] theorem get_zipWith (f : α → β → γ) (a : Tensor α s) (b : Tensor β s) (p : Position s) :
    (zipWith f a b).get p = f (a.get p) (b.get p) :=
  get_ofFn _ p

/-! ## §2 The last two axes -/

/-- **`entries t i j`** — the entries in row `i` and column `j` on the last two axes. -/
def entries (t : Tensor α (s ++ [m, n])) (i : Fin m) (j : Fin n) : Tensor α s :=
  .ofFn fun p => t.get (p.append (i, j, ()))

/-- **`traces t`** — the sums of the diagonals on the last two axes, each from zero. -/
def traces [Zero α] [Add α] (t : Tensor α (s ++ [n, n])) : Tensor α s :=
  .ofFn fun p => Fin.foldl n (fun sum i => sum + t.get (p.append (i, i, ()))) 0

/-- **`overOnes t`** — the same array with two axes of length one at the end. -/
def overOnes (t : Tensor α s) : Tensor α (s ++ [1, 1]) :=
  .ofFn fun p => t.get (Position.split s p).1

/-- **`outer a b`** — the products of each row of `a` with each row of `b`, on two axes at the end. -/
def outer [Zero α] [Add α] [Mul α] (a : Tensor α (m :: s)) (b : Tensor α (n :: s)) :
    Tensor α (s ++ [m, n]) :=
  .ofFn fun p =>
    let (k, i, j, _) := Position.split s p
    0 + a.get (i, k) * b.get (j, k)

/-- **`moveFirstTwo t`** — the first two axes moved to the end. -/
def moveFirstTwo (t : Tensor α (m :: n :: s)) : Tensor α (s ++ [m, n]) :=
  .ofFn fun p =>
    let (k, i, j, _) := Position.split s p
    t.get (i, j, k)

/-- **`identity`** — ones on the diagonal, zeros beside it. -/
def identity [Zero α] [One α] : Tensor α [n, n] :=
  .ofFn fun (i, j, _) => if i = j then 1 else 0

@[simp] theorem get_overOnes (t : Tensor α s) (p : Position s) (q : Position [1, 1]) :
    t.overOnes.get (p.append q) = t.get p := by
  rw [overOnes, get_ofFn, Position.split_append]

theorem get_outer [Zero α] [Add α] [Mul α] (a : Tensor α (m :: s)) (b : Tensor α (n :: s))
    (p : Position s) (i : Fin m) (j : Fin n) :
    (outer a b).get (p.append (i, j, ())) = 0 + a.get (i, p) * b.get (j, p) := by
  rw [outer, get_ofFn, Position.split_append]

theorem get_moveFirstTwo (t : Tensor α (m :: n :: s)) (p : Position s) (i : Fin m)
    (j : Fin n) : t.moveFirstTwo.get (p.append (i, j, ())) = t.get (i, j, p) := by
  rw [moveFirstTwo, get_ofFn, Position.split_append]

theorem get_identity [Zero α] [One α] (i j : Fin n) (q : Position []) :
    (identity : Tensor α [n, n]).get (i, j, q) = if i = j then 1 else 0 := by
  rw [identity, get_ofFn]

theorem get_entries (t : Tensor α (s ++ [m, n])) (i : Fin m) (j : Fin n) (p : Position s) :
    (t.entries i j).get p = t.get (p.append (i, j, ())) :=
  get_ofFn _ p

/-! ## §3 Two and three axes -/

/-- **`transpose t`** — rows and columns exchanged. -/
def transpose (t : Tensor α [m, n]) : Tensor α [n, m] :=
  .ofFn fun (i, j, _) => t.get (j, i, ())

/-- **`lastFirst t`** — the last of three axes moved to the front. -/
def lastFirst (t : Tensor α [m, n, k]) : Tensor α [k, m, n] :=
  .ofFn fun (a, i, j, _) => t.get (i, j, a, ())

/-- **`exchangeFirstTwo t`** — the first two axes exchanged. -/
def exchangeFirstTwo (t : Tensor α (m :: n :: s)) : Tensor α (n :: m :: s) :=
  .ofFn fun (i, j, p) => t.get (j, i, p)

/-- **`numbers n`** — the numbers below `n`, in order. -/
def numbers (n : Nat) : Tensor (Fin n) [n] :=
  .ofFn fun (i, _) => i

/-- **`pick t i j`** — the columns of `t` that have the numbers `i` on the first axis and `j` on the last
one, each as a row. -/
def pick {c : Nat} (t : Tensor α [k, m, n]) (i : Tensor (Fin k) [c]) (j : Tensor (Fin n) [c]) :
    Tensor α [c, m] :=
  .ofFn fun (a, b, _) => t.get (i.get (a, ()), b, j.get (a, ()), ())

theorem get_transpose (t : Tensor α [m, n]) (i : Fin n) (j : Fin m) :
    t.transpose.get (i, j, ()) = t.get (j, i, ()) := by
  rw [transpose, get_ofFn]

theorem get_lastFirst (t : Tensor α [m, n, k]) (a : Fin k) (i : Fin m) (j : Fin n) :
    t.lastFirst.get (a, i, j, ()) = t.get (i, j, a, ()) := by
  rw [lastFirst, get_ofFn]

theorem get_exchangeFirstTwo (t : Tensor α (m :: n :: s)) (i : Fin n) (j : Fin m) (p : Position s) :
    t.exchangeFirstTwo.get (i, j, p) = t.get (j, i, p) := by
  rw [exchangeFirstTwo, get_ofFn]

theorem get_numbers (i : Fin n) : (numbers n).get (i, ()) = i := by
  rw [numbers, get_ofFn]

theorem get_pick {c : Nat} (t : Tensor α [k, m, n]) (i : Tensor (Fin k) [c]) (j : Tensor (Fin n) [c])
    (a : Fin c) (b : Fin m) :
    (t.pick i j).get (a, b, ()) = t.get (i.get (a, ()), b, j.get (a, ()), ()) := by
  rw [pick, get_ofFn]

end Tensor

namespace Grid

/-! ## §4 Arrays of an unknown shape -/

/-- **`row i g`** — the row at `i`. -/
def row (i : Nat) : Grid α → Except Fault (Grid α)
  | ⟨[], _⟩ => .error .noSuchRow
  | ⟨n :: s, t⟩ => if h : i < n then .ok ⟨s, Tensor.row t ⟨i, h⟩⟩ else .error .noSuchRow

/-- **`columnAt j g`** — the column at `j` of an array of two axes. -/
def columnAt (j : Nat) : Grid α → Except Fault (Grid α)
  | ⟨[m, n], t⟩ =>
    if h : j < n then
      .ok ⟨[m], .ofFn (s := [m]) fun (i, _) => Tensor.get (s := [m, n]) t (i, ⟨j, h⟩, ())⟩
    else .error .noSuchRow
  | _ => .error .tooManyAxes

/-- **`overOnes g`** — the same array with two axes of length one at the end. -/
def overOnes (g : Grid α) : Except Fault (Grid α) :=
  if maxAxes < g.shape.length + 2 then .error .tooManyAxes else .ok ⟨g.shape ++ [1, 1], g.cells.overOnes⟩

/-- **`LastTwo α`** — an array of at least two axes, with its last two told apart. -/
structure LastTwo (α : Type u) where
  lead : Shape
  rows : Nat
  columns : Nat
  cells : Tensor α (lead ++ [rows, columns])

/-- **`lastTwo? g`** — an array with its last two axes told apart, if it has as many. -/
def lastTwo? (g : Grid α) : Option (LastTwo α) :=
  (Shape.splitLastTwo? g.shape).map fun ⟨r, h⟩ => ⟨r.1, r.2.1, r.2.2, h ▸ g.cells⟩

/-- **`entries i j g`** — the entries in row `i` and column `j` on the last two axes. -/
def entries (i j : Nat) (g : Grid α) : Except Fault (Grid α) :=
  match g.lastTwo? with
  | some t =>
    if h : i < t.rows ∧ j < t.columns then .ok ⟨t.lead, t.cells.entries ⟨i, h.1⟩ ⟨j, h.2⟩⟩
    else .error .noSuchRow
  | none => .error .noSuchRow

/-- **`select c a b`** — the cells of `a` where `c` holds, and those of `b` elsewhere. -/
def select (c : Grid Bool) (a b : Grid α) : Except Fault (Grid α) := do
  let pairs ← zipWith Prod.mk a b
  zipWith (fun holds (x, y) => if holds then x else y) c pairs

/-- **`stackSecond gs`** — arrays of one shape under a new second axis. -/
def stackSecond (gs : List (Grid α)) : Except Fault (Grid α) := do
  match ← stack gs with
  | ⟨m :: n :: s, t⟩ =>
    if maxAxes < s.length + 2 then .error .tooManyAxes
    else return ⟨n :: m :: s, Tensor.exchangeFirstTwo t⟩
  | _ => .error .noFirstAxis

end Grid

end FlightAttitude
