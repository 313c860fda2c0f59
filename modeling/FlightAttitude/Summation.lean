/-
# FlightAttitude.Summation — adding up many numbers

A sum of rounded numbers depends on the order of its additions. A short sum runs in order. A longer
one is kept in eight running sums, each of which takes every eighth term: they are joined in pairs,
and the terms left over follow in order. Past a hundred and twenty-eight terms a sum is that of its
two halves (`Summation.total`). In exact arithmetic all of this is the plain sum.

Columns that stand side by side in an array are added up row by row, each of them in order; only a
column that stands alone is taken as one run of terms (`Summation.ofColumn`).
-/

namespace FlightAttitude.Summation

universe u

variable {α : Type u} [Zero α] [Add α]

/-- **`inOrder start xs`** — `start` and the terms, added from left to right. -/
def inOrder (start : α) (xs : List α) : α :=
  xs.foldl (· + ·) start

/-- **`lane xs k`** — every eighth term from the `k`th on, as far as all eight lanes have one. -/
def lane (xs : List α) (k : Nat) : α :=
  inOrder 0 ((List.range (xs.length / 8)).filterMap fun row => xs[8 * row + k]?)

/-- **`inLanes xs`** — the sum by eight lanes. -/
def inLanes (xs : List α) : α :=
  let l := lane xs
  let joined := ((l 0 + l 1) + (l 2 + l 3)) + ((l 4 + l 5) + (l 6 + l 7))
  inOrder joined (xs.drop (xs.length / 8 * 8))

/-- **`total xs`** — the sum of a run of terms. The halves of a long run begin at a multiple of eight. -/
def total (xs : List α) : α :=
  if xs.length < 8 then inOrder 0 xs
  else if xs.length ≤ 128 then inLanes xs
  else total (xs.take (xs.length / 2 / 8 * 8)) + total (xs.drop (xs.length / 2 / 8 * 8))
termination_by xs.length
decreasing_by
  · simp only [List.length_take]
    omega
  · simp only [List.length_drop]
    omega

/-- **`ofColumn alone f`** — the sum of the terms `f 0`, `f 1`, and so on, from zero. -/
def ofColumn {n : Nat} (alone : Bool) (f : Fin n → α) : α :=
  if alone && 8 ≤ n then 0 + total (List.ofFn f) else Fin.foldl n (fun sum i => sum + f i) 0

/-- A column of fewer than eight terms is added up in order, wherever it stands. -/
theorem ofColumn_of_lt {n : Nat} (h : n < 8) (alone : Bool) (f : Fin n → α) :
    ofColumn alone f = Fin.foldl n (fun sum i => sum + f i) 0 := by
  have : ¬ 8 ≤ n := by omega
  simp [ofColumn, this]

end FlightAttitude.Summation
