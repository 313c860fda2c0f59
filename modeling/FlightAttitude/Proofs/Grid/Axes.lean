/-
# FlightAttitude.Proofs.Grid.Axes — what meets what, where axes are added at the end

Two shapes agree axis by axis, so they agree in two parts where both parts do (`Shape.joinAxes_append`),
and the smaller one is then read in two parts (`Shape.alongAxes?_append`). An array with two axes of
length one at the end therefore meets an array of matrices with the cell that stands where the matrix
does (`Grid.zipWith_overOnes`), and one matrix with the cell of every position
(`Grid.zipWith_overOnes_matrix`). An array of matrices is taken apart into the matrices and their
entries whatever the leading axes are (`Grid.lastTwo?_append`, `Grid.entries_append`).

Rows, picked cells and stacked rows are described cell by cell.
-/
import FlightAttitude.Grid.Axes

namespace FlightAttitude

universe u v w

variable {α : Type u} {β : Type v} {γ : Type w} {s t : Shape} {m n : Nat}

/-! ## §1 Shapes in two parts -/

namespace Position

theorem append_split : (s : Shape) → {t : Shape} → (p : Position (s ++ t)) →
    append (split s p).1 (split s p).2 = p
  | [], _, _ => rfl
  | _ :: s, _, (i, p) => by rw [split, append, append_split s p]

end Position

namespace Shape

theorem joinAxes_append {s s' t t' r q : Shape} (front : joinAxes s s' = some r)
    (back : joinAxes t t' = some q) : joinAxes (s ++ t) (s' ++ t') = some (r ++ q) := by
  induction s generalizing s' r with
  | nil =>
    cases s' with
    | nil =>
      cases front
      exact back
    | cons => cases front
  | cons m s ih =>
    cases s' with
    | nil => cases front
    | cons n s' =>
      obtain ⟨rest, agree, head⟩ := Option.bind_eq_some_iff.mp front
      rw [List.cons_append, List.cons_append, joinAxes, ih agree, Option.bind_some]
      -- how the first axes agree does not depend on the axes after them
      by_cases same : m = n
      · rw [if_pos same] at head ⊢
        cases head
        rfl
      by_cases left : m = 1
      · rw [if_neg same, if_pos left] at head ⊢
        cases head
        rfl
      by_cases right : n = 1
      · rw [if_neg same, if_neg left, if_pos right] at head ⊢
        cases head
        rfl
      · rw [if_neg same, if_neg left, if_neg right] at head
        cases head

theorem padTo_of_le {k : Nat} (s : Shape) (long : k ≤ s.length) : padTo k s = s := by
  simp [padTo, Nat.sub_eq_zero_of_le long]

/-- Lengths one give way to any lengths, on the last two axes. -/
theorem join_overOnes (s : Shape) (m n : Nat) :
    join (s ++ [1, 1]) (s ++ [m, n]) = some (s ++ [m, n]) := by
  rw [join, padTo_of_le _ (by simp), padTo_of_le _ (by simp)]
  exact joinAxes_append (joinAxes_self s) (ones_joinAxes [m, n])

/-- Two axes meet the last two. -/
theorem join_overOnes_matrix (s : Shape) (m n : Nat) :
    join (s ++ [1, 1]) [m, n] = some (s ++ [m, n]) := by
  have front : padTo (s ++ [1, 1]).length [m, n] = List.replicate s.length 1 ++ [m, n] := by
    simp [padTo]
  rw [join, padTo_of_le _ (by simp), front]
  exact joinAxes_append (joinAxes_ones s) (ones_joinAxes [m, n])

theorem alongAxes?_append {s s' t t' : Shape} {f : Position s' → Position s}
    {g : Position t' → Position t} (front : alongAxes? s s' = some f)
    (back : alongAxes? t t' = some g) :
    alongAxes? (s ++ t) (s' ++ t') =
      some fun p => (f (Position.split s' p).1).append (g (Position.split s' p).2) := by
  induction s generalizing s' with
  | nil =>
    cases s' with
    | nil =>
      cases front
      exact back
    | cons => cases front
  | cons m s ih =>
    cases s' with
    | nil => cases front
    | cons n s' =>
      obtain ⟨rest, agree, head⟩ := Option.bind_eq_some_iff.mp front
      refine (congrArg (Option.bind · _) (ih agree)).trans ?_
      rw [Option.bind_some]
      by_cases same : m = n
      · rw [dif_pos same] at head ⊢
        cases head
        rfl
      by_cases left : m = 1
      · rw [dif_neg same, dif_pos left] at head ⊢
        cases head
        rfl
      · rw [dif_neg same, dif_neg left] at head
        cases head

/-- The last axes of a shape are read along all the others again and again. -/
theorem reading?_append (s t : Shape) :
    reading? t (s ++ t) = some fun p => (Position.split s p).2 := by
  induction s with
  | nil => exact reading?_self t
  | cons n s ih =>
    -- an axis that only the longer shape has is passed over
    have short : t.length ≤ (s ++ t).length := by simp
    exact (if_pos short).trans
      (congrArg (Option.map fun (f : Position (s ++ t) → Position t) (p : Fin n × _) => f p.2) ih)

theorem reading?_of_length {s t : Shape} (h : s.length = t.length) :
    reading? s t = alongAxes? s t := by
  cases t with
  | nil => rfl
  | cons n t =>
    have long : ¬ s.length ≤ t.length := by
      rw [h, List.length_cons]
      omega
    rw [reading?, if_neg long]

/-- An axis of length one is read at its one place. -/
theorem alongAxes?_one {s t : Shape} {f : Position t → Position s} (rest : alongAxes? s t = some f)
    (n : Nat) : alongAxes? (1 :: s) (n :: t) = some fun p => (0, f p.2) := by
  rw [alongAxes?, rest, Option.bind_some]
  by_cases h : 1 = n
  · rw [dif_pos h]
    congr 1
    funext p
    exact congrArg (·, f p.2) (Subsingleton.elim (p.1.cast h.symm) 0)
  · rw [dif_neg h, dif_pos rfl]
    rfl

theorem reading?_overOnes (s : Shape) (m n : Nat) :
    reading? (s ++ [1, 1]) (s ++ [m, n]) =
      some fun p => (Position.split s p).1.append (0, 0, ()) := by
  rw [reading?_of_length (by simp)]
  exact alongAxes?_append (alongAxes?_self s) (alongAxes?_one (alongAxes?_one (alongAxes?_self []) n) m)

theorem splitLastTwo?_append (s : Shape) (m n : Nat) :
    splitLastTwo? (s ++ [m, n]) = some ⟨(s, m, n), rfl⟩ := by
  induction s with
  | nil => rfl
  | cons k s ih =>
    match s with
    | [] => rfl
    | [_] => rfl
    | _ :: _ :: _ => simp_all [splitLastTwo?]

end Shape

/-! ## §2 Arrays, cell by cell -/

namespace Tensor

/-- Arrays of matrices with the same entries are equal. -/
theorem ext_entries {a b : Tensor α (s ++ [m, n])}
    (h : ∀ (p : Position s) i j, a.get (p.append (i, j, ())) = b.get (p.append (i, j, ()))) :
    a = b := by
  apply ext_get
  intro p
  rw [← Position.append_split s p]
  exact h _ _ _

theorem overOnes_map (f : α → β) (a : Tensor α s) :
    (a.overOnes.map f : Tensor β (s ++ [1, 1])) = (a.map f).overOnes := by
  simp only [overOnes, map, get_ofFn]

end Tensor

namespace Grid

theorem overOnes_of_few (few : s.length + 2 ≤ maxAxes) (a : Tensor α s) :
    overOnes ⟨s, a⟩ = .ok ⟨s ++ [1, 1], a.overOnes⟩ :=
  if_neg (Nat.not_lt.mpr few)

theorem map_overOnes (f : α → β) (a : Tensor α s) :
    map f ⟨s ++ [1, 1], a.overOnes⟩ = ⟨s ++ [1, 1], (a.map f).overOnes⟩ := by
  rw [map, Tensor.overOnes_map]

theorem zipWith_overOnes_overOnes (f : α → β → γ) (a : Tensor α s) (b : Tensor β s) :
    zipWith f ⟨s ++ [1, 1], a.overOnes⟩ ⟨s ++ [1, 1], b.overOnes⟩ =
      .ok ⟨s ++ [1, 1], (a.zipWith f b).overOnes⟩ := by
  simp only [zipWith_same, Tensor.overOnes, Tensor.zipWith, Tensor.get_ofFn]

/-- A number meets every entry of the matrix that stands where it does. -/
theorem zipWith_overOnes (f : α → β → γ) (a : Tensor α s) (b : Tensor β (s ++ [m, n])) :
    zipWith f ⟨s ++ [1, 1], a.overOnes⟩ ⟨s ++ [m, n], b⟩ =
      .ok ⟨s ++ [m, n], .ofFn fun p => f (a.get (Position.split s p).1) (b.get p)⟩ := by
  rw [zipWith_of_join f (Shape.join_overOnes s m n) (Shape.reading?_overOnes s m n)
    (Shape.reading?_self _)]
  simp only [Tensor.get_overOnes, id_eq]

/-- A number meets every entry of one matrix, and does so at every position. -/
theorem zipWith_overOnes_matrix (f : α → β → γ) (a : Tensor α s) (b : Tensor β [m, n]) :
    zipWith f ⟨s ++ [1, 1], a.overOnes⟩ ⟨[m, n], b⟩ =
      .ok ⟨s ++ [m, n],
        .ofFn fun p => f (a.get (Position.split s p).1) (b.get (Position.split s p).2)⟩ := by
  rw [zipWith_of_join f (Shape.join_overOnes_matrix s m n) (Shape.reading?_overOnes s m n)
    (Shape.reading?_append s [m, n])]
  simp only [Tensor.get_overOnes]

theorem lastTwo?_append (t : Tensor α (s ++ [m, n])) :
    lastTwo? ⟨s ++ [m, n], t⟩ = some ⟨s, m, n, t⟩ := by
  rw [lastTwo?, Shape.splitLastTwo?_append]
  rfl

theorem entries_append (t : Tensor α (s ++ [m, n])) {i j : Nat} (hi : i < m) (hj : j < n) :
    entries i j ⟨s ++ [m, n], t⟩ = .ok ⟨s, t.entries ⟨i, hi⟩ ⟨j, hj⟩⟩ := by
  rw [entries, lastTwo?_append]
  exact dif_pos ⟨hi, hj⟩

/-- Arrays of one shape are chosen from position for position. -/
theorem select_same (c : Tensor Bool s) (a b : Tensor α s) :
    select ⟨s, c⟩ ⟨s, a⟩ ⟨s, b⟩ = .ok ⟨s, .ofFn fun p => if c.get p then a.get p else b.get p⟩ := by
  show (zipWith Prod.mk ⟨s, a⟩ ⟨s, b⟩).bind _ = _
  rw [zipWith_same, Except.bind, zipWith_same]
  simp only [Tensor.get_ofFn]

/-- One number is chosen in the place of any cell. -/
theorem select_scalar (c : Tensor Bool s) (a : α) (b : Tensor α s) :
    select ⟨s, c⟩ (scalar a) ⟨s, b⟩ = .ok ⟨s, .ofFn fun p => if c.get p then a else b.get p⟩ := by
  show (zipWith Prod.mk (scalar a) ⟨s, b⟩).bind _ = _
  rw [scalar_zipWith, Except.bind]
  show zipWith _ ⟨s, c⟩ ⟨s, _⟩ = _
  rw [zipWith_same]
  simp only [Tensor.get_map]

theorem rowsOf_same (s : Shape) (ts : List (Tensor α s)) :
    rowsOf s (ts.map fun t => ⟨s, t⟩) = some ts := by
  induction ts with
  | nil => rfl
  | cons t ts ih => simp [rowsOf, ih]

/-- Arrays of one shape are stacked as the rows of one array. -/
theorem stack_same (t : Tensor α s) (ts : List (Tensor α s)) :
    stack ((t :: ts).map fun t => ⟨s, t⟩) =
      .ok ⟨(ts.length + 1) :: s, ⟨(t :: ts).toArray, List.size_toArray⟩⟩ := by
  simp only [List.map_cons, stack, rowsOf_same]

end Grid

end FlightAttitude
