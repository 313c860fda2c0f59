/-
# FlightAttitude.Proofs.Quaternion.Group — the algebra of the Hamilton product

Over every commutative ring the quaternions are a monoid, `Quaternion.inverse` reverses products and
undoes itself, and the squared length is multiplicative. That is all that a group needs: before and
behind a quaternion, its inverse leaves nothing but the squared length (`mul_inverse`,
`inverse_mul_self`), so those of length one are a group under the two functions
(`UnitQuaternion`).

Over the reals lengths are multiplied too, and bringing to length one is multiplicative
(`normalize_mul`). It has to be asked there that the factors are not zero, and then the product is not
zero either (`mul_ne_zero`).
-/
import FlightAttitude.Proofs.Quaternion.Length
import FlightAttitude.Proofs.Stack.Single

namespace FlightAttitude

universe u

namespace Quaternion

/-! ## §1 The monoid -/

section Ring

variable {α : Type u} [CommRing α]

instance : One (Quaternion α) := ⟨identity⟩

instance : Monoid (Quaternion α) where
  mul_assoc p q r := by
    ext <;> simp only [mul_eq] <;> ring
  one_mul := identity_mul
  mul_one := mul_identity

theorem inverse_mul (p q : Quaternion α) : (p * q).inverse = q.inverse * p.inverse := by
  ext <;> simp only [mul_eq, inverse] <;> ring

theorem inverse_inverse (q : Quaternion α) : q.inverse.inverse = q := by
  ext <;> simp only [inverse, neg_neg]

/-- The inverse stands in front: what stood behind, with the quaternion and its inverse exchanged. -/
theorem inverse_mul_self (q : Quaternion α) : q.inverse * q = ⟨0, 0, 0, q.normSq⟩ := by
  have behind := mul_inverse q.inverse
  rwa [inverse_inverse, normSq_inverse] at behind

theorem scale_mul_scale (j k : α) (p q : Quaternion α) :
    p.scale j * q.scale k = (p * q).scale (j * k) := by
  ext <;> simp only [mul_eq, scale_def] <;> ring

end Ring

/-! ## §2 Lengths -/

variable {p q : Quaternion ℝ}

theorem norm_mul (p q : Quaternion ℝ) : (p * q).norm = p.norm * q.norm := by
  rw [norm, sqrt_eq, normSq_mul, Real.sqrt_mul p.normSq_nonneg]
  rfl

theorem norm_inverse (q : Quaternion ℝ) : q.inverse.norm = q.norm := by
  rw [norm, normSq_inverse, ← norm]

theorem norm_identity : (identity : Quaternion ℝ).norm = 1 := by
  rw [norm_eq_one_iff, normSq_eq]
  simp only [identity]
  norm_num

/-- There are no divisors of zero: the length of the product would be zero. -/
theorem mul_ne_zero (hp : p ≠ 0) (hq : q ≠ 0) : p * q ≠ 0 := by
  intro h
  have hnormSq : p.normSq * q.normSq = 0 := by rw [← normSq_mul, normSq_eq_zero_iff.mpr h]
  rcases mul_eq_zero.mp hnormSq with h0 | h0
  · exact hp (normSq_eq_zero_iff.mp h0)
  · exact hq (normSq_eq_zero_iff.mp h0)

theorem normalize_mul (p q : Quaternion ℝ) : (p * q).normalize = p.normalize * q.normalize := by
  rw [normalize_eq, normalize_eq, normalize_eq, scale_mul_scale, norm_mul, mul_inv]

end Quaternion

/-! ## §3 The group of unit quaternions -/

/-- **`UnitQuaternion`** — a quaternion of length one. -/
abbrev UnitQuaternion := {q : Quaternion ℝ // q.norm = 1}

namespace UnitQuaternion

/-- The product and `Quaternion.inverse` do not leave the quaternions of length one. -/
noncomputable instance : Group UnitQuaternion where
  mul p q := ⟨p.1 * q.1, by rw [Quaternion.norm_mul, p.2, q.2, mul_one]⟩
  one := ⟨.identity, Quaternion.norm_identity⟩
  inv q := ⟨q.1.inverse, by rw [Quaternion.norm_inverse, q.2]⟩
  mul_assoc p q r := Subtype.ext (mul_assoc p.1 q.1 r.1)
  one_mul q := Subtype.ext (Quaternion.identity_mul q.1)
  mul_one q := Subtype.ext (Quaternion.mul_identity q.1)
  inv_mul_cancel q := Subtype.ext <| by
    show q.1.inverse * q.1 = .identity
    rw [Quaternion.inverse_mul_self, Quaternion.norm_eq_one_iff.mp q.2]
    rfl

end UnitQuaternion

/-! ## §4 Arrays of one quaternion -/

namespace Stack

theorem quaternionNorms_toGrid {α : Type} [Zero α] [Add α] [Mul α] [SquareRoot α]
    (q : Quaternion α) : quaternionNorms q.toGrid = .ok (.scalar q.norm) := rfl

/-- Every real number counts as finite, so nothing is said. -/
theorem normalize_toGrid (q : Quaternion ℝ) : normalize q.toGrid = ⟨[], .ok q.normalize.toGrid⟩ :=
  rfl

end Stack

namespace Quaternion

/-- **The laws of the product.** Over every commutative ring it is associative, has the identity, and
multiplies squared lengths; the inverse reverses products, undoes itself, and leaves the squared length
when it is multiplied with its quaternion, on either side. Over the reals lengths are multiplied, the
quaternions of length one are a group under these two functions, and bringing to length one is
multiplicative where there is a length to bring to one. These are the functions that arrays of one
quaternion run. -/
theorem product_laws :
    (∀ (α : Type u) [CommRing α] (p q r : Quaternion α),
      p * q * r = p * (q * r) ∧ p * ⟨0, 0, 0, 1⟩ = p ∧ ⟨0, 0, 0, 1⟩ * p = p ∧
      (p * q).normSq = p.normSq * q.normSq ∧
      (p * q).inverse = q.inverse * p.inverse ∧ p.inverse.inverse = p ∧
      p * p.inverse = ⟨0, 0, 0, p.normSq⟩ ∧ p.inverse * p = ⟨0, 0, 0, p.normSq⟩) ∧
    (∀ p q : Quaternion ℝ, (p * q).norm = p.norm * q.norm ∧
      (p ≠ 0 → q ≠ 0 → p * q ≠ 0 ∧ (p * q).normalize = p.normalize * q.normalize)) ∧
    (∃ _ : Group {q : Quaternion ℝ // q.norm = 1},
      (∀ p q : {q : Quaternion ℝ // q.norm = 1},
        (p * q).val = p.val * q.val ∧ p⁻¹.val = p.val.inverse) ∧
      (1 : {q : Quaternion ℝ // q.norm = 1}).val = ⟨0, 0, 0, 1⟩) ∧
    (∀ (α : Type) [CommRing α] (p q : Quaternion α),
      Stack.multiply p.toGrid q.toGrid = .ok (p * q).toGrid ∧
      Stack.inverses p.toGrid = .ok p.inverse.toGrid) ∧
    ∀ q : Quaternion ℝ, Stack.quaternionNorms q.toGrid = .ok (.scalar q.norm) ∧
      Stack.normalize q.toGrid = ⟨[], .ok q.normalize.toGrid⟩ := by
  refine ⟨fun α _ p q r => ?_, fun p q => ?_, ⟨inferInstance, ?_, rfl⟩, fun α _ p q => ?_, fun q => ?_⟩
  · exact ⟨mul_assoc p q r, mul_identity p, identity_mul p, normSq_mul p q, inverse_mul p q,
      inverse_inverse p, mul_inverse p, inverse_mul_self p⟩
  · exact ⟨norm_mul p q, fun hp hq => ⟨mul_ne_zero hp hq, normalize_mul p q⟩⟩
  · exact fun p q => ⟨rfl, rfl⟩
  · exact ⟨Stack.multiply_toGrid p q, Stack.inverses_toGrid p⟩
  · exact ⟨Stack.quaternionNorms_toGrid q, Stack.normalize_toGrid q⟩

/-- Two quaternions of length five. -/
theorem product_laws_fives :
    let p : Quaternion ℝ := ⟨1, 2, 2, 4⟩
    let q : Quaternion ℝ := ⟨0, 0, 3, 4⟩
    p ≠ 0 ∧ q ≠ 0 ∧ p * q = ⟨10, 5, 20, 10⟩ ∧ p * q ≠ 0 ∧
      (p * q).normalize = p.normalize * q.normalize := by
  intro p q
  have hp : p ≠ 0 := by simp [p, zero_def]
  have hq : q ≠ 0 := by simp [q, zero_def]
  have hproduct : p * q = ⟨10, 5, 20, 10⟩ := by
    rw [mul_eq]
    norm_num [p, q]
  exact ⟨hp, hq, hproduct, (product_laws.{0}.2.1 p q).2 hp hq⟩

end Quaternion

end FlightAttitude
