/-
# FlightAttitude.Proofs.Angle.Residue — two wraps of one circle

The angles that differ by whole turns are one direction. Of these the signed wrap takes the only one in
`(-180, 180]` and the unsigned wrap the only one in `[0, 360)`, each by arithmetic of its own: a floor
that counts turns from the upper end, and a truncated remainder that is moved up where it is negative.
So it does not matter which angle of a direction either of them is given, nor whether the other one has
wrapped it before, and both tell the same directions apart (`wraps_canonical`).

All of this is about exact numbers; what rounding does to the ends of the ranges is the subject of
`FlightAttitude.Proofs.Angle.OpenEnds`.
-/
import FlightAttitude.Proofs.Angle.Circle
import FlightAttitude.Stack.Vectors

namespace FlightAttitude

universe u

namespace Angle

section Residues

variable {K : Type u} [Field K] [LinearOrder K] [IsStrictOrderedRing K] [FloorRing K]

/-! ## §1 The only angle in the range -/

/-- **`Canonical range wrap`** — `wrap` takes, of all angles of one direction, the only one in `range`. -/
structure Canonical (range : Set K) (wrap : K → K) : Prop where
  only (a b : K) : (b ∈ range ∧ ∃ k : ℤ, b = a + k * 360) ↔ b = wrap a
  idempotent (a : K) : wrap (wrap a) = wrap a
  periodic : Function.Periodic wrap 360

omit [LinearOrder K] [IsStrictOrderedRing K] [FloorRing K] in
/-- Turns are counted from either angle, with the sign turned round. -/
theorem exists_turns_comm {a b : K} : (∃ k : ℤ, b = a + k * 360) ↔ ∃ k : ℤ, a = b + k * 360 := by
  constructor
  · rintro ⟨k, rfl⟩
    exact ⟨-k, by push_cast; ring⟩
  · rintro ⟨k, rfl⟩
    exact ⟨-k, by push_cast; ring⟩

theorem canonical_wrapSigned : Canonical (Set.Ioc (-180 : K) 180) wrapSigned where
  only a b := by
    have hrange : Set.Ioc (-180 : K) (-180 + 360) = Set.Ioc (-180) 180 := by norm_num
    rw [exists_turns_comm, eq_comm, wrapSigned_eq_toIocMod, toIocMod_eq_iff, hrange]
    simp only [zsmul_eq_mul]
  idempotent a := by
    rw [wrapSigned_eq_toIocMod, wrapSigned_eq_toIocMod, toIocMod_toIocMod]
  periodic a := by
    rw [wrapSigned_eq_toIocMod, wrapSigned_eq_toIocMod, toIocMod_add_right]

theorem canonical_wrapUnsigned : Canonical (Set.Ico (0 : K) 360) wrapUnsigned where
  only a b := by
    rw [exists_turns_comm, eq_comm, wrapUnsigned_eq_toIcoMod, toIcoMod_eq_iff, zero_add]
    simp only [zsmul_eq_mul]
  idempotent a := by
    rw [wrapUnsigned_eq_toIcoMod, wrapUnsigned_eq_toIcoMod, toIcoMod_toIcoMod]
  periodic a := by
    rw [wrapUnsigned_eq_toIcoMod, wrapUnsigned_eq_toIcoMod, toIcoMod_add_right]

/-! ## §2 One wrap after the other -/

theorem wrapSigned_wrapUnsigned (a : K) : wrapSigned (wrapUnsigned a) = wrapSigned a := by
  rw [wrapSigned_eq_toIocMod, wrapUnsigned_eq_toIcoMod, toIocMod_toIcoMod, wrapSigned_eq_toIocMod]

theorem wrapUnsigned_wrapSigned (a : K) : wrapUnsigned (wrapSigned a) = wrapUnsigned a := by
  rw [wrapUnsigned_eq_toIcoMod, wrapSigned_eq_toIocMod, toIcoMod_toIocMod, wrapUnsigned_eq_toIcoMod]

/-- Each wrap can be had from the other, so neither tells more directions apart. -/
theorem wrapSigned_eq_iff_wrapUnsigned_eq {a b : K} :
    wrapSigned a = wrapSigned b ↔ wrapUnsigned a = wrapUnsigned b := by
  constructor
  · intro h
    rw [← wrapUnsigned_wrapSigned a, h, wrapUnsigned_wrapSigned]
  · intro h
    rw [← wrapSigned_wrapUnsigned a, h, wrapSigned_wrapUnsigned]

end Residues

/-- **Both wraps choose canonical angles of the same directions**, and arrays are wrapped cell by cell. -/
theorem wraps_canonical :
    Canonical (Set.Ioc (-180 : ℚ) 180) wrapSigned ∧
    Canonical (Set.Ico (0 : ℚ) 360) wrapUnsigned ∧
    (∀ a : ℚ, wrapSigned (wrapUnsigned a) = wrapSigned a) ∧
    (∀ a : ℚ, wrapUnsigned (wrapSigned a) = wrapUnsigned a) ∧
    (∀ a b : ℚ, wrapSigned a = wrapSigned b ↔ wrapUnsigned a = wrapUnsigned b) ∧
    ∀ angles : Grid ℚ,
      Stack.wrapSigned (.ok angles) = .ok (angles.map wrapSigned) ∧
      Stack.wrapUnsigned (.ok angles) = .ok (angles.map wrapUnsigned) :=
  ⟨canonical_wrapSigned, canonical_wrapUnsigned, wrapSigned_wrapUnsigned, wrapUnsigned_wrapSigned,
    fun _ _ => wrapSigned_eq_iff_wrapUnsigned_eq, fun _ => ⟨rfl, rfl⟩⟩

/-- The two ends that are left out, and a negative angle. -/
example : wrapSigned (-180 : ℚ) = 180 ∧ wrapUnsigned (360 : ℚ) = 0 ∧
    wrapUnsigned (-450 : ℚ) = 270 := by
  decide +kernel

end Angle

end FlightAttitude
