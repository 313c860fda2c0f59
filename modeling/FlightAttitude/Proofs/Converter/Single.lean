/-
# FlightAttitude.Proofs.Converter.Single — one quaternion through a converter

Every conversion prepares its quaternion first and reads nothing else of it afterwards. So a conversion
is known once it is known what the preparation made (`attitudes_of_prepare`, `inverses_of_prepare`), and
there are two cases in which that is plain: the check brings everything to length one
(`prepare_toGrid_of_normalize`), or the quaternion has that length to begin with
(`prepare_toGrid_of_unit`).

The angles of one quaternion are then rounded and wrapped one by one (`Attitude.rounded`).
-/
import FlightAttitude.Proofs.Converter.Prepare
import FlightAttitude.Proofs.Stack.Attitudes

namespace FlightAttitude

/-! ## §1 Rounded angles -/

/-- **`Angle.rounded places wrap x`** — the angle `x` rounded to the places, if any, and wrapped then. -/
noncomputable def Angle.rounded (places : Option ℤ) (wrap : ℝ → ℝ) (x : ℝ) : ℝ :=
  match places with
  | none => x
  | some n => wrap (roundPlaces n x)

/-- **`Attitude.rounded places a`** — each angle rounded, heading and roll wrapped into their ranges. -/
noncomputable def Attitude.rounded (places : Option ℤ) (a : Attitude ℝ) : Attitude ℝ where
  pitch := Angle.rounded places id a.pitch
  heading := Angle.rounded places Angle.wrapUnsigned a.heading
  roll := Angle.rounded places Angle.wrapSigned a.roll

namespace Converter

variable {c : Converter ℝ} {x : Operand ℝ} {u : Quaternion ℝ}

/-- What is done to one angle is done to each. -/
theorem round_eq {places : Option ℤ} (hplaces : c.places = .ok places) (wrap : ℝ → ℝ)
    (g : Grid ℝ) : c.round wrap g = .ok (g.map (Angle.rounded places wrap)) := by
  unfold round
  rw [hplaces]
  cases places with
  | none =>
    rw [Grid.map_eq_self fun _ => rfl]
    rfl
  | some n => rfl

theorem round_scalar {places : Option ℤ} (hplaces : c.places = .ok places) (wrap : ℝ → ℝ) (x : ℝ) :
    c.round wrap (.scalar x) = .ok (.scalar (Angle.rounded places wrap x)) :=
  round_eq hplaces wrap (.scalar x)

/-! ## §2 Preparation -/

theorem prepare_toGrid_of_normalize (hcheck : c.check = .normalize) (q : Quaternion ℝ) :
    c.prepare q.toGrid = ⟨[], .ok q.normalize.toGrid⟩ := by
  unfold prepare
  rw [hcheck]
  rfl

theorem prepare_toGrid_of_unit {t : ℝ} (ht : 0 ≤ t)
    (htol : c.tolerance = .ok (.scalar (Stack.upTo t))) {q : Quaternion ℝ} (hq : q.norm = 1) :
    c.prepare q.toGrid = ⟨[], .ok q.toGrid⟩ :=
  prepare_of_unit (q := .ofColumns fun _ => q) ht htol fun _ => hq

/-! ## §3 Conversions of what was prepared -/

theorem eulerAngles_of_prepare (h : c.prepare x = ⟨[], .ok u.toGrid⟩) (order : Datum) :
    c.eulerAngles order x = (do
      let angles ← Stack.eulerAngles order (.ok u.toGrid)
      c.round Angle.wrapUnsigned angles) := by
  unfold eulerAngles
  rw [h, Report.silent_bind]

theorem attitudes_of_prepare (h : c.prepare x = ⟨[], .ok u.toGrid⟩) {places : Option ℤ}
    (hplaces : c.places = .ok places) :
    c.attitudes x = ⟨[], .ok (Stack.attitudeParts (.scalar (u.attitude.rounded places)))⟩ := by
  unfold attitudes
  rw [h, Report.silent_bind, Stack.attitudes_toGrid, Report.lift_ok_bind]
  simp only [Stack.attitudeParts, Grid.map_scalar, round_scalar hplaces, Report.lift_ok_bind]
  rfl

theorem inverses_of_prepare (h : c.prepare x = ⟨[], .ok u.toGrid⟩) :
    c.inverses x = ⟨[], .ok u.inverse.toGrid⟩ := by
  unfold inverses
  rw [h]
  rfl

end Converter

end FlightAttitude
