/-
# FlightAttitude.Proofs.Converter.Reported — angles as a converter reports them

A converter that rounds answers what it would answer without rounding, with each angle rounded and
wrapped (`eulerAngles_eq_map`, `attitudes_eq_map`). Its notices and its faults are the same, since
rounding itself never fails. So all that is known of one reported angle is known of every cell of
what is answered: it is in range, it is off by at most half a step of the grid, up to whole turns, and
it is reported as itself (`reported_angles`).
-/
import FlightAttitude.Proofs.Angle.Reported
import FlightAttitude.Proofs.Attitude
import FlightAttitude.Proofs.Converter.Single

namespace FlightAttitude

universe u v

open Angle (Reported Wraps roundPlaces wrapSigned wrapUnsigned)

/-! ## §1 Answers that are related cell by cell -/

/-- **`Grid.Cellwise R a b`** — `a` and `b` are of one shape, and their cells at each position are related
by `R`. -/
inductive Grid.Cellwise {α : Type u} {β : Type v} (R : α → β → Prop) : Grid α → Grid β → Prop
  | intro {s : Shape} {a : Tensor α s} {b : Tensor β s} (cells : ∀ p, R (a.get p) (b.get p)) :
    Cellwise R ⟨s, a⟩ ⟨s, b⟩

theorem Grid.cellwise_map {α : Type u} {β : Type v} {R : α → β → Prop} {f : α → β}
    (h : ∀ x, R x (f x)) (g : Grid α) : g.Cellwise R (g.map f) :=
  .intro fun p => by
    rw [Tensor.get_map]
    exact h _

theorem Grid.Cellwise.map_eq_self {α : Type u} {β : Type v} {R : α → β → Prop} {f : β → β}
    {a : Grid α} {b : Grid β} (h : a.Cellwise R b) (fixed : ∀ x y, R x y → f y = y) :
    b.map f = b := by
  cases h with
  | intro cells => exact Grid.map_eq_self fun p => fixed _ _ (cells p)

/-- Only a single cell is related to a single cell. -/
theorem Grid.Cellwise.of_scalar {α : Type u} {β : Type v} {R : α → β → Prop} {x : α} {g : Grid β}
    (h : (Grid.scalar x).Cellwise R g) : ∃ y, g = .scalar y ∧ R x y := by
  cases h with
  | intro cells => exact ⟨_, rfl, cells ()⟩

/-- **`Report.Related R r s`** — `r` and `s` say the same and fail alike, or answer what is related by
`R`. -/
inductive Report.Related {α : Type u} {β : Type v} (R : α → β → Prop) : Report α → Report β → Prop
  | answer {notices : List Notice} {a : α} {b : β} (h : R a b) :
    Related R ⟨notices, .ok a⟩ ⟨notices, .ok b⟩
  | fault (notices : List Notice) (e : Fault) : Related R ⟨notices, .error e⟩ ⟨notices, .error e⟩

theorem Report.related_map {α β : Type u} {R : α → β → Prop} {f : α → β} (h : ∀ a, R a (f a))
    (r : Report α) : r.Related R (f <$> r) := by
  obtain ⟨notices, result⟩ := r
  cases result with
  | error e => exact .fault notices e
  | ok a =>
    show Related R ⟨notices, .ok a⟩ ⟨notices ++ [], .ok (f a)⟩
    rw [List.append_nil]
    exact .answer (h a)

theorem Report.Related.of_answer {α : Type u} {β : Type v} {R : α → β → Prop}
    {notices : List Notice} {a : α} {s : Report β} (h : Related R ⟨notices, .ok a⟩ s) :
    ∃ b, s = ⟨notices, .ok b⟩ ∧ R a b := by
  cases h with
  | answer h => exact ⟨_, rfl, h⟩

namespace Converter

variable {c : Converter ℝ} {n : ℤ} {range : Set ℝ} {wrap : ℝ → ℝ}

/-! ## §2 With rounding and without -/

/-- **`unrounded c`** — the converter that rounds nothing, and is `c` in all else. -/
def unrounded (c : Converter ℝ) : Converter ℝ :=
  { c with places := .ok none }

theorem eulerAngles_eq_map (hplaces : c.places = .ok (some n)) (order : Datum) (q : Operand ℝ) :
    c.eulerAngles order q =
      Grid.map (fun x => wrapUnsigned (roundPlaces n x)) <$> c.unrounded.eulerAngles order q := by
  unfold eulerAngles
  rw [map_bind]
  refine bind_congr fun prepared => ?_
  rw [map_bind]
  refine bind_congr fun angles => ?_
  rw [round_eq hplaces]
  rfl

/-- **`reportAttitude n a`** — three arrays of angles, rounded, and heading and roll wrapped. -/
noncomputable def reportAttitude (n : ℤ) (a : Attitude (Grid ℝ)) : Attitude (Grid ℝ) where
  pitch := a.pitch.map (roundPlaces n)
  heading := a.heading.map fun x => wrapUnsigned (roundPlaces n x)
  roll := a.roll.map fun x => wrapSigned (roundPlaces n x)

theorem attitudes_eq_map (hplaces : c.places = .ok (some n)) (q : Operand ℝ) :
    c.attitudes q = reportAttitude n <$> c.unrounded.attitudes q := by
  unfold attitudes
  rw [map_bind]
  refine bind_congr fun prepared => ?_
  rw [map_bind]
  refine bind_congr fun a => ?_
  simp only [round_eq hplaces, Report.lift_ok_bind]
  rfl

/-! ## §3 What is reported -/

/-- Rounding never fails, and is idle on what it has answered. -/
theorem round_reported (w : Wraps range wrap) (hplaces : c.places = .ok (some n)) (g : Grid ℝ) :
    ∃ a, c.round wrap g = .ok a ∧ g.Cellwise (Reported n range wrap) a ∧
      (-1 ≤ n → c.round wrap a = .ok a) := by
  have related : g.Cellwise (Reported n range wrap) (g.map fun x => wrap (roundPlaces n x)) :=
    Grid.cellwise_map (w.reported n) g
  refine ⟨_, round_eq hplaces wrap g, related, fun hn => ?_⟩
  exact (round_eq hplaces wrap _).trans
    (congrArg Except.ok (related.map_eq_self fun _ _ reported => reported.again hn))

/-- **Rounding with wrap keeps range and angle.** Whatever is rounded, each cell of what is answered is the
reported one: it is in range, off by at most half a step up to whole turns, a number of the grid from tens
on, and then reported as itself. And what a rounding converter answers is what it would answer
unrounded, reported cell by cell. -/
theorem reported_angles (hplaces : c.places = .ok (some n)) :
    (∀ g : Grid ℝ,
      (∃ a, c.round wrapUnsigned g = .ok a ∧
        g.Cellwise (Reported n (Set.Ico 0 360) wrapUnsigned) a ∧
        (-1 ≤ n → c.round wrapUnsigned a = .ok a)) ∧
      ∃ a, c.round wrapSigned g = .ok a ∧
        g.Cellwise (Reported n (Set.Ioc (-180) 180) wrapSigned) a ∧
        (-1 ≤ n → c.round wrapSigned a = .ok a)) ∧
    (∀ order q, (c.unrounded.eulerAngles order q).Related
      (Grid.Cellwise (Reported n (Set.Ico 0 360) wrapUnsigned)) (c.eulerAngles order q)) ∧
    ∀ q, (c.unrounded.attitudes q).Related
      (fun a b => a.heading.Cellwise (Reported n (Set.Ico 0 360) wrapUnsigned) b.heading ∧
        a.roll.Cellwise (Reported n (Set.Ioc (-180) 180) wrapSigned) b.roll) (c.attitudes q) := by
  refine ⟨fun g => ⟨round_reported Angle.wraps_wrapUnsigned hplaces g,
    round_reported Angle.wraps_wrapSigned hplaces g⟩, fun order q => ?_, fun q => ?_⟩
  · rw [eulerAngles_eq_map hplaces]
    exact Report.related_map (Grid.cellwise_map (Angle.wraps_wrapUnsigned.reported n)) _
  · rw [attitudes_eq_map hplaces]
    refine Report.related_map (fun a => ⟨?_, ?_⟩) _
    · exact Grid.cellwise_map (Angle.wraps_wrapUnsigned.reported n) a.heading
    · exact Grid.cellwise_map (Angle.wraps_wrapSigned.reported n) a.roll

/-! ## §4 Angles just short of the open ends -/

/-- **`unchecked n`** — rounds to `n` places, and takes quaternions as they are. -/
noncomputable def unchecked (n : ℤ) : Converter ℝ :=
  ⟨.ignore, .ok (.scalar (Stack.upTo 0)), false, .ok (some n)⟩

/-- **`nearlyAround`** — heading just short of north, and rolled just short of upside down. -/
noncomputable def nearlyAround : Quaternion ℝ :=
  .ofAxisAngle ⟨1, 0, 0⟩ 359.999 *
    (.ofAxisAngle ⟨0, 0, 1⟩ 0 * .ofAxisAngle ⟨0, 1, 0⟩ (270 - -179.999))

theorem attitude_nearlyAround : nearlyAround.attitude = ⟨0, 359.999, -179.999⟩ := by
  have hfree : |Real.sin (Angle.toRadians 0)| < 1 - gimbalLockTolerance := by
    rw [Angle.toRadians_eq, zero_mul, Real.sin_zero, abs_zero, gimbalLockTolerance_eq]
    norm_num
  have hheading : wrapUnsigned (359.999 : ℝ) = 359.999 :=
    Angle.wrapUnsigned_eq_of_mem (by norm_num) (by norm_num) 0 (by simp)
  rw [Quaternion.attitude, Quaternion.eulerAngles, nearlyAround, Quaternion.toMatrix_built,
    Mat3.eulerAngles_turns (by norm_num) hfree, hheading]
  have undone := EulerAngles.attitude_wrapUnsigned (K := ℝ) (p := 0) (r := -179.999)
    (by norm_num) (by norm_num) 359.999
  rwa [neg_zero] at undone

theorem attitudes_nearlyAround : (unchecked n).unrounded.attitudes nearlyAround.toGrid =
    ⟨[], .ok (Stack.attitudeParts (.scalar ⟨0, 359.999, -179.999⟩))⟩ := by
  have prepared : (unchecked n).unrounded.prepare nearlyAround.toGrid =
      ⟨[], .ok nearlyAround.toGrid⟩ := rfl
  rw [attitudes_of_prepare prepared rfl, attitude_nearlyAround]
  rfl

/-- Reported to two places, both are at the other end: the heading at north, the roll at upside
down. -/
theorem reported_angles_at_ends :
    (unchecked 2).places = .ok (some 2) ∧
    ∃ a, (unchecked 2).attitudes nearlyAround.toGrid = ⟨[], .ok a⟩ ∧
      a.heading = .scalar 0 ∧ a.roll = .scalar 180 := by
  refine ⟨rfl, ?_⟩
  have related := (reported_angles (c := unchecked 2) rfl).2.2 nearlyAround.toGrid
  rw [attitudes_nearlyAround] at related
  obtain ⟨a, answer, hheading, hroll⟩ := related.of_answer
  obtain ⟨h, hh, heading⟩ := Grid.Cellwise.of_scalar (x := (359.999 : ℝ)) hheading
  obtain ⟨r, hr, roll⟩ := Grid.Cellwise.of_scalar (x := (-179.999 : ℝ)) hroll
  refine ⟨a, answer, hh.trans ?_, hr.trans ?_⟩
  · have hnear : nearestEven ((359.999 : ℝ) * 10 ^ (2 : ℤ)) = 36000 :=
      nearestEven_eq_of_lt (by norm_num [abs_lt])
    have hturn : wrapUnsigned (360 : ℝ) = 0 :=
      Angle.wrapUnsigned_eq_of_mem (by norm_num) (by norm_num) 1 (by norm_num)
    have hvalue := heading.value
    rw [hnear] at hvalue
    norm_num [hturn] at hvalue
    rw [hvalue]
  · have hnear : nearestEven ((-179.999 : ℝ) * 10 ^ (2 : ℤ)) = -18000 :=
      nearestEven_eq_of_lt (by norm_num [abs_lt])
    have hturn : wrapSigned (-180 : ℝ) = 180 :=
      Angle.wrapSigned_eq_of_mem (by norm_num) (by norm_num) (-1) (by norm_num)
    have hvalue := roll.value
    rw [hnear] at hvalue
    norm_num [hturn] at hvalue
    rw [hvalue]

end Converter

end FlightAttitude
