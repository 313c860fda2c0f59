/-
# FlightAttitude.Proofs.Converter.Shapes — the shapes that a converter takes

A converter prepares its quaternions first. Every check but `ignore` reads lengths, and so refuses an
array for its first axis; `ignore` hands on whatever it is given, and the conversion after it refuses
the same arrays. So the shapes that are refused are those of the functions on stacks, by the same fault,
under every check (`result_of_head`). Only an order of axes that is not supported comes before that
fault, and only where the check is `ignore`.

An array of quaternions is then refused for a length alone, by the check that does so (`Converts`). All
of this holds over every number type, and for arrays of every shape (`shapes_taken`).
-/
import FlightAttitude.Converter
import FlightAttitude.Proofs.Stack.Shapes
import FlightAttitude.Scalar.Binary64

namespace FlightAttitude

open Stack (TakesQuaternions)

theorem Report.result_bind {α β : Type} (r : Report α) (f : α → Report β) :
    (r >>= f).result = r.result.bind fun a => (f a).result := by
  obtain ⟨notices, result⟩ := r
  cases result <;> rfl

namespace Converter

variable {α β : Type} {c : Converter α} {g : Grid α} {t : α} {s : Shape}
  {shaped : Shape → β → Prop} {k : Grid α → Except Fault β} {places : Option Int}

/-- Rounding keeps the shape. -/
theorem round_shape [Mul α] [Div α] [IntegerParts α] [PowersOfTen α] (hplaces : c.places = .ok places)
    (wrap : α → α) (a : Grid α) : ∃ b, c.round wrap a = .ok b ∧ b.shape = a.shape := by
  unfold round
  rw [hplaces]
  cases places with
  | none => exact ⟨a, rfl, rfl⟩
  | some n => exact ⟨_, rfl, rfl⟩

variable [Zero α] [One α] [Add α] [Sub α] [Mul α] [Neg α] [LT α] [DecidableLT α] [SquareRoot α]

/-! ## §1 The first axis -/

theorem areUnit_of_head (h : g.shape.head? ≠ some 4) (tolerance : Operand (Stack.Tolerance α)) :
    Stack.areUnit (.ok g) tolerance = .error .firstAxisNotFour := by
  show g.quaternions.bind _ = _
  rw [Grid.quaternions_of_head h]
  rfl

variable [Div α] [Finiteness α]

/-- What a preparation answers, whatever is said of it. -/
theorem result_prepare (c : Converter α) (g : Grid α) :
    (c.prepare (.ok g)).result =
      match c.check with
      | .ignore => .ok g
      | .normalize => (Stack.normalize (.ok g)).result
      | .warn => (Stack.areUnit (.ok g) c.tolerance).bind fun v =>
          if v.toList.all id then .ok g else (Stack.normalize (.ok g)).result
      | .raise => (Stack.areUnit (.ok g) c.tolerance).bind fun v =>
          if v.toList.all id then .ok g else .error .nonUnit := by
  unfold prepare
  rw [Report.lift_ok_bind]
  cases c.check with
  | ignore | normalize => rfl
  | warn | raise =>
    refine (Report.result_bind _ _).trans ?_
    congr 1
    funext v
    split <;> rfl

/-- Any array passes where lengths are not looked at, and nowhere else one that holds no quaternions. -/
theorem prepare_of_head (h : g.shape.head? ≠ some 4) (c : Converter α) :
    (c.prepare (.ok g)).result = if c.check = .ignore then .ok g else .error .firstAxisNotFour := by
  rw [result_prepare]
  cases c.check with
  | ignore => rfl
  | normalize => exact ((Stack.normalize_taken g).refused .firstAxisNotFour).mpr ⟨rfl, h⟩
  | warn | raise =>
    rw [areUnit_of_head h]
    rfl

/-- What the check does not refuse is refused after it, by the same fault. -/
theorem result_of_head (h : g.shape.head? ≠ some 4) (c : Converter α)
    (after : k g = .error .firstAxisNotFour) :
    (c.prepare (.ok g)).result.bind k = .error .firstAxisNotFour := by
  rw [prepare_of_head h]
  split
  · exact after
  · rfl

theorem result_inverses (c : Converter α) (q : Operand α) :
    (c.inverses q).result = (c.prepare q).result.bind fun a => Stack.inverses (.ok a) :=
  Report.result_bind _ _

/-! ## §2 Lengths -/

variable [LE α]

/-- **`SomeOff t g`** — the array holds quaternions, and one of them is not of length one up to `t`. -/
def SomeOff (t : α) (g : Grid α) : Prop :=
  ∃ s, ∃ q : Tensor α (4 :: s), g = ⟨4 :: s, q⟩ ∧ ∃ p, ¬ (q.column p).offUnit ≤ t

/-- **`Converts c t g shaped r`** — `r` is an answer of the converter to the array `g` that refuses it
for its first axis or for a length, and otherwise has the shape that goes with the column axes. -/
structure Converts (c : Converter α) (t : α) (g : Grid α) (shaped : Shape → β → Prop)
    (r : Except Fault β) : Prop where
  refused : ∀ f, r = .error f ↔
    (f = .firstAxisNotFour ∧ g.shape.head? ≠ some 4) ∨
    (f = .nonUnit ∧ c.check = .raise ∧ SomeOff t g)
  answered : ∀ s, g.shape = 4 :: s → ¬ (c.check = .raise ∧ SomeOff t g) →
    ∃ b, r = .ok b ∧ shaped s b

section Lengths

omit [Div α] [Finiteness α]

theorem SomeOff.head (h : SomeOff t g) : g.shape.head? = some 4 := by
  obtain ⟨s, q, rfl, -⟩ := h
  rfl

theorem someOff_iff {q : Tensor α (4 :: s)} :
    SomeOff t ⟨4 :: s, q⟩ ↔ ∃ p, ¬ (q.column p).offUnit ≤ t := by
  refine ⟨?_, fun off => ⟨s, q, rfl, off⟩⟩
  rintro ⟨s, q, same, off⟩
  cases same
  exact off

/-- The test always has verdicts, and all are favourable where no column is off. -/
theorem areUnit_verdicts [DecidableLE α] (q : Tensor α (4 :: s)) :
    ∃ v, Stack.areUnit (.ok ⟨4 :: s, q⟩) (.ok (.scalar (Stack.upTo t))) = .ok v ∧
      (v.toList.all id = true ↔ ¬ SomeOff t ⟨4 :: s, q⟩) := by
  refine ⟨_, Stack.areUnit_columns q t, ?_⟩
  rw [Grid.toList, Tensor.all_toList_iff, someOff_iff]
  simp only [Tensor.get_ofFn, id_eq, decide_eq_true_eq, not_exists, Classical.not_not]

end Lengths

variable [DecidableLE α]

/-- What is handed on has the shape that it had. -/
theorem prepare_of_shape (htol : c.tolerance = .ok (.scalar (Stack.upTo t)))
    (h : g.shape = 4 :: s) (accepted : ¬ (c.check = .raise ∧ SomeOff t g)) :
    ∃ a, (c.prepare (.ok g)).result = .ok a ∧ a.shape = g.shape := by
  obtain ⟨shape, q⟩ := g
  cases h
  obtain ⟨v, tested, passed⟩ := areUnit_verdicts (t := t) q
  have normal := (Stack.normalize_taken ⟨4 :: s, q⟩).answered s rfl
  rw [result_prepare, htol, tested]
  cases check : c.check with
  | ignore => exact ⟨_, rfl, rfl⟩
  | normalize => exact normal
  | warn =>
    simp only [Except.bind]
    split
    · exact ⟨_, rfl, rfl⟩
    · exact normal
  | raise =>
    have kept : v.toList.all id = true := passed.mpr fun off => accepted ⟨check, off⟩
    simp only [Except.bind, if_pos kept]
    exact ⟨_, rfl, rfl⟩

theorem prepare_of_off (htol : c.tolerance = .ok (.scalar (Stack.upTo t)))
    (check : c.check = .raise) (off : SomeOff t g) :
    (c.prepare (.ok g)).result = .error .nonUnit := by
  obtain ⟨s, q, rfl, -⟩ := id off
  obtain ⟨v, tested, passed⟩ := areUnit_verdicts (t := t) q
  rw [result_prepare, check, htol, tested]
  exact if_neg fun all => passed.mp all off

/-- **A converter refuses the shapes that the function after its check refuses**, and no others. -/
theorem converts_of_taken (htol : c.tolerance = .ok (.scalar (Stack.upTo t)))
    (taken : ∀ a, a.shape = g.shape → TakesQuaternions a shaped (k a)) :
    Converts c t g shaped ((c.prepare (.ok g)).result.bind k) := by
  have answered (s : Shape) (h : g.shape = 4 :: s) (accepted : ¬ (c.check = .raise ∧ SomeOff t g)) :
      ∃ b, (c.prepare (.ok g)).result.bind k = .ok b ∧ shaped s b := by
    obtain ⟨a, prepared, same⟩ := prepare_of_shape htol h accepted
    rw [prepared]
    exact (taken a same).answered s (same.trans h)
  refine ⟨fun f => ?_, answered⟩
  by_cases h : g.shape.head? = some 4
  · by_cases refused : c.check = .raise ∧ SomeOff t g
    · rw [prepare_of_off htol refused.1 refused.2]
      simp [Except.bind, h, refused, eq_comm]
    · obtain ⟨s, rest⟩ := List.head?_eq_some_iff.mp h
      obtain ⟨b, answer, -⟩ := answered s rest refused
      simp [answer, h, refused]
  · have unheld : ¬ SomeOff t g := fun off => h off.head
    rw [result_of_head h c (((taken g rfl).refused .firstAxisNotFour).mpr ⟨rfl, h⟩)]
    simp [h, unheld, eq_comm]

/-! ## §3 Conversions -/

theorem inverses_converts (htol : c.tolerance = .ok (.scalar (Stack.upTo t))) :
    Converts c t g (fun s r => r.shape = 4 :: s) (c.inverses (.ok g)).result := by
  rw [result_inverses]
  exact converts_of_taken htol fun a _ => Stack.inverses_taken a

variable [NatCast α] [IntegerParts α] [PowersOfTen α] [Trigonometry α]

theorem result_eulerAngles (c : Converter α) (order : Datum) (q : Operand α) :
    (c.eulerAngles order q).result = (c.prepare q).result.bind fun a =>
      (Stack.eulerAngles order (.ok a)).bind (c.round Angle.wrapUnsigned) := by
  unfold eulerAngles
  simp only [Report.result_bind]
  rfl

theorem result_attitudes (c : Converter α) (q : Operand α) :
    (c.attitudes q).result = (c.prepare q).result.bind fun a =>
      (Stack.attitudes (.ok a)).bind fun a =>
        (c.round id a.pitch).bind fun pitch =>
          (c.round Angle.wrapUnsigned a.heading).bind fun heading =>
            (c.round Angle.wrapSigned a.roll).bind fun roll => .ok ⟨pitch, heading, roll⟩ := by
  unfold attitudes
  simp only [Report.result_bind]
  rfl

theorem eulerAngles_converts (few : g.shape.length + 1 ≤ maxAxes)
    (htol : c.tolerance = .ok (.scalar (Stack.upTo t))) (hplaces : c.places = .ok places)
    {order : Datum} {o : AxisOrder} (supported : AxisOrder.ofDatum order = .ok o) :
    Converts c t g (fun s e => e.shape = 3 :: s) (c.eulerAngles order (.ok g)).result := by
  rw [result_eulerAngles]
  refine converts_of_taken htol fun a same => ?_
  refine (Stack.eulerAngles_taken (same ▸ few) supported).bind fun _ shape => ?_
  rw [← shape]
  exact round_shape hplaces _ _

theorem attitudes_converts (few : g.shape.length + 1 ≤ maxAxes)
    (htol : c.tolerance = .ok (.scalar (Stack.upTo t))) (hplaces : c.places = .ok places) :
    Converts c t g (fun s a => a.HasShape s) (c.attitudes (.ok g)).result := by
  rw [result_attitudes]
  refine converts_of_taken htol fun a same => ?_
  refine (Stack.attitudes_taken (same ▸ few)).bind fun {s b} _ shapes => ?_
  obtain ⟨pitch, hpitch, pitch_shape⟩ := round_shape hplaces id b.pitch
  obtain ⟨heading, hheading, heading_shape⟩ := round_shape hplaces Angle.wrapUnsigned b.heading
  obtain ⟨roll, hroll, roll_shape⟩ := round_shape hplaces Angle.wrapSigned b.roll
  refine ⟨⟨pitch, heading, roll⟩, ?_, pitch_shape.trans shapes.1, heading_shape.trans shapes.2.1,
    roll_shape.trans shapes.2.2⟩
  rw [hpitch, hheading, hroll]
  rfl

/-! ## §4 Every shape -/

/-- **The shapes that are taken**, for arrays of every shape whose matrices are not beyond the greatest
number of axes. Each function of quaternions refuses an array exactly where the first axis is not there
or not of length four, and has the shape that goes with the column axes otherwise, whatever these are.
A converter with one tolerance refuses the same arrays under every check, and beyond them those with a
length that is off where its check is `raise`; for the first axis it does so whatever its tolerance and
its places are. Preparing alone takes every array where the check is `ignore`. An order that is not
supported is refused before the quaternions are looked at, by a converter where its check is `ignore`. -/
theorem shapes_taken (few : g.shape.length + 1 ≤ maxAxes) {order : Datum} {o : AxisOrder}
    (supported : AxisOrder.ofDatum order = .ok o) (t : α) :
    (TakesQuaternions g (fun s n => n.shape = s) (Stack.quaternionNorms (.ok g)) ∧
      TakesQuaternions g (fun s r => r.shape = 4 :: s) (Stack.normalize (.ok g)).result ∧
      TakesQuaternions g (fun s v => v.shape = s)
        (Stack.areUnit (.ok g) (.ok (.scalar (Stack.upTo t)))) ∧
      TakesQuaternions g (fun s r => r.shape = 4 :: s) (Stack.inverses (.ok g)) ∧
      TakesQuaternions g (fun s m => m.shape = s ++ [3, 3]) (Stack.toMatrices (.ok g)) ∧
      TakesQuaternions g (fun s e => e.shape = 3 :: s) (Stack.eulerAngles order (.ok g)) ∧
      TakesQuaternions g (fun s a => a.HasShape s) (Stack.attitudes (.ok g))) ∧
    (∀ (c : Converter α) (places : Option Int), c.tolerance = .ok (.scalar (Stack.upTo t)) →
      c.places = .ok places →
        Converts c t g (fun s e => e.shape = 3 :: s) (c.eulerAngles order (.ok g)).result ∧
        Converts c t g (fun s a => a.HasShape s) (c.attitudes (.ok g)).result ∧
        Converts c t g (fun s r => r.shape = 4 :: s) (c.inverses (.ok g)).result) ∧
    (∀ c : Converter α, g.shape.head? ≠ some 4 →
      (c.eulerAngles order (.ok g)).result = .error .firstAxisNotFour ∧
      (c.attitudes (.ok g)).result = .error .firstAxisNotFour ∧
      (c.inverses (.ok g)).result = .error .firstAxisNotFour) ∧
    (∀ (c : Converter α) (any : Grid α), c.check = .ignore → c.prepare (.ok any) = ⟨[], .ok any⟩) ∧
    ∀ other : Datum, (∀ o, AxisOrder.ofDatum other ≠ .ok o) →
      (∀ q : Operand α, Stack.eulerAngles other q = .error (.unsupportedOrder other)) ∧
      ∀ c : Converter α, g.shape.head? ≠ some 4 → (c.eulerAngles other (.ok g)).result =
        .error (if c.check = .ignore then .unsupportedOrder other else .firstAxisNotFour) := by
  refine ⟨⟨Stack.quaternionNorms_taken g, Stack.normalize_taken g, Stack.areUnit_taken g t,
    Stack.inverses_taken g, Stack.toMatrices_taken few, Stack.eulerAngles_taken few supported,
    Stack.attitudes_taken few⟩, ?_, ?_, ?_, ?_⟩
  · intro c places htol hplaces
    exact ⟨eulerAngles_converts few htol hplaces supported, attitudes_converts few htol hplaces,
      inverses_converts htol⟩
  · intro c h
    have refused {β : Type} {shaped : Shape → β → Prop} {r : Except Fault β}
        (taken : TakesQuaternions g shaped r) : r = .error .firstAxisNotFour :=
      (taken.refused .firstAxisNotFour).mpr ⟨rfl, h⟩
    rw [result_eulerAngles, result_attitudes, result_inverses]
    refine ⟨result_of_head h c ?_, result_of_head h c ?_, result_of_head h c ?_⟩
    · rw [refused (Stack.eulerAngles_taken few supported)]
      rfl
    · rw [refused (Stack.attitudes_taken few)]
      rfl
    · exact refused (Stack.inverses_taken g)
  · intro c any check
    unfold prepare
    rw [check]
    rfl
  · intro other unsupported
    refine ⟨Stack.eulerAngles_of_unsupported unsupported, fun c h => ?_⟩
    rw [result_eulerAngles, prepare_of_head h]
    split
    · show (Stack.eulerAngles other (.ok g)).bind _ = _
      rw [Stack.eulerAngles_of_unsupported unsupported]
      rfl
    · rfl

/-- A stack of no quaternions has matrices and angles, also where lengths are refused; a vector has
none. -/
theorem shapes_taken_no_columns :
    let none : Grid Float := ⟨[4, 0], .ofFn fun _ => 0⟩
    let vector : Grid Float := ⟨[3], .ofFn fun _ => 1⟩
    let c : Converter Float := ⟨.raise, .ok (.scalar (Stack.upTo 0)), false, .ok (some 2)⟩
    none.shape.length + 1 ≤ maxAxes ∧ AxisOrder.ofDatum (.text "yZx") = .ok .yzx ∧
      (∃ m, Stack.toMatrices (.ok none) = .ok m ∧ m.shape = [0, 3, 3]) ∧
      (∃ e, (c.eulerAngles (.text "yZx") (.ok none)).result = .ok e ∧ e.shape = [3, 0]) ∧
      Stack.toMatrices (.ok vector) = .error .firstAxisNotFour ∧
      (c.inverses (.ok vector)).result = .error .firstAxisNotFour := by
  intro none vector c
  have few : none.shape.length + 1 ≤ maxAxes := by decide
  have named : AxisOrder.ofText? "yZx" = some .yzx := by decide +kernel
  have supported : AxisOrder.ofDatum (.text "yZx") = .ok .yzx := by
    simp only [AxisOrder.ofDatum, named]
  have accepted : ¬ (c.check = .raise ∧ SomeOff 0 none) := by
    rintro ⟨-, off⟩
    obtain ⟨p, -⟩ := someOff_iff.mp off
    exact p.1.elim0
  obtain ⟨⟨-, -, -, -, matrices, -⟩, converted, -⟩ := shapes_taken few supported 0
  obtain ⟨⟨-, -, -, -, refused, -⟩, -, converter, -⟩ :=
    shapes_taken (g := vector) (by decide) supported 0
  refine ⟨few, supported, matrices.answered [0] rfl, ?_, ?_, (converter c (by decide)).2.2⟩
  · exact (converted c (some 2) rfl rfl).1.answered [0] rfl accepted
  · exact (refused.refused .firstAxisNotFour).mpr ⟨rfl, by decide⟩

end Converter

end FlightAttitude
