/-
# FlightAttitude.Proofs.Converter.Configuration — what a converter can be configured to

No value reaches a converter except through settling, unless it is assigned to the converter itself.
So whatever is done with options, the converter's unit check is never a text, and its tolerance is a
number that is not below zero.

Settling looks no further: a unit check that is neither a text nor one of the four checks is taken as
it is, and so is the undefined number for a tolerance (`Session.configuration_unrecognised`). Where no
such value is ever given, the unit check of the converter is one of the four and its tolerance is at
least zero (`Session.configuration_recognised`).
-/
import FlightAttitude.Proofs.Converter.Settings
import FlightAttitude.Proofs.Options.Invariant

namespace FlightAttitude

/-! ## §1 Comparison with zero -/

namespace Datum

/-- What is not below zero is at least zero, or undefined. -/
theorem Size.less_zero_eq_false_iff (z : Size) :
    z.less (.finite 0 0) = false ↔ z = .undefined ∨ (Size.finite 0 0).atMost z = true := by
  cases z with
  | undefined => simp [Size.less]
  | below => simp [Size.less, Size.atMost, Size.same]
  | above => simp [Size.less, Size.atMost]
  | finite m e =>
    simp only [Size.less, Size.atMost, Size.same, Size.compareFinite, Int.min_comm 0 e,
      Int.zero_mul, reduceCtorEq, false_or, Bool.or_eq_true, decide_eq_false_iff_not,
      decide_eq_true_eq, beq_iff_eq]
    generalize m * ((Nat.pow 2 (e - min e 0).toNat : Nat) : Int) = scaled
    omega

end Datum

namespace ConverterOptions

/-- A tolerance is accepted when it is a number that is at least zero, or the undefined one. -/
theorem acceptTolerance_eq_ok_iff (d : Datum) : acceptTolerance d = .ok () ↔
    ∃ z, d.size? = some z ∧ (z = .undefined ∨ (Datum.Size.finite 0 0).atMost z = true) := by
  rw [acceptTolerance, Datum.less_integer]
  cases size : d.size? with
  | none => simp
  | some z =>
    simp only [Option.some.injEq, exists_eq_left', ← Datum.Size.less_zero_eq_false_iff]
    cases z.less (.finite 0 0) <;> simp

/-! ## §2 Values that settling lets through -/

/-- **`Settled name d`** — a value that settling lets through: no text for a check, and for a tolerance
what is accepted. -/
def Settled (name : String) (d : Datum) : Prop :=
  (name = unitCheck → ∀ t, d ≠ .text t) ∧ (name = unitTolerance → acceptTolerance d = .ok ())

/-- **`Recognised name d`** — a value that means something: for a check a text or one of the four, and
for a tolerance anything but the undefined number. -/
def Recognised (name : String) (d : Datum) : Prop :=
  (name = unitCheck → (∃ t, d = .text t) ∨ ∃ c, d = .check c) ∧
    (name = unitTolerance → d.size? ≠ some .undefined)

/-- **`Known a`** — a configuration with a known meaning: one of the four unit checks, and a tolerance
that is a number not less than zero. -/
def Known (a : Attributes) : Prop :=
  (∃ c, value? unitCheck a = some (.check c)) ∧
    ∃ d z, value? unitTolerance a = some d ∧ d.size? = some z ∧
      (Datum.Size.finite 0 0).atMost z = true

theorem settled_check (c : UnitCheck) : Settled unitCheck (.check c) :=
  ⟨fun _ _ => nofun, fun same => absurd same.symm unitTolerance_ne_unitCheck⟩

theorem recognised_check (c : UnitCheck) : Recognised unitCheck (.check c) :=
  ⟨fun _ => .inr ⟨c, rfl⟩, fun same => absurd same.symm unitTolerance_ne_unitCheck⟩

theorem recognised_text (t : String) : Recognised unitCheck (.text t) :=
  ⟨fun _ => .inl ⟨t, rfl⟩, fun same => absurd same.symm unitTolerance_ne_unitCheck⟩

theorem recognised_tolerance {d : Datum} (defined : d.size? ≠ some .undefined) :
    Recognised unitTolerance d :=
  ⟨fun same => absurd same unitTolerance_ne_unitCheck, fun _ => defined⟩

theorem recognised_of_ne {name : String} (noCheck : name ≠ unitCheck)
    (noTolerance : name ≠ unitTolerance) (d : Datum) : Recognised name d :=
  ⟨fun same => absurd same noCheck, fun same => absurd same noTolerance⟩

/-- The values of the configured object are settled, whatever the others hold. -/
theorem closed_settled :
    Session.Closed kind fun h name d => h = .configured → Settled name d where
  defaults _ _ := ⟨nofun, nofun⟩
  settling _ _ _ e mem _ := by
    obtain ⟨c, rfl⟩ := settling_mem mem
    exact settled_check c
  apply _ _ a _ accepted name _ v there _ := by
    obtain ⟨-, notText, tolerance⟩ := settle_accepted accepted
    refine ⟨fun check => ?_, fun isTolerance => ?_⟩
    · subst check
      exact valueOf_of_get? there ▸ notText
    · subst isTolerance
      exact valueOf_of_get? there ▸ tolerance
  keep _ who _ _ _ own := by cases who <;> cases own
  append h name members d settled own := by
    refine ⟨fun _ t => nofun, fun isTolerance => ?_⟩
    -- a list is no tolerance, so none is there to be added to
    cases (settled own).2 isTolerance

/-- Recognised values stay recognised, wherever they go. -/
theorem closed_recognised : Session.Closed kind fun _ => Recognised where
  defaults e mem := by
    have each : ∀ e ∈ kind.fields, Recognised e.1 e.2 := by
      simp only [kind, List.forall_mem_cons]
      exact ⟨recognised_check _, recognised_tolerance (by decide),
        recognised_of_ne (by decide) (by decide) _, recognised_of_ne (by decide) (by decide) _,
        List.forall_mem_nil _⟩
    exact ⟨each e mem, each e mem⟩
  settling _ _ _ e mem := by
    obtain ⟨c, rfl⟩ := settling_mem mem
    exact recognised_check c
  apply _ _ a all _ name _ v there := by
    refine Attributes.All.setAll all (fun e mem => ?_) name v there
    obtain ⟨c, rfl⟩ := settling_mem mem
    exact recognised_check c
  keep _ _ _ _ recognised := recognised
  append h name members d recognised := by
    have noSize : (Datum.list (members ++ [d])).size? = none := rfl
    refine ⟨fun check => ?_, fun _ undefined => by cases noSize.symm.trans undefined⟩
    obtain ⟨t, text⟩ | ⟨c, member⟩ := recognised.1 check
    · cases text
    · cases member

end ConverterOptions

/-! ## §3 Runs -/

namespace Session

open ConverterOptions

variable {s : Session} {made : Attributes} {v : Values} {n : Nat} {xs : List ConverterStep}

/-- **`OptionsStep.Indirect x`** — the step `x` assigns no attribute of the configured object. To
replace the kept options is no such assignment. -/
def OptionsStep.Indirect : OptionsStep → Prop
  | .set who field _ => who = .configured →
    ∀ cls name copied, Slot.of who cls field ≠ .plain name copied
  | _ => True

theorem OptionsStep.Indirect.gives {x : OptionsStep} (indirect : x.Indirect)
    (p : String → Datum → Prop) : x.Gives fun h name d => h = .configured → p name d := by
  cases x with
  | keep given => exact fun e _ => nofun
  | set who field value => exact fun cls name copied slot own => absurd slot (indirect own _ _ _)
  | _ => trivial

theorem all_configured {P : Holder → String → Datum → Prop} (all : s.view.All P) :
    s.configured.All (P .configured) := by
  rw [configured, configuredAs]
  cases held : s.get? Owner.configured.holder with
  | none => exact Attributes.all_empty
  | some a => exact all .configured a held

/-- The settings of a converter that is configured through options alone are settled values. -/
theorem settled_converterRun (ok : startWith kind made n = .ok s)
    (indirect : ∀ x, .options x ∈ xs → x.Indirect) : (s.converterRun xs).configured.All Settled := by
  obtain ⟨-, -, -, -, shows⟩ := startWith_eq_ok ok
  have start := all_startWith closed_settled (fun _ _ _ => nofun) ok
  obtain ⟨-, run⟩ := converterRun_invariant OptionsStep.Indirect
    (fun _ _ _ indirect all change => all_change closed_settled (indirect.gives _) all change)
    indirect shows.separate start
  exact fun name w there => all_configured run name w there rfl

theorem isSome_get?_converterRun (separate : s.Separate) (xs : List ConverterStep) {name : String}
    (there : (s.configured.get? name).isSome) : ((s.converterRun xs).configured.get? name).isSome :=
  (converterRun_invariant (P := fun v => (((v.get? .configured).getD .empty).get? name).isSome)
    (fun _ => True) (fun _ _ _ _ there change => change.isSome_get? .configured there)
    (fun _ _ => trivial) separate there).2

/-- Where only recognised values are given, every object of the session holds only such values. -/
theorem recognised_converterRun (given : values? made = some v)
    (check : Recognised unitCheck v.check) (tolerance : Recognised unitTolerance v.tolerance)
    (ok : startWith kind made n = .ok s)
    (gives : ∀ x, .options x ∈ xs → x.Gives fun _ => Recognised) :
    (s.converterRun xs).view.All fun _ => Recognised := by
  obtain ⟨-, -, -, -, shows⟩ := startWith_eq_ok ok
  have all : made.All Recognised := by
    obtain ⟨hasCheck, hasTolerance, -, -⟩ := values?_eq_some_iff.mp given
    intro name w there
    by_cases isCheck : name = unitCheck
    · subst isCheck
      rw [value?, there, Option.map_some, Option.some.injEq] at hasCheck
      exact hasCheck ▸ check
    · by_cases isTolerance : name = unitTolerance
      · subst isTolerance
        rw [value?, there, Option.map_some, Option.some.injEq] at hasTolerance
        exact hasTolerance ▸ tolerance
      · exact recognised_of_ne isCheck isTolerance _
  exact (converterRun_invariant (OptionsStep.Gives fun _ => Recognised)
    (fun _ _ _ gives all change => all_change closed_recognised gives all change) gives
    shows.separate (all_startWith closed_recognised all ok)).2

/-- Let a converter be made from an options object with the settings `v`, and let a run of any steps
follow that assigns nothing to the converter itself. Then the converter has a unit check that is no
text, and a tolerance that is a number, undefined or at least zero. If the checks that were given
were all texts or checks, and no tolerance that was given was undefined, its configuration is known:
the check is one of the four and the tolerance is at least zero. -/
theorem configuration_recognised (given : values? made = some v)
    (ok : startWith kind made n = .ok s) (indirect : ∀ x, .options x ∈ xs → x.Indirect) :
    (∃ d, value? unitCheck (s.converterRun xs).configured = some d ∧ ∀ t, d ≠ .text t) ∧
      (∃ d z, value? unitTolerance (s.converterRun xs).configured = some d ∧ d.size? = some z ∧
        (z = .undefined ∨ (Datum.Size.finite 0 0).atMost z = true)) ∧
      (Recognised unitCheck v.check → Recognised unitTolerance v.tolerance →
        (∀ x, .options x ∈ xs → x.Gives fun _ => Recognised) →
        Known (s.converterRun xs).configured) := by
  obtain ⟨check, tolerance, -, -⟩ :=
    values?_eq_some_iff.mp (values?_configured_startWith given ok)
  obtain ⟨-, -, -, -, shows⟩ := startWith_eq_ok ok
  obtain ⟨c, hasCheck⟩ := Option.isSome_iff_exists.mp
    (isSome_get?_converterRun shows.separate xs (isSome_get?_of_value? check))
  obtain ⟨t, hasTolerance⟩ := Option.isSome_iff_exists.mp
    (isSome_get?_converterRun shows.separate xs (isSome_get?_of_value? tolerance))
  have settled := settled_converterRun ok indirect
  have notText := (settled _ _ hasCheck).1 rfl
  obtain ⟨z, size, range⟩ :=
    (acceptTolerance_eq_ok_iff _).mp ((settled _ _ hasTolerance).2 rfl)
  have checkValue := congrArg (Option.map Setting.value) hasCheck
  have toleranceValue := congrArg (Option.map Setting.value) hasTolerance
  refine ⟨⟨_, checkValue, notText⟩, ⟨_, z, toleranceValue, size, range⟩, ?_⟩
  intro recognisedCheck recognisedTolerance gives
  have recognised := all_configured
    (recognised_converterRun given recognisedCheck recognisedTolerance ok gives)
  refine ⟨?_, _, z, toleranceValue, size, ?_⟩
  · obtain ⟨t, text⟩ | ⟨member, isCheck⟩ := (recognised _ _ hasCheck).1 rfl
    · exact absurd text (notText t)
    · exact ⟨member, checkValue.trans (congrArg some isCheck)⟩
  · refine range.resolve_left fun undefined => (recognised _ _ hasTolerance).2 rfl ?_
    rw [size, undefined]

theorem configuration_recognised_after_replacement :
    ∃ s, startWith kind (kind.defaults.set unitCheck ⟨.text "raise", 1⟩) 2 = .ok s ∧
      Known (s.converterRun [
        .options (.keep [(unitCheck, .text "normalize"), (unitTolerance, .number 0)]),
        .options (.set .kept unitTolerance (.integer (-1))),
        .options (.reset .configured),
        .options (.apply .options .configured)]).configured := by
  obtain ⟨s, ok⟩ := Fault.exists_of_isOk
    (r := startWith kind (kind.defaults.set unitCheck ⟨.text "raise", 1⟩) 2) (by decide +kernel)
  let v : Values := ⟨.text "raise", .number Stack.defaultTolerance, .flag false, .none⟩
  refine ⟨s, ok, (configuration_recognised (v := v) rfl ok ?_).2.2 ?_ ?_ ?_⟩
  · simp [OptionsStep.Indirect]
  · exact recognised_text _
  · exact recognised_tolerance (by decide)
  · simp only [List.mem_cons, ConverterStep.options.injEq, List.not_mem_nil, or_false]
    rintro x (rfl | rfl | rfl | rfl)
    · simp only [OptionsStep.Gives, List.forall_mem_cons]
      exact ⟨recognised_text _, recognised_tolerance (by decide), nofun⟩
    · intro cls name copied slot
      cases slot.symm.trans (lawful.slot_of_mem unitTolerance (by decide) .kept cls)
      exact recognised_tolerance (by decide)
    · trivial
    · trivial

/-- A unit check that is neither a text nor one of the four, and an undefined tolerance, are accepted
by a new converter. It then warns. -/
theorem configuration_unrecognised :
    ∃ s, start kind (some [(unitCheck, .integer 7), (unitTolerance, .number Binary64.undefined)]) =
        .ok s ∧
      value? unitCheck s.configured = some (.integer 7) ∧
      value? unitTolerance s.configured = some (.number Binary64.undefined) ∧
      (Converter.ofAttributes s.configured).check = .warn ∧ ¬ Known s.configured := by
  let made := (kind.defaults.set unitCheck ⟨.integer 7, 1⟩).set unitTolerance
    ⟨.number Binary64.undefined, 2⟩
  obtain ⟨s, ok⟩ := Fault.exists_of_isOk (r := startWith kind made 3) (by decide +kernel)
  let v : Values := ⟨.integer 7, .number Binary64.undefined, .flag false, .none⟩
  have settings := values?_eq_some_iff.mp (values?_configured_startWith (v := v) rfl ok)
  refine ⟨s, (start_some rfl).trans ok, settings.1, settings.2.1, ?_, ?_⟩
  · rw [Converter.ofAttributes, valueOf_of_value? settings.1]
    rfl
  · rintro ⟨⟨c, check⟩, -⟩
    cases settings.1.symm.trans check

end Session

end FlightAttitude
