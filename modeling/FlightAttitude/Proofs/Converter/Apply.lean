/-
# FlightAttitude.Proofs.Converter.Apply — options of a converter that are applied to another object

Options are refused for their check or, where that is none to refuse, for their tolerance
(`ConverterOptions.Values.Refused`); which of several faults is reported depends on the four values
alone (`ConverterOptions.settle_error_iff`). Validating changes the options themselves, at most by
putting the check where its name was (`ConverterOptions.Canonicalised`), and it is over before anything
is copied. So refused options leave their target as it was.

Accepted options are copied one field at a time, and that can stop: at a value that cannot be copied, or
at a target that does not take the attribute. The target then has the fields before that one and no
others. Where it does not stop, the target has all four values, now and after every further application
(`Session.apply_options`).
-/
import FlightAttitude.Proofs.Converter.Reset

namespace FlightAttitude

/-! ## §1 Names of checks -/

namespace UnitCheck

theorem mem_all (c : UnitCheck) : c ∈ all := by
  cases c <;> decide

theorem ofText?_eq_none_iff {t : String} : ofText? t = none ↔ ∀ c, name c ≠ Text.toCapitals t := by
  rw [ofText?, ofName?, List.find?_eq_none]
  constructor
  · intro unnamed c names
    exact unnamed c (mem_all c) (decide_eq_true names)
  · intro unnamed c _ names
    exact unnamed c (of_decide_eq_true names)

theorem name_of_ofText?_eq_some {t : String} {c : UnitCheck} (names : ofText? t = some c) :
    c.name = Text.toCapitals t := by
  rw [ofText?, ofName?] at names
  simpa using List.find?_some names

end UnitCheck

namespace ConverterOptions

variable {a : Attributes} {v : Values} {f : Fault}

/-! ## §2 Options that are refused -/

/-- **`Values.NamesCheck v`** — the check is no text, or one that names a check once it is in capitals. -/
def Values.NamesCheck (v : Values) : Prop :=
  ∀ t, v.check = .text t → ∃ c : UnitCheck, c.name = Text.toCapitals t

/-- **`Values.Refused v f`** — options with the settings `v` are refused with the fault `f`. The
tolerance is looked at only where the check gives no cause. -/
inductive Values.Refused (v : Values) : Fault → Prop
  /-- The check is a text that is no name of a check, not even in capitals. -/
  | unknownCheck {t : String} (text : v.check = .text t)
    (unnamed : ∀ c : UnitCheck, c.name ≠ Text.toCapitals t) : Refused v (.unknownCheck t)
  /-- The tolerance is not comparable with zero, being no number. -/
  | incomparable (known : v.NamesCheck) (noNumber : v.tolerance.size? = none) : Refused v .incomparable
  | negativeTolerance (known : v.NamesCheck) {z : Datum.Size} (number : v.tolerance.size? = some z)
    (below : z.less (.finite 0 0) = true) : Refused v .negativeTolerance

theorem acceptTolerance_eq_error_iff {d : Datum} : acceptTolerance d = .error f ↔
    (d.size? = none ∧ f = .incomparable) ∨
      ∃ z, d.size? = some z ∧ z.less (.finite 0 0) = true ∧ f = .negativeTolerance := by
  rw [acceptTolerance, Datum.less_integer]
  cases d.size? with
  | none => simp [@eq_comm _ f]
  | some z => cases below : z.less (.finite 0 0) <;> simp [below, @eq_comm _ f]

/-- With a check that gives no cause, it is the tolerance that decides. -/
theorem Values.NamesCheck.refused_iff (known : v.NamesCheck) :
    v.Refused f ↔ acceptTolerance v.tolerance = .error f := by
  rw [acceptTolerance_eq_error_iff]
  constructor
  · rintro (⟨text, unnamed⟩ | ⟨-, noNumber⟩ | ⟨-, number, below⟩)
    · obtain ⟨c, names⟩ := known _ text
      exact absurd names (unnamed c)
    · exact .inl ⟨noNumber, rfl⟩
    · exact .inr ⟨_, number, below, rfl⟩
  · rintro (⟨noNumber, rfl⟩ | ⟨z, number, below, rfl⟩)
    · exact .incomparable known noNumber
    · exact .negativeTolerance known number below

/-- An unknown check is the one cause there is, whatever the tolerance. -/
theorem Values.refused_iff_of_unnamed {t : String} (text : v.check = .text t)
    (unnamed : ∀ c : UnitCheck, c.name ≠ Text.toCapitals t) :
    v.Refused f ↔ f = .unknownCheck t := by
  constructor
  · have unknown : ¬ v.NamesCheck := fun known => by
      obtain ⟨c, names⟩ := known t text
      exact unnamed c names
    rintro (⟨text', -⟩ | ⟨known, -⟩ | ⟨known, -, -⟩)
    · rw [text, Datum.text.injEq] at text'
      rw [text']
    · exact absurd known unknown
    · exact absurd known unknown
  · rintro rfl
    exact .unknownCheck text unnamed

/-- **What options are refused for** is read off their four values. -/
theorem settle_error_iff (settings : values? a = some v) :
    (settle a).2 = .error f ↔ v.Refused f := by
  obtain ⟨check, tolerance, -, -⟩ := values?_eq_some_iff.mp settings
  have check := valueOf_of_value? check
  have tolerance := valueOf_of_value? tolerance
  cases settleCase a with
  | unknown text none result =>
    rw [settle_of_settling result, Values.refused_iff_of_unnamed (check.symm.trans text)
      (UnitCheck.ofText?_eq_none_iff.mp none), Except.error.injEq, eq_comm]
  | named text names result =>
    have known : v.NamesCheck := fun t' text' => by
      rw [← check, text, Datum.text.injEq] at text'
      exact ⟨_, text' ▸ UnitCheck.name_of_ofText?_eq_some names⟩
    rw [settle_of_settling result, known.refused_iff, tolerance]
  | plain notText result =>
    have known : v.NamesCheck := fun t text => absurd (check.trans text) (notText t)
    rw [settle_of_settling result, known.refused_iff, tolerance]

/-- **`Values.Acceptable v`** — there is nothing to refuse options with the settings `v` for. -/
def Values.Acceptable (v : Values) : Prop := ∀ f, ¬ v.Refused f

theorem settle_eq_ok_iff (settings : values? a = some v) :
    (settle a).2 = .ok () ↔ v.Acceptable := by
  simp only [Values.Acceptable, ← settle_error_iff settings]
  cases (settle a).2 with
  | error f => simp
  | ok => simp

/-- **`Canonicalised a a'`** — `a'` is `a`, but for the check where its name may have been. -/
inductive Canonicalised (a : Attributes) : Attributes → Prop
  | same : Canonicalised a a
  | named {t : String} {c : UnitCheck} (text : value? unitCheck a = some (.text t))
    (names : c.name = Text.toCapitals t) : Canonicalised a (a.set unitCheck ⟨.check c, 0⟩)

/-- **Settling options changes nothing but the name of a check**, accepted or not. -/
theorem Canonicalised.settle (a : Attributes) : Canonicalised a (settle a).1 := by
  cases settleCase a with
  | unknown _ _ result | plain _ result =>
    rw [settle_of_settling result]
    exact .same
  | named text names result =>
    rw [settle_of_settling result]
    exact .named (value?_of_valueOf_text text) (UnitCheck.name_of_ofText?_eq_some names)

end ConverterOptions

/-! ## §3 Application -/

namespace Session

open ConverterOptions

variable {s : Session} {who onto : Holder} {a b : Attributes} {v : Values} {f : Fault}

/-- The notices of a step are those of the step on options. -/
theorem notices_converterStep (s : Session) (x : OptionsStep) :
    (s.converterStep (.options x)).2.notices = (step kind s x).2.notices := by
  show (ConverterShown.options <$> (step kind s x).2).notices = _
  obtain ⟨notices, result⟩ := (step kind s x).2
  cases result <;> simp [Functor.map, Report.bind, Report.ofExcept]

section Application

variable (separate : s.Separate) (source : s.optionsAt? who = some a) (callable : a.Callable)
  (settings : values? a = some v) (ne : onto ≠ who)
  (followed : ∀ d, s.held onto = .bare d → d.takesAttributes = false)

include separate source settings ne followed

/-- Options are copied completely to objects only. -/
theorem exists_object_of_done (done : (applyTo kind who onto s).2 = .ok ()) :
    ∃ cls b, s.view onto = .object cls b := by
  obtain ⟨v', -, outcome, -⟩ := separate.shows.applied (k := kind) source ne
  have accepted := (outcome.of_ok done ne).1
  exact outcome.exists_object done ne followed (fieldsIn_ne_nil (values?_settle settings accepted))

include callable

/-- The answer to the step tells what came of the application. -/
theorem result_apply :
    let applied := s.converterStep (.options (.apply who onto))
    (∀ f, applied.2.result = .error f ↔ (applyTo kind who onto s).2 = .error f) ∧
      ((∃ shown, applied.2.result = .ok shown) ↔ (applyTo kind who onto s).2 = .ok ()) := by
  have performed : step kind s (.apply who onto) = showing onto (applyTo kind who onto s) :=
    step_apply separate.shows (View.get?_of_optionsAt? source) callable onto
  obtain ⟨v', shows', outcome, -⟩ := separate.shows.applied (k := kind) source ne
  have still (done : (applyTo kind who onto s).2 = .ok ()) : ∃ cls b', v' onto = .object cls b' := by
    obtain ⟨cls, b, before⟩ := exists_object_of_done separate source settings ne followed done
    refine ⟨cls, b.setAll (kind.fieldsIn (settle a).1), ?_⟩
    rw [(outcome.of_ok done ne).2.2, before, Held.setAll]
    rfl
  refine ⟨fun f => ?_, ?_⟩
  · rw [result_converterStep_error_iff, performed, error_showing_iff shows' still]
  · rw [result_converterStep_ok_iff, performed, ok_showing_iff shows' still]

end Application

/-- A reset leaves every object as applying the kept options does. It fails as that fails, and beyond that
only where they cannot be written; one that fails says nothing. -/
theorem reset_as_apply {o : Owner} (separate : s.Separate) (source : s.optionsAt? o.kept = some a)
    (callable : a.Callable) (settings : values? a = some v)
    (followed : ∀ d, s.held o.holder = .bare d → d.takesAttributes = false)
    (visible : (s.configuredAs o).get? resetName = none) :
    let applied := s.converterStep (.options (.apply o.kept o.holder))
    let reset := s.converterStep (.options (.reset o))
    reset.1.view = applied.1.view ∧
      (∀ f, reset.2.result = .error f ↔ applied.2.result = .error f ∨
        (∃ shown, applied.2.result = .ok shown) ∧ f = .tooManyDigits ∧
          ¬ v.canonical.Legible s.limit) ∧
      ∀ f, reset.2.result = .error f → reset.2.notices = [] := by
  intro applied reset
  have ne : o.holder ≠ o.kept := by cases o <;> decide
  have there : s.view.get? o.kept = some a := View.get?_of_optionsAt? source
  have performed : step kind s (.apply o.kept o.holder) =
      showing o.holder (applyTo kind o.kept o.holder s) :=
    step_apply separate.shows there callable o.holder
  have performedReset : step kind s (.reset o) = resetOf kind o s :=
    step_reset separate.shows there callable visible
  have reported := separate.shows.reset source
    (exists_object_of_done separate source settings ne followed)
  refine ⟨?_, fun f => ?_, fun f failed => ?_⟩
  · show (step kind s (.reset o)).1.view = (step kind s (.apply o.kept o.holder)).1.view
    rw [performedReset, performed, resetOf_fst, showing_fst]
  · obtain ⟨fault, result⟩ := result_apply separate source callable settings ne followed
    rw [result_converterStep_error_iff, performedReset, reported.error_iff, fault, result]
    refine or_congr_right (and_congr_right fun done => and_congr_right fun _ => ?_)
    obtain ⟨v', -, outcome, -⟩ := separate.shows.applied (k := kind) source ne
    have final := values?_settle settings (outcome.of_ok done ne).1
    rw [← isSome_written_iff final s.limit kind.optionsName, Option.not_isSome_iff_eq_none]
    exact and_iff_right nofun
  · rw [notices_converterStep, performedReset]
    rw [result_converterStep_error_iff, performedReset] at failed
    exact reported.silent failed

/-- **Applying options.** Let `S` be options with the settings `v`, and let something else be their target.

Applying `S` fails exactly as `v` is refused or, where it is not, as the first of its fields is that
cannot be copied or is not taken by the target. Where `v` is refused, the target is as before; where a
field is, the fields before it are set on the target and nothing else is. Whichever way it goes, `S` is as
before but for a check that may stand where its name was, and no third object changes.

Where it succeeds, the target has the settings `v` with the check in its final form, all its other
attributes are as before, and applying `S` once more changes nothing in any object and answers the same.

A reset to `S` as the kept options leaves every object as applying `S` does. It fails as that fails, and
beyond that only where `v` cannot be written in its notice; one that fails says nothing. -/
theorem apply_options (separate : s.Separate) (source : s.optionsAt? who = some a)
    (callable : a.Callable) (settings : values? a = some v) (ne : onto ≠ who)
    (followed : ∀ d, s.held onto = .bare d → d.takesAttributes = false) :
    let target := s.held onto
    let fields := kind.fieldsIn (settle a).1
    let applied := s.converterStep (.options (.apply who onto))
    (∀ f, applied.2.result = .error f ↔
      v.Refused f ∨ v.Acceptable ∧ ∃ earlier, target.Stops fields earlier f) ∧
    (v.Acceptable → fields.map (fun e => (e.1, e.2.value)) = v.canonical.entries) ∧
    (∀ f, v.Refused f → applied.1.held onto = target) ∧
    (∀ f earlier, v.Acceptable → target.Stops fields earlier f →
      applied.1.held onto = target.setAll earlier) ∧
    (∃ a', applied.1.get? who = some a' ∧ Canonicalised a a' ∧
      (v.Acceptable → values? a' = some v.canonical)) ∧
    (∀ third, third ≠ who → third ≠ onto → applied.1.held third = s.held third) ∧
    ((∃ shown, applied.2.result = .ok shown) →
      (∃ cls b b', target = .object cls b ∧ applied.1.held onto = .object cls b' ∧
        values? b' = some v.canonical ∧ ∀ name ∉ kind.fieldNames, b'.get? name = b.get? name) ∧
      let again := applied.1.converterStep (.options (.apply who onto))
      again.1.view = applied.1.view ∧ again.2 = applied.2) ∧
    (∀ o : Owner, who = o.kept → onto = o.holder → (s.configuredAs o).get? resetName = none →
      let reset := s.converterStep (.options (.reset o))
      reset.1.view = applied.1.view ∧
      (∀ f, reset.2.result = .error f ↔ applied.2.result = .error f ∨
        (∃ shown, applied.2.result = .ok shown) ∧ f = .tooManyDigits ∧
          ¬ v.canonical.Legible s.limit) ∧
      ∀ f, reset.2.result = .error f → reset.2.notices = []) := by
  intro target fields applied
  have performed : step kind s (.apply who onto) = showing onto (applyTo kind who onto s) :=
    step_apply separate.shows (View.get?_of_optionsAt? source) callable onto
  obtain ⟨v', shows', outcome, -⟩ := separate.shows.applied (k := kind) source ne
  obtain ⟨fault, result⟩ := result_apply separate source callable settings ne followed
  have held (h : Holder) : applied.1.held h = v' h := by
    show (step kind s (.apply who onto)).1.held h = v' h
    rw [performed, showing_fst, shows'.held]
  have accepted : v.Acceptable → (settle a).2 = .ok () := (settle_eq_ok_iff settings).mpr
  refine ⟨fun f => ?_, fun acceptable => ?_, fun f refused => ?_, fun f earlier acceptable stops => ?_,
    ⟨(settle a).1, ?_, .settle a, fun acceptable => ?_⟩, fun third notSource notTarget => ?_,
    fun answered => ⟨?_, ?_⟩, ?_⟩
  · rw [fault, outcome.error_iff, ← settle_error_iff settings, ← settle_eq_ok_iff settings]
    rfl
  · exact map_value_fieldsIn (values?_settle settings (accepted acceptable))
  · rw [held]
    exact outcome.target_of_refused ((settle_error_iff settings).mpr refused) ne
  · rw [held]
    exact outcome.target_of_stops (accepted acceptable) stops ne
  · show ((applied.1.held who).object?) = _
    rw [held]
    exact View.get?_of_optionsAt? (outcome.optionsAt?_source source ne)
  · exact values?_settle settings (accepted acceptable)
  · rw [held]
    exact outcome.third notSource notTarget
  · have done := result.mp answered
    obtain ⟨ok, -, after⟩ := outcome.of_ok done ne
    obtain ⟨cls, b, before⟩ := exists_object_of_done separate source settings ne followed done
    refine ⟨cls, b, kind.copyFields (settle a).1 b, before, ?_, ?_, fun name other => ?_⟩
    · rw [held, after, before, Held.setAll]
      rfl
    · exact values?_copyFields (values?_settle settings ok) b
    · exact OptionsKind.get?_copyFields_of_notMem other _ b
  · obtain ⟨same, report⟩ :=
      step_apply_again lawful separate.shows source callable ne (result.mp answered)
    exact ⟨same, congrArg (ConverterShown.options <$> ·) report⟩
  · rintro o rfl rfl visible
    exact reset_as_apply separate source callable settings followed visible

/-- **`offended n m`** — options whose check is a name in small letters, and whose tolerance is below zero. -/
def offended (n m : Nat) : Attributes :=
  (kind.defaults.set unitCheck ⟨.text "raise", n⟩).set unitTolerance ⟨.integer (-1), m⟩

/-- A converter with default settings can come to keep such options. -/
theorem exists_offended : ∃ (s : Session) (n m : Nat), s.Reachable ∧
    s.held .kept = .object .options (offended n m) ∧
    ∀ h, h ≠ .kept → s.held h = newView kind kind.defaults h := by
  obtain ⟨s, ok⟩ :=
    Fault.exists_of_isOk (r := startWith kind kind.defaults 1) (by decide +kernel)
  obtain ⟨-, -, -, -, shows⟩ := startWith_eq_ok ok
  let named : View := (newView kind kind.defaults).setAll .kept
    [(unitCheck, ⟨.text "raise", s.writes⟩)]
  have first : (step kind s (.set .kept unitCheck (.text "raise"))).1.Shows named :=
    shows.step_set (v := newView kind kind.defaults) rfl
      (lawful.slot_of_mem unitCheck (by decide) _ _) rfl
  obtain ⟨m, second⟩ : ∃ m, (step kind (step kind s (.set .kept unitCheck (.text "raise"))).1
      (.set .kept unitTolerance (.integer (-1)))).1.Shows
        (named.setAll .kept [(unitTolerance, ⟨.integer (-1), m⟩)]) :=
    ⟨_, first.step_set (v := named) rfl (lawful.slot_of_mem unitTolerance (by decide) _ _) rfl⟩
  refine ⟨_, s.writes, m, ((Reachable.made ok).step (.options (.set .kept unitCheck
    (.text "raise")))).step (.options (.set .kept unitTolerance (.integer (-1)))),
    second.held .kept, fun h other => (second.held h).trans ?_⟩
  exact (View.setAll_of_ne other _ named).trans (View.setAll_of_ne other _ _)

/-- The name of the check is no reason to refuse them, the tolerance is. -/
theorem apply_options_offended :
    ∃ (s : Session) (n m : Nat), s.Separate ∧ s.optionsAt? .kept = some (offended n m) ∧
      (s.converterStep (.options (.apply .kept .configured))).2.result =
        .error .negativeTolerance ∧
      let reset := s.converterStep (.options (.reset .configured))
      reset.2.result = .error .negativeTolerance ∧
      reset.1.held .configured = s.held .configured ∧ reset.2.notices = [] := by
  obtain ⟨s, n, m, reachable, kept, others⟩ := exists_offended
  let v : Values := ⟨.text "raise", .integer (-1), .flag false, .none⟩
  have refused : v.Refused .negativeTolerance := by
    refine .negativeTolerance (fun t text => ?_) rfl rfl
    cases text
    exact ⟨.raise, by decide +kernel⟩
  have source : s.optionsAt? .kept = some (offended n m) := congrArg Held.options? kept
  have settings : values? (offended n m) = some v := rfl
  have target : s.held .configured = .object .configured (kind.copyFields kind.defaults .empty) :=
    others .configured (by decide)
  obtain ⟨applied, -, unchanged, -, -, -, -, reset⟩ := apply_options reachable.separate source
    ⟨rfl, rfl⟩ settings (show Holder.configured ≠ .kept by decide)
    fun d bare => by cases target.symm.trans bare
  have visible : (s.configuredAs .configured).get? resetName = none := by
    rw [configuredAs, show s.get? Owner.configured.holder = _ from congrArg Held.object? target]
    rfl
  obtain ⟨same, fails, silent⟩ := reset .configured rfl rfl visible
  have failed := (applied .negativeTolerance).mpr (.inl refused)
  have resetFailed := (fails .negativeTolerance).mpr (.inl failed)
  refine ⟨s, n, m, reachable.separate, source, failed, resetFailed, ?_, silent _ resetFailed⟩
  exact (congrFun same .configured).trans (unchanged _ refused)

section Defaults

variable (shows : s.Shows (newView kind kind.defaults))

include shows

/-- A number that stands for the kept options takes none of the fields. -/
theorem apply_to_number :
    let bare := (s.converterStep (.options (.set .configured keptName (.integer 5)))).1
    let v : Values := ⟨.check .ignore, .number Stack.defaultTolerance, .flag false, .none⟩
    (∃ a, bare.optionsAt? .options = some a ∧ values? a = some v) ∧ v.Acceptable ∧
      bare.held .kept = .bare (.integer 5) ∧
      (bare.converterStep (.options (.apply .options .kept))).2.result = .error .noAttribute := by
  intro bare v
  have slot : Slot.of .configured .configured keptName = .kept .configured true := rfl
  have after : bare.Shows ((newView kind kind.defaults).bind .kept (.bare (.integer 5))) :=
    shows.step_set_kept (v := newView kind kind.defaults) rfl slot rfl
  have source : View.optionsAt? .options
      ((newView kind kind.defaults).bind .kept (.bare (.integer 5))) = some kind.defaults := rfl
  have settings : values? kind.defaults = some v := rfl
  have accepted : (settle kind.defaults).2 = .ok () := rfl
  refine ⟨⟨kind.defaults, after.optionsAt? .options ▸ source, settings⟩,
    (settle_eq_ok_iff settings).mp accepted, after.held .kept, ?_⟩
  obtain ⟨v', -, outcome, -⟩ :=
    after.applied (k := kind) source (show Holder.kept ≠ .options by decide)
  have stops := outcome.error_iff.mpr
    (.inr ⟨accepted, [], _, _, rfl, nofun, .noAttribute rfl rfl⟩)
  rw [result_converterStep_error_iff, step_apply after (View.get?_of_optionsAt? source) ⟨rfl, rfl⟩]
  exact error_showing stops

/-- Decimal places that cannot be copied leave a plain object with the fields before them. -/
theorem apply_handle :
    let locked := (s.converterStep (.options (.set .options decimalPlaces (.handle "<lock>")))).1
    let v : Values :=
      ⟨.check .ignore, .number Stack.defaultTolerance, .flag false, .handle "<lock>"⟩
    let applied := locked.converterStep (.options (.apply .options .target))
    (∃ a, locked.optionsAt? .options = some a ∧ values? a = some v) ∧ v.Acceptable ∧
      applied.2.result = .error .uncopyable ∧
      locked.held .target = .object .plain .empty ∧
      ∃ b, applied.1.held .target = .object .plain b ∧
        value? unitCheck b = some (.check .ignore) := by
  intro locked v applied
  obtain ⟨n, after⟩ : ∃ n, locked.Shows ((newView kind kind.defaults).setAll .options
      [(decimalPlaces, ⟨.handle "<lock>", n⟩)]) :=
    ⟨_, shows.step_set (v := newView kind kind.defaults) rfl
      (lawful.slot_of_mem decimalPlaces (by decide) _ _) rfl⟩
  let a := kind.defaults.set decimalPlaces ⟨.handle "<lock>", n⟩
  have source : View.optionsAt? .options ((newView kind kind.defaults).setAll .options
      [(decimalPlaces, ⟨.handle "<lock>", n⟩)]) = some a := rfl
  have settings : values? a = some v := rfl
  have accepted : (settle a).2 = .ok () := rfl
  let earlier : List (String × Setting) := [
    (unitCheck, ⟨.check .ignore, 0⟩),
    (unitTolerance, ⟨.number Stack.defaultTolerance, 0⟩),
    (robustFacing, ⟨.flag false, 0⟩)]
  have stops : (Held.object .plain .empty).Stops (kind.fieldsIn (settle a).1) earlier
      .uncopyable := by
    refine ⟨(decimalPlaces, ⟨.handle "<lock>", n⟩), [], rfl, ?_, .uncopyable rfl⟩
    simp only [earlier, List.forall_mem_cons]
    exact ⟨⟨rfl, rfl⟩, ⟨rfl, rfl⟩, ⟨rfl, rfl⟩, nofun⟩
  have ne : Holder.target ≠ .options := by decide
  obtain ⟨v', shows', outcome, -⟩ := after.applied (k := kind) source ne
  have performed : step kind locked (.apply .options .target) =
      showing .target (applyTo kind .options .target locked) :=
    step_apply after (View.get?_of_optionsAt? source) ⟨rfl, rfl⟩ .target
  refine ⟨⟨a, after.optionsAt? .options ▸ source, settings⟩,
    (settle_eq_ok_iff settings).mp accepted, ?_, after.held .target,
    Entries.setAll earlier .empty, ?_, rfl⟩
  · rw [result_converterStep_error_iff, performed]
    exact error_showing (outcome.error_iff.mpr (.inr ⟨accepted, earlier, stops⟩))
  · show (step kind locked (.apply .options .target)).1.held .target = _
    rw [performed, showing_fst, shows'.held, outcome.target_of_stops accepted stops ne]
    rfl

end Defaults

/-- Options that are not refused can fail to apply all the same. A number that stands for the kept options
takes no attributes. And where the decimal places cannot be copied, the target is left with the fields
before them. -/
theorem apply_options_unfinished :
    ∃ s, startWith kind kind.defaults 1 = .ok s ∧
      (let bare := (s.converterStep (.options (.set .configured keptName (.integer 5)))).1
      let v : Values := ⟨.check .ignore, .number Stack.defaultTolerance, .flag false, .none⟩
      (∃ a, bare.optionsAt? .options = some a ∧ values? a = some v) ∧ v.Acceptable ∧
        bare.held .kept = .bare (.integer 5) ∧
        (bare.converterStep (.options (.apply .options .kept))).2.result = .error .noAttribute) ∧
      (let locked :=
        (s.converterStep (.options (.set .options decimalPlaces (.handle "<lock>")))).1
      let v : Values :=
        ⟨.check .ignore, .number Stack.defaultTolerance, .flag false, .handle "<lock>"⟩
      let applied := locked.converterStep (.options (.apply .options .target))
      (∃ a, locked.optionsAt? .options = some a ∧ values? a = some v) ∧ v.Acceptable ∧
        applied.2.result = .error .uncopyable ∧
        locked.held .target = .object .plain .empty ∧
        ∃ b, applied.1.held .target = .object .plain b ∧
          value? unitCheck b = some (.check .ignore)) := by
  obtain ⟨s, ok⟩ :=
    Fault.exists_of_isOk (r := startWith kind kind.defaults 1) (by decide +kernel)
  obtain ⟨-, -, -, -, shows⟩ := startWith_eq_ok ok
  exact ⟨s, ok, apply_to_number shows, apply_handle shows⟩

end Session

end FlightAttitude
