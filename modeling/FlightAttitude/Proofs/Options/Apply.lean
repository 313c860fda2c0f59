/-
# FlightAttitude.Proofs.Options.Apply — options applied to another object

Applying options settles them first and copies afterwards, so it can go in three ways
(`Session.Applied`). Options that are refused have reached no other object. Options that are accepted
are copied field by field: all of them, or those before the first that cannot be copied or is not taken.
Where all were copied, applying them again shows the same in the source and in the target
(`Session.Applied.again`).

A reset applies the kept options to a configured object and says so. It leaves every object as applying
them does (`Session.resetOf_fst`), fails as that fails, and beyond that only where the options cannot be
written in its notice (`Session.Shows.reset`). One that fails says nothing
(`Session.ResetOutcome.silent`).
-/
import FlightAttitude.Proofs.Options.Session

namespace FlightAttitude

/-- Options that are settled to themselves are left as they are. -/
theorem View.setAll_settling {k : OptionsKind} {v : View} {h : Holder} {a : Attributes}
    (there : v.optionsAt? h = some a) (final : (k.settle a).1 = a) :
    v.setAll h (k.settling a).1 = v := by
  obtain ⟨cls, held, -⟩ := View.optionsAt?_eq_some_iff.mp there
  refine View.modify_eq_self ?_
  rw [held, Held.setAll]
  exact congrArg (Held.object cls) final

/-- Fields that are set once are set again to no effect. -/
theorem Held.setAll_fieldsIn_setAll (k : OptionsKind) (a : Attributes) (w : Held) :
    (w.setAll (k.fieldsIn a)).setAll (k.fieldsIn a) = w.setAll (k.fieldsIn a) := by
  cases w with
  | object cls b => exact congrArg (Held.object cls) (k.copyFields_copyFields a b)
  | bare d => rfl

namespace Session

variable {k : OptionsKind} {s : Session} {v v' : View} {who onto : Holder} {o : Owner}
  {a b : Attributes} {f : Fault} {result : Except Fault Unit}

/-! ## §1 The three outcomes -/

/-- **`Applied k v who onto a v' result`** — what comes of it when the options `a` of one object are
applied to another one: the view `v'` and the result. -/
inductive Applied (k : OptionsKind) (v : View) (who onto : Holder) (a : Attributes) :
    View → Except Fault Unit → Prop
  | refused {f : Fault} (refused : (k.settle a).2 = .error f) :
    Applied k v who onto a (v.setAll who (k.settling a).1) (.error f)
  | interrupted {earlier : List (String × Setting)} {f : Fault} (accepted : (k.settle a).2 = .ok ())
      (stops : (v onto).Stops (k.fieldsIn (k.settle a).1) earlier f) :
    Applied k v who onto a ((v.setAll who (k.settling a).1).setAll onto earlier) (.error f)
  | complete (accepted : (k.settle a).2 = .ok ())
      (each : ∀ e ∈ k.fieldsIn (k.settle a).1, (v onto).Accepts e) :
    Applied k v who onto a
      ((v.setAll who (k.settling a).1).setAll onto (k.fieldsIn (k.settle a).1)) (.ok ())

/-- **Applying options** settles them and copies them where they are accepted, as far as it goes. -/
theorem Shows.applied (shows : s.Shows v) (source : v.optionsAt? who = some a) (ne : onto ≠ who) :
    ∃ v', (applyTo k who onto s).1.Shows v' ∧
      Applied k v who onto a v' (applyTo k who onto s).2 ∧
      (applyTo k who onto s).1.limit = s.limit := by
  cases accepted : (k.settle a).2 with
  | error f =>
    obtain ⟨settled, failed, limit⟩ := shows.applyTo_of_refused source accepted onto
    exact ⟨_, settled, failed ▸ .refused accepted, limit⟩
  | ok =>
    obtain ⟨copied, done, limit⟩ := shows.applyTo_of_accepted source accepted onto
    rw [View.setAll_of_ne ne] at done
    -- settling the source has not reached the target, so the loop starts at what the target was
    have target : v.setAll who (k.settling a).1 onto = v onto := View.setAll_of_ne ne _ v
    have outcome := Held.copied (k.fieldsIn (k.settle a).1) (v onto)
    generalize copied_eq : (v onto).copyEach (k.fieldsIn (k.settle a).1) = after at outcome done
    have set {es : List (String × Setting)} (same : after.1 = (v onto).setAll es) :
        ((v.setAll who (k.settling a).1).modify onto
          fun w => (w.copyEach (k.fieldsIn (k.settle a).1)).1) =
            (v.setAll who (k.settling a).1).setAll onto es :=
      View.modify_congr (by rw [target, copied_eq, same])
    refine ⟨_, copied, ?_, limit⟩
    cases outcome with
    | complete each =>
      rw [set rfl, done]
      exact .complete accepted each
    | interrupted stops =>
      rw [set rfl, done]
      exact .interrupted accepted stops

namespace Applied

variable (applied : Applied k v who onto a v' result)

include applied

/-- It fails where the options are refused, and where a field of accepted ones is. -/
theorem error_iff : result = .error f ↔ (k.settle a).2 = .error f ∨
    (k.settle a).2 = .ok () ∧ ∃ earlier, (v onto).Stops (k.fieldsIn (k.settle a).1) earlier f := by
  cases applied with
  | refused refused => simp [refused]
  | @interrupted earlier g accepted stops =>
    rw [accepted]
    constructor
    · rintro ⟨⟩
      exact .inr ⟨rfl, earlier, stops⟩
    · rintro (⟨⟨⟩⟩ | ⟨-, again, stops'⟩)
      have copied := (Held.copyEach_of_stops stops).symm.trans (Held.copyEach_of_stops stops')
      exact congrArg Prod.snd copied
  | complete accepted each =>
    rw [accepted]
    constructor
    · rintro ⟨⟩
    · rintro (⟨⟨⟩⟩ | ⟨-, again, stops⟩)
      exact absurd each stops.not_forall_accepts

/-- The source is in its final form, whether it is accepted or not. -/
theorem source (ne : onto ≠ who) : v' who = (v who).setAll (k.settling a).1 := by
  cases applied with
  | refused _ => rw [View.setAll_self]
  | interrupted _ _ | complete _ _ => rw [View.setAll_of_ne ne.symm, View.setAll_self]

theorem optionsAt?_source (source : v.optionsAt? who = some a) (ne : onto ≠ who) :
    v'.optionsAt? who = some (k.settle a).1 := by
  have settled : (v.setAll who (k.settling a).1).optionsAt? who = some (k.settle a).1 :=
    View.optionsAt?_setAll_self source _
  rwa [View.optionsAt?, View.setAll_self, ← applied.source ne] at settled

theorem third {h : Holder} (notSource : h ≠ who) (notTarget : h ≠ onto) : v' h = v h := by
  cases applied with
  | refused _ => rw [View.setAll_of_ne notSource]
  | interrupted _ _ | complete _ _ => rw [View.setAll_of_ne notTarget, View.setAll_of_ne notSource]

/-- Nothing has been copied from options that are refused. -/
theorem target_of_refused (refused : (k.settle a).2 = .error f) (ne : onto ≠ who) :
    v' onto = v onto := by
  cases applied with
  | refused _ => rw [View.setAll_of_ne ne]
  | interrupted accepted _ | complete accepted _ => cases accepted.symm.trans refused

/-- Of accepted options the fields before the one that is refused have been copied, and no others. -/
theorem target_of_stops {earlier : List (String × Setting)} (accepted : (k.settle a).2 = .ok ())
    (stops : (v onto).Stops (k.fieldsIn (k.settle a).1) earlier f) (ne : onto ≠ who) :
    v' onto = (v onto).setAll earlier := by
  cases applied with
  | refused refused => cases accepted.symm.trans refused
  | interrupted _ stops' =>
    rw [View.setAll_self, View.setAll_of_ne ne]
    have copied := (Held.copyEach_of_stops stops').symm.trans (Held.copyEach_of_stops stops)
    exact congrArg Prod.fst copied
  | complete _ each => exact absurd each stops.not_forall_accepts

theorem of_ok (ok : result = .ok ()) (ne : onto ≠ who) : (k.settle a).2 = .ok () ∧
    (∀ e ∈ k.fieldsIn (k.settle a).1, (v onto).Accepts e) ∧
      v' onto = (v onto).setAll (k.fieldsIn (k.settle a).1) := by
  cases applied with
  | refused _ | interrupted _ _ => cases ok
  | complete accepted each =>
    exact ⟨accepted, each, by rw [View.setAll_self, View.setAll_of_ne ne]⟩

/-- Options with a field are copied to an object, if to anything at all. -/
theorem exists_object (ok : result = .ok ()) (ne : onto ≠ who)
    (followed : ∀ d, v onto = .bare d → d.takesAttributes = false)
    (some : k.fieldsIn (k.settle a).1 ≠ []) : ∃ cls b, v onto = .object cls b := by
  obtain ⟨-, each, -⟩ := applied.of_ok ok ne
  obtain ⟨e, mem⟩ := List.exists_mem_of_ne_nil _ some
  exact (each e mem).exists_object followed

/-- **Options that were applied are applied again to no effect.** -/
theorem again (lawful : k.Lawful) (source : v.optionsAt? who = some a) (ne : onto ≠ who)
    (ok : result = .ok ()) {v'' : View} {result' : Except Fault Unit}
    (second : Applied k v' who onto (k.settle a).1 v'' result') : v'' = v' ∧ result' = .ok () := by
  obtain ⟨accepted, each, target⟩ := applied.of_ok ok ne
  have final := lawful.settle_final a accepted
  have settled := applied.optionsAt?_source source ne
  have fields : k.fieldsIn (k.settle (k.settle a).1).1 = k.fieldsIn (k.settle a).1 := by rw [final]
  have still (e : String × Setting) (mem : e ∈ k.fieldsIn (k.settle a).1) : (v' onto).Accepts e := by
    rw [target, Held.accepts_setAll]
    exact each e mem
  cases second with
  | refused refused =>
    rw [final] at refused
    cases refused
  | interrupted _ stops =>
    rw [fields] at stops
    exact absurd still stops.not_forall_accepts
  | complete _ _ =>
    refine ⟨?_, rfl⟩
    rw [View.setAll_settling settled (by rw [final]), fields]
    refine View.modify_eq_self ?_
    rw [target]
    exact Held.setAll_fieldsIn_setAll k _ _

end Applied

/-! ## §2 The steps that apply options -/

theorem applyCalls_unhidden (shows : s.Shows v) (there : v.get? who = some a)
    (callable : a.Callable) : (s.applyCalls who).any s.hides = false := by
  have visible (name : String) (none : a.get? name = none) : s.hides (who, name) = false := by
    rw [hides, shows.get?, there, Option.bind_some, none, Option.isSome_none]
  rw [applyCalls, List.any_cons, visible _ callable.1]
  split
  · rw [List.any_cons, visible _ callable.2]
    rfl
  · rfl

/-- Where nothing hides the operations, the step applies the options. -/
theorem step_apply (shows : s.Shows v) (there : v.get? who = some a) (callable : a.Callable)
    (onto : Holder) : step k s (.apply who onto) = showing onto (applyTo k who onto s) := by
  have unhidden : ((OptionsStep.apply who onto).calls s).any s.hides = false :=
    applyCalls_unhidden shows there callable
  rw [step, unhidden, if_neg Bool.false_ne_true, perform]

/-- The attributes of an object can be shown. -/
theorem Shows.shownAt_of_get? (shows : s.Shows v) {h : Holder} (there : v.get? h = some b) :
    s.shownAt h = .ok (.attributes b) := by
  rw [shownAt, shows.get?, there]

section Showing

variable {after after' : Session × Except Fault Unit} {h : Holder}

theorem error_showing (failed : after.2 = .error f) : (showing h after).2.result = .error f := by
  obtain ⟨s', result⟩ := after
  cases failed
  rfl

theorem error_showing_iff (shows : after.1.Shows v)
    (object : after.2 = .ok () → ∃ cls b, v h = .object cls b) :
    (showing h after).2.result = .error f ↔ after.2 = .error f := by
  obtain ⟨s', result⟩ := after
  cases result with
  | error g => simp only [showing, Report.fail, Except.error.injEq]
  | ok =>
    obtain ⟨cls, b, held⟩ := object rfl
    simp only [showing, shows.shownAt_of_get? (View.get?_of_eq held), Report.ofExcept, reduceCtorEq]

theorem ok_showing_iff (shows : after.1.Shows v)
    (object : after.2 = .ok () → ∃ cls b, v h = .object cls b) :
    (∃ shown, (showing h after).2.result = .ok shown) ↔ after.2 = .ok () := by
  obtain ⟨s', result⟩ := after
  cases result with
  | error g => simp [showing, Report.fail]
  | ok =>
    obtain ⟨cls, b, held⟩ := object rfl
    simp [showing, shows.shownAt_of_get? (View.get?_of_eq held), Report.ofExcept]

/-- What is shown depends on what the holders see alone. -/
theorem showing_congr (shows : after.1.Shows v) (shows' : after'.1.Shows v)
    (same : after.2 = after'.2) : (showing h after).2 = (showing h after').2 := by
  obtain ⟨s₁, result⟩ := after
  obtain ⟨s₂, result'⟩ := after'
  cases same
  cases result with
  | error g => rfl
  | ok => simp only [showing, shownAt, shows.get?, shows'.get?]

end Showing

/-- Settling hides no operation. -/
theorem callable_settle (lawful : k.Lawful) (callable : a.Callable) : (k.settle a).1.Callable :=
  ⟨(lawful.settle_frame lawful.applyName_notMem a).trans callable.1,
    (lawful.settle_frame lawful.settleName_notMem a).trans callable.2⟩

/-- A second application to the same target changes nothing and reports the same. -/
theorem step_apply_again (lawful : k.Lawful) (shows : s.Shows v) (source : v.optionsAt? who = some a)
    (callable : a.Callable) (ne : onto ≠ who) (done : (applyTo k who onto s).2 = .ok ()) :
    let after := step k s (.apply who onto)
    (step k after.1 (.apply who onto)).1.view = after.1.view ∧
      (step k after.1 (.apply who onto)).2 = after.2 := by
  intro after
  have performed : after = showing onto (applyTo k who onto s) :=
    step_apply shows (View.get?_of_optionsAt? source) callable onto
  obtain ⟨v', shows', first, -⟩ := shows.applied (k := k) source ne
  have fst : after.1 = (applyTo k who onto s).1 := by rw [performed, showing_fst]
  have settled := first.optionsAt?_source source ne
  have again : step k (applyTo k who onto s).1 (.apply who onto) =
      showing onto (applyTo k who onto (applyTo k who onto s).1) :=
    step_apply shows' (View.get?_of_optionsAt? settled) (callable_settle lawful callable) onto
  obtain ⟨v'', shows'', second, -⟩ := shows'.applied (k := k) settled ne
  obtain ⟨rfl, done'⟩ := first.again lawful source ne done second
  rw [fst, again, showing_fst]
  refine ⟨shows''.view.trans shows'.view.symm, ?_⟩
  rw [performed]
  exact showing_congr shows'' shows' (done'.trans done.symm)

/-- Nothing hides what a reset calls, neither on the configured object nor on the kept options. -/
theorem step_reset (shows : s.Shows v) (there : v.get? o.kept = some a) (callable : a.Callable)
    (visible : ((v.get? o.holder).getD .empty).get? resetName = none) :
    step k s (.reset o) = resetOf k o s := by
  have configured : s.hides (o.holder, resetName) = false := by
    rw [hides, shows.get?]
    cases held : v.get? o.holder with
    | none => rfl
    | some b =>
      rw [held, Option.getD_some] at visible
      rw [Option.bind_some, visible, Option.isSome_none]
  have unhidden : ((OptionsStep.reset o).calls s).any s.hides = false := by
    rw [OptionsStep.calls, List.any_cons, configured, applyCalls_unhidden shows there callable]
    rfl
  rw [step, unhidden, if_neg Bool.false_ne_true, perform]

/-! ## §3 Resets -/

/-- **`ResetOutcome k limit kept applied report`** — what is reported of a reset to the options `kept`,
where applying them went as `applied` says. -/
inductive ResetOutcome (k : OptionsKind) (limit : Option Nat) (kept : Attributes) :
    Except Fault Unit → Report Shown → Prop
  | failed {f : Fault} : ResetOutcome k limit kept (.error f) (.fail f)
  /-- The notice of it cannot be written. -/
  | unwritten (speaks : k.resetNotice ≠ none) (digits : k.written limit k.optionsName kept = none) :
    ResetOutcome k limit kept (.ok ()) (.fail .tooManyDigits)
  | done {notices : List Notice} {shown : Shown}
      (legible : k.resetNotice = none ∨ (k.written limit k.optionsName kept).isSome) :
    ResetOutcome k limit kept (.ok ()) ⟨notices, .ok shown⟩

/-- Whether options can be written does not depend on the name of their class. -/
theorem written_eq_none_iff (limit : Option Nat) (name name' : String) (a : Attributes) :
    k.written limit name a = none ↔ k.written limit name' a = none := by
  rw [← Option.not_isSome_iff_eq_none, ← Option.not_isSome_iff_eq_none,
    OptionsKind.isSome_written, OptionsKind.isSome_written]

/-- **A reset** fails as applying the kept options fails, and beyond that only where they cannot be
written. -/
theorem Shows.reset (shows : s.Shows v) (source : v.optionsAt? o.kept = some a)
    (object : (applyTo k o.kept o.holder s).2 = .ok () → ∃ cls b, v o.holder = .object cls b) :
    ResetOutcome k s.limit (k.settle a).1 (applyTo k o.kept o.holder s).2 (resetOf k o s).2 := by
  have ne : o.holder ≠ o.kept := by cases o <;> decide
  obtain ⟨v', shows', applied, limit⟩ := shows.applied (k := k) source ne
  unfold resetOf
  generalize applyTo k o.kept o.holder s = after at shows' applied limit object ⊢
  obtain ⟨s', result⟩ := after
  cases result with
  | error f => exact .failed
  | ok =>
    obtain ⟨-, -, target⟩ := applied.of_ok rfl ne
    obtain ⟨cls, b, held⟩ := object rfl
    rw [held, Held.setAll] at target
    have shown := shows'.shownAt_of_get? (View.get?_of_eq target)
    obtain ⟨cls', kept, operations⟩ :=
      View.optionsAt?_eq_some_iff.mp (applied.optionsAt?_source source ne)
    have limit : s'.limit = s.limit := limit
    have written : s'.writtenAt k o.kept =
        legible (k.written s.limit (className k cls') (k.settle a).1) := by
      rw [writtenAt, shows'.held, kept]
      simp only [operations, if_true, limit]
    cases notice : k.resetNotice with
    | none =>
      simp only [showing, shown]
      exact .done (.inl notice)
    | some n =>
      have speaks : k.resetNotice ≠ none := by simp [notice]
      have same := written_eq_none_iff (k := k) s.limit (className k cls') k.optionsName
        (k.settle a).1
      cases text : k.written s.limit (className k cls') (k.settle a).1 with
      | none =>
        simp only [written, text, legible]
        exact .unwritten speaks (same.mp text)
      | some t =>
        simp only [written, text, legible, shown]
        refine .done (.inr (Option.isSome_iff_ne_none.mpr fun none => ?_))
        cases text.symm.trans (same.mpr none)

namespace ResetOutcome

variable {limit : Option Nat} {kept : Attributes} {applied : Except Fault Unit}
  {report : Report Shown} (outcome : ResetOutcome k limit kept applied report)

include outcome

theorem error_iff : report.result = .error f ↔ applied = .error f ∨
    applied = .ok () ∧ f = .tooManyDigits ∧ k.resetNotice ≠ none ∧
      k.written limit k.optionsName kept = none := by
  cases outcome with
  | failed => simp [Report.fail]
  | unwritten speaks digits => simp [Report.fail, speaks, digits, @eq_comm _ f]
  | done legible =>
    simp only [reduceCtorEq, false_or, true_and, false_iff, not_and]
    rintro - speaks digits
    exact legible.elim speaks fun written => by simp [digits] at written

/-- A reset that fails says nothing. -/
theorem silent (failed : report.result = .error f) : report.notices = [] := by
  cases outcome with
  | failed | unwritten _ _ => rfl
  | done _ => cases failed

theorem ok_iff : (∃ shown, report.result = .ok shown) ↔ applied = .ok () ∧
    (k.resetNotice = none ∨ (k.written limit k.optionsName kept).isSome) := by
  cases outcome with
  | failed => simp [Report.fail]
  | unwritten speaks digits => simp [Report.fail, speaks, digits]
  | done legible => simp [legible]

end ResetOutcome

end Session

end FlightAttitude
