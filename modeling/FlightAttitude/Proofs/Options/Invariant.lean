/-
# FlightAttitude.Proofs.Options.Invariant — what every step of a session keeps

Two invariants hold for every kind of options, and each is read off the changes that a step can make:

* `View.All` — each object has its own property of names and values. It stays where settling and
  applying keep it and what is given has it.
* `Session.Restorable` — the kept options are final, can be copied, and nothing hides what a reset
  calls. It stays where no step reaches the kept options, and a reset then brings back every field
  (`Session.Restorable.step_reset`). Where the notice of a reset cannot be written, the fields are
  back all the same.
-/
import FlightAttitude.Proofs.Options.Start

namespace FlightAttitude

/-! ## §1 Properties that follow the values -/

namespace View

/-- **`All P v`** — every attribute of every object has the property that `P` asks of the object's
attributes. -/
def All (P : Holder → String → Datum → Prop) (v : View) : Prop :=
  ∀ h a, v.get? h = some a → a.All (P h)

variable {P : Holder → String → Datum → Prop} {v : View} {h : Holder} {es : List (String × Setting)}

theorem All.setAll (all : v.All P) (each : ∀ e ∈ es, P h e.1 e.2.value) : (v.setAll h es).All P := by
  intro h' a there
  by_cases same : h' = h
  · subst same
    obtain ⟨cls, held⟩ := get?_eq_some_iff.mp there
    rw [setAll_self] at held
    cases before : v h' with
    | bare d =>
      rw [before] at held
      cases held
    | object cls' b =>
      rw [before] at held
      cases held
      exact (all h' b (get?_of_eq before)).setAll each
  · exact all h' a (get?_setAll_of_ne same es v ▸ there)

theorem All.bind (all : v.All P) {held : Held} (new : ∀ a, held.object? = some a → a.All (P h)) :
    (v.bind h held).All P := by
  intro h' a there
  by_cases same : h' = h
  · subst same
    rw [get?, bind_self] at there
    exact new a there
  · rw [get?, bind_of_ne same] at there
    exact all h' a there

end View

namespace Session

variable {k : OptionsKind} {s s' : Session} {v v' : View} {x : OptionsStep} {h : Holder}
  {a b : Attributes} {who : Owner} {P : Holder → String → Datum → Prop}

/-- **`OptionsStep.Gives P x`** — the values that the step `x` brings in have the property. -/
def OptionsStep.Gives (P : Holder → String → Datum → Prop) : OptionsStep → Prop
  | .keep given => ∀ e ∈ given, P .options e.1 e.2
  | .set who field value =>
    ∀ cls name copied, Slot.of who cls field = .plain name copied → P who name value
  | _ => True

/-- **`Closed k P`** — the property is kept by what is done to values without looking at them. -/
structure Closed (k : OptionsKind) (P : Holder → String → Datum → Prop) : Prop where
  defaults : ∀ e ∈ k.fields, P .options e.1 e.2 ∧ P .otherKept e.1 e.2
  settling : ∀ h a, a.All (P h) → ∀ e ∈ (k.settling a).1, P h e.1 e.2.value
  /-- The fields of options that were accepted can be copied to any object. -/
  apply : ∀ who onto a, a.All (P who) → (k.settle a).2 = .ok () →
    ∀ name ∈ k.fieldNames, ∀ w, (k.settle a).1.get? name = some w → P onto name w.value
  /-- Whatever anyone has can be kept. -/
  keep : ∀ h (who : Owner) name d, P h name d → P who.kept name d
  append : ∀ h name members d, P h name (.list members) → P h name (.list (members ++ [d]))

theorem Closed.settle (closed : Closed k P) (all : a.All (P h)) : Attributes.All (P h) (k.settle a).1 :=
  all.setAll (closed.settling h a all)

theorem all_change (closed : Closed k P) (gives : x.Gives P) (all : v.All P)
    (change : Change k v x v') : v'.All P := by
  cases change with
  | nothing => exact all
  | settled source there =>
    exact all.setAll (closed.settling _ _ (all _ _ (View.get?_of_optionsAt? there)))
  | applied source destination there accepted part =>
    have before := all _ _ (View.get?_of_optionsAt? there)
    refine (all.setAll (closed.settling _ _ before)).setAll fun e mem => ?_
    obtain ⟨field, holds⟩ := OptionsKind.mem_fieldsIn.mp (part e mem)
    exact closed.apply _ _ _ before accepted e.1 field e.2 holds
  | made made =>
    refine all.bind fun b same => ?_
    cases same
    exact OptionsKind.all_make (fun e mem => (closed.defaults e mem).1) gives made
  | renewed made =>
    have new := OptionsKind.all_make (fun e mem => (closed.defaults e mem).1) gives made
    refine (all.bind fun b same => ?_).bind fun b same => ?_
    · cases same
      exact new
    · cases same
      exact fun name w there => closed.keep .options .configured name w.value (new name w there)
  | assigned =>
    refine all.bind fun b same name w there => ?_
    exact closed.keep _ _ name w.value (all _ b same name w there)
  | wrote there slot =>
    exact all.setAll (List.forall_mem_singleton.mpr (gives _ _ _ slot))
  | replaced _ _ => exact all.bind nofun
  | appended there holds =>
    refine all.setAll (List.forall_mem_singleton.mpr ?_)
    exact closed.append _ _ _ _ (all _ _ there _ _ holds)

theorem all_startWith (closed : Closed k P) {made : Attributes} {writes : Nat}
    (given : made.All (P .options)) (ok : startWith k made writes = .ok s) : s.view.All P := by
  obtain ⟨-, accepted, acceptedDefaults, -, shows⟩ := startWith_eq_ok ok
  rw [shows.view]
  have settled := closed.settle given
  have defaults : k.defaults.All (P .otherKept) :=
    OptionsKind.all_defaults fun e mem => (closed.defaults e mem).2
  intro h a there
  cases h with
  | configured =>
    cases there
    refine Attributes.all_empty.setAll fun e mem => ?_
    obtain ⟨field, holds⟩ := OptionsKind.mem_fieldsIn.mp mem
    exact closed.apply .options .configured _ given accepted e.1 field e.2 holds
  | other =>
    cases there
    refine Attributes.all_empty.setAll fun e mem => ?_
    obtain ⟨field, holds⟩ := OptionsKind.mem_fieldsIn.mp mem
    exact closed.apply .otherKept .other _ defaults acceptedDefaults e.1 field e.2 holds
  | options =>
    cases there
    exact settled
  | kept =>
    cases there
    exact fun name w holds => closed.keep .options .configured name w.value (settled name w holds)
  | otherKept =>
    cases there
    exact closed.settle defaults
  | target =>
    cases there
    exact Attributes.all_empty

/-! ## §2 Attributes that stay -/

/-- **No step replaces a configured object**: attributes are set on it, and nothing else happens. -/
theorem Change.configured (change : Change k v x v') (who : Owner) :
    ∃ es, v' who.holder = (v who.holder).setAll es := by
  have same : ∃ es, v who.holder = (v who.holder).setAll es := ⟨[], (Held.setAll_nil _).symm⟩
  have set (h : Holder) (es : List (String × Setting)) (v : View) :
      ∃ es', v.setAll h es who.holder = (v who.holder).setAll es' := by
    by_cases own : who.holder = h
    · exact ⟨es, by rw [own, View.setAll_self]⟩
    · exact ⟨[], by rw [View.setAll_of_ne own, Held.setAll_nil]⟩
  have notKept (who' : Owner) : who.holder ≠ who'.kept := by cases who <;> cases who' <;> decide
  have notOptions : who.holder ≠ .options := by cases who <;> decide
  cases change with
  | nothing => exact same
  | settled source there => exact set _ _ v
  | @applied _ first onto a es _ _ _ _ _ =>
    obtain ⟨es₁, settled⟩ := set first (k.settling a).1 v
    obtain ⟨es₂, copied⟩ := set onto es (v.setAll first (k.settling a).1)
    exact ⟨es₁ ++ es₂, by rw [copied, settled, Held.setAll_setAll]⟩
  | made _ => rwa [View.bind_of_ne notOptions]
  | renewed _ =>
    have other : who.holder ≠ .kept := notKept .configured
    rwa [View.bind_of_ne other, View.bind_of_ne notOptions]
  | assigned => rwa [View.bind_of_ne (notKept _)]
  | wrote _ _ => exact set _ _ v
  | replaced _ _ => rwa [View.bind_of_ne (notKept _)]
  | appended _ _ => exact set _ _ v

/-- So no attribute is lost to it. -/
theorem Change.isSome_get? (change : Change k v x v') (who : Owner) {name : String}
    (there : (((v.get? who.holder).getD .empty).get? name).isSome) :
    (((v'.get? who.holder).getD .empty).get? name).isSome := by
  obtain ⟨es, after⟩ := change.configured who
  rw [View.get?] at there ⊢
  rw [after]
  cases held : v who.holder with
  | bare d =>
    rw [held] at there
    cases there
  | object cls a =>
    rw [held] at there
    exact Entries.isSome_get?_setAll there es

/-! ## §3 Resets -/

/-- **`Restorable k kept v`** — the options `kept` are kept in their final form and can be copied, and
neither they nor the configured object hide what a reset calls. -/
structure Restorable (k : OptionsKind) (kept : Attributes) (v : View) : Prop where
  keeps : v.optionsAt? .kept = some kept
  final : k.settle kept = (kept, .ok ())
  copyable : ∀ e ∈ kept.entries, e.2.value.copyable = true
  callable : kept.Callable
  /-- The configured object has no attributes but its fields. -/
  configured : ∃ a, v .configured = .object .configured a ∧ k.OnlyFields a

/-- **`OptionsStep.Spares k x`** — the step `x` writes nothing to the kept options and puts no others in
their place, and to the configured object it writes only fields. -/
def OptionsStep.Spares (k : OptionsKind) : OptionsStep → Prop
  | .keep _ => False
  | .assign who _ => who ≠ .configured
  | .set who field _ => who ≠ .kept ∧ (who = .configured → field ∈ k.fieldNames)
  | .apply _ onto => onto ≠ .kept
  | .append who _ _ => who ≠ .kept
  | _ => True

/-- What is asked of the attributes of each object: of those of the configured one, to be fields. -/
private def FieldIfConfigured (k : OptionsKind) (h : Holder) (name : String) (_ : Datum) : Prop :=
  h = .configured → name ∈ k.fieldNames

private theorem closed_fieldIfConfigured (lawful : k.Lawful) : Closed k (FieldIfConfigured k) where
  defaults _ _ := ⟨nofun, nofun⟩
  settling _ a _ e mem _ := lawful.settling_mem a e mem
  apply _ _ _ _ _ name field _ _ _ := field
  keep _ who _ _ _ own := by cases who <;> cases own
  append _ _ _ _ only := only

private theorem OptionsStep.Spares.gives (lawful : k.Lawful) (spares : x.Spares k) :
    x.Gives (FieldIfConfigured k) := by
  cases x with
  | keep given => exact spares.elim
  | set who field value =>
    intro cls name copied slot own
    have ordinary := lawful.slot_of_mem field (spares.2 own) who cls
    cases slot.symm.trans ordinary
    exact spares.2 own
  | _ => trivial

private theorem OptionsStep.Spares.destination_ne (spares : x.Spares k)
    (destination : x.destination? = some h) : h ≠ .kept := by
  cases x with
  | reset who =>
    cases destination
    cases who <;> decide
  | apply who onto =>
    cases destination
    exact spares
  | _ => cases destination

theorem eq_holder_of_slot {field : String} {cls : ObjectClass} {copied : Bool}
    (slot : Slot.of h cls field = .kept who copied) : h = who.holder := by
  have owner : h.owner? = some who := by
    unfold Slot.of at slot
    cases owner : h.owner? with
    | none =>
      simp only [owner] at slot
      split_ifs at slot
    | some who' =>
      simp only [owner] at slot
      split_ifs at slot <;> cases slot <;> rfl
  cases h <;> cases owner <;> rfl

variable {kept : Attributes}

/-- The kept options are settled to themselves. -/
private theorem Restorable.settled (restorable : Restorable k kept v)
    (there : v.optionsAt? h = some a) :
    (v.setAll h (k.settling a).1).optionsAt? .kept = some kept := by
  by_cases own : h = .kept
  · subst own
    cases restorable.keeps.symm.trans there
    rw [View.optionsAt?_setAll_self there]
    exact congrArg (some ·.1) restorable.final
  · rw [View.optionsAt?, View.setAll_of_ne (fun same => own same.symm)]
    exact restorable.keeps

theorem Restorable.change (lawful : k.Lawful) (spares : x.Spares k)
    (restorable : Restorable k kept v) (change : Change k v x v') : Restorable k kept v' := by
  have configured : ∃ a, v' .configured = .object .configured a ∧ k.OnlyFields a := by
    obtain ⟨a, there, only⟩ := restorable.configured
    obtain ⟨es, after⟩ := change.configured .configured
    have now : v' .configured = .object .configured (a.setAll es) := by
      rw [show v' .configured = (v .configured).setAll es from after, there, Held.setAll]
    refine ⟨_, now, fun name w holds => ?_⟩
    have before : v.All (FieldIfConfigured k) := by
      intro h b held name w holds own
      subst own
      cases (View.get?_of_eq there).symm.trans held
      exact only name w holds
    exact all_change (closed_fieldIfConfigured lawful) (spares.gives lawful) before change
      .configured _ (View.get?_of_eq now) name w holds rfl
  have set {h : Holder} (ne : h ≠ .kept) {w : View} (there : w.optionsAt? .kept = some kept)
      (es : List (String × Setting)) : (w.setAll h es).optionsAt? .kept = some kept := by
    rwa [View.optionsAt?, View.setAll_of_ne ne.symm, ← View.optionsAt?]
  have keeps : v'.optionsAt? .kept = some kept := by
    cases change with
    | nothing => exact restorable.keeps
    | settled _ source => exact restorable.settled source
    | applied _ destination source _ _ =>
      exact set (spares.destination_ne destination) (restorable.settled source) _
    | made _ => exact spares.elim
    | renewed _ => exact spares.elim
    | @assigned who _ =>
      have other : Holder.kept ≠ who.kept := by
        cases who with
        | configured => exact absurd rfl spares
        | other => decide
      rw [View.optionsAt?, View.bind_of_ne other]
      exact restorable.keeps
    | wrote _ _ => exact set spares.1 restorable.keeps _
    | @replaced _ _ _ _ whose _ _ _ slot =>
      have own := eq_holder_of_slot slot
      have other : Holder.kept ≠ whose.kept := by
        cases whose with
        | configured => cases slot.symm.trans (lawful.slot_of_mem _ (spares.2 own) _ _)
        | other => decide
      rw [View.optionsAt?, View.bind_of_ne other]
      exact restorable.keeps
    | appended _ _ => exact set spares restorable.keeps _
  exact ⟨keeps, restorable.final, restorable.copyable, restorable.callable, configured⟩

/-- **A reset of a restorable session** copies the fields of the kept options to the configured object and
changes nothing else. It fails only where the options cannot be written in its notice. -/
theorem Restorable.step_reset (lawful : k.Lawful) (shows : s.Shows v)
    (restorable : Restorable k kept v) :
    (step k s (.reset .configured)).1.Shows (v.setAll .configured (k.fieldsIn kept)) ∧
      ((∃ shown, (step k s (.reset .configured)).2.result = .ok shown) ↔
        k.resetNotice = none ∨ (k.written s.limit k.optionsName kept).isSome) := by
  obtain ⟨a, configured, only⟩ := restorable.configured
  have there : v.get? Owner.configured.holder = some a := View.get?_of_eq configured
  have visible : ((v.get? Owner.configured.holder).getD .empty).get? resetName = none := by
    rw [there, Option.getD_some, only.get?_eq_none lawful.resetName_notMem]
  have performed : step k s (.reset .configured) = resetOf k .configured s :=
    Session.step_reset shows (View.get?_of_optionsAt? restorable.keeps) restorable.callable visible
  rw [performed]
  have final := congrArg Prod.fst restorable.final
  have fields : k.fieldsIn (k.settle kept).1 = k.fieldsIn kept := by rw [final]
  have accepts (e : String × Setting) (mem : e ∈ k.fieldsIn kept) : (v .configured).Accepts e := by
    refine ⟨restorable.copyable e (Entries.mem_of_get? (OptionsKind.mem_fieldsIn.mp mem).2), ?_⟩
    rw [configured]
    rfl
  obtain ⟨v', shows', applied, -⟩ :=
    shows.applied (k := k) restorable.keeps (show Holder.configured ≠ .kept by decide)
  obtain ⟨rfl, done⟩ : v' = v.setAll .configured (k.fieldsIn kept) ∧
      (applyTo k .kept .configured s).2 = .ok () := by
    -- settling changes nothing, and everything is copied
    generalize (applyTo k .kept .configured s).2 = result at applied ⊢
    cases applied with
    | refused refused => cases (congrArg Prod.snd restorable.final).symm.trans refused
    | interrupted _ stops => exact absurd accepts (fields ▸ stops).not_forall_accepts
    | complete _ _ =>
      refine ⟨?_, rfl⟩
      rw [View.setAll_settling restorable.keeps final, fields]
  refine ⟨(resetOf_fst k .configured s).symm ▸ shows', ?_⟩
  rw [(shows.reset (o := .configured) restorable.keeps fun _ => ⟨_, a, configured⟩).ok_iff, final]
  exact and_iff_right done

end Session

end FlightAttitude
