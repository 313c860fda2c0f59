/-
# FlightAttitude.Proofs.Options.Session — what a step can do to the objects of a session

`Session.Change` says once what a step can do to what the holders see: settle the options of its source,
copy fields of them to its destination, give a holder new options, set one attribute, or nothing. Every
step of a separate session is one of these and leaves it separate (`Session.step_change`), and what a
session keeps is read off them case by case.
-/
import FlightAttitude.Proofs.Options.View

namespace FlightAttitude

/-- **`Attributes.Callable a`** — no attribute hides the operations of options. -/
def Attributes.Callable (a : Attributes) : Prop :=
  a.get? Session.applyName = none ∧ a.get? Session.settleName = none

namespace Session

variable {k : OptionsKind} {s s' : Session} {v v' : View} {x : OptionsStep} {h : Holder}
  {a b : Attributes} {who onto : Holder} {f : Fault}

/-! ## §1 Applying options -/

/-- Where options are refused, nothing is copied. -/
theorem Shows.applyTo_of_refused (shows : s.Shows v) (source : v.optionsAt? who = some a)
    (refused : (k.settle a).2 = .error f) (onto : Holder) :
    (applyTo k who onto s).1.Shows (v.setAll who (k.settling a).1) ∧
      (applyTo k who onto s).2 = .error f ∧ (applyTo k who onto s).1.limit = s.limit := by
  obtain ⟨settled, result, limit⟩ := shows.settleAt_of_some (k := k) source
  rw [applyTo]
  generalize settleAt k who s = after at settled result limit ⊢
  obtain ⟨s', done⟩ := after
  cases result.trans refused
  exact ⟨settled, rfl, limit⟩

/-- Where they are accepted, the fields in their final form are copied. -/
theorem Shows.applyTo_of_accepted (shows : s.Shows v) (source : v.optionsAt? who = some a)
    (accepted : (k.settle a).2 = .ok ()) (onto : Holder) :
    (applyTo k who onto s).1.Shows ((v.setAll who (k.settling a).1).modify onto
        fun w => (w.copyEach (k.fieldsIn (k.settle a).1)).1) ∧
      (applyTo k who onto s).2 =
        ((v.setAll who (k.settling a).1 onto).copyEach (k.fieldsIn (k.settle a).1)).2 ∧
      (applyTo k who onto s).1.limit = s.limit := by
  obtain ⟨settled, result, limit⟩ := shows.settleAt_of_some (k := k) source
  rw [applyTo]
  generalize settleAt k who s = after at settled result limit ⊢
  obtain ⟨s', done⟩ := after
  cases result.trans accepted
  obtain ⟨copied, result, limit'⟩ :=
    settled.copyTo (k := k) (View.get?_of_optionsAt? (View.optionsAt?_setAll_self source _)) onto
  exact ⟨copied, result, limit'.trans limit⟩

theorem Shows.applyTo_of_none (shows : s.Shows v) (none : v.optionsAt? who = none) :
    applyTo k who onto s = (s, .error .noAttribute) := by
  rw [applyTo, shows.settleAt_of_none none]

/-! ## §2 The changes of a step -/

/-- **`source? x`** — the object whose options a step puts into their final form. -/
def OptionsStep.source? : OptionsStep → Option Holder
  | .reset who => some who.kept
  | .settle who => some who
  | .fields who => some who
  | .apply who _ => some who
  | _ => none

/-- **`destination? x`** — the object that these options are then applied to. -/
def OptionsStep.destination? : OptionsStep → Option Holder
  | .reset who => some who.holder
  | .apply _ onto => some onto
  | _ => none

/-- **`Change k v x v'`** — the ways in which the step `x` can lead from the view `v` to `v'`. -/
inductive Change (k : OptionsKind) (v : View) : OptionsStep → View → Prop
  | nothing {x : OptionsStep} : Change k v x v
  /-- The options of the source are settled, whether they are accepted or not. -/
  | settled {x : OptionsStep} {who : Holder} {a : Attributes} (source : x.source? = some who)
      (there : v.optionsAt? who = some a) : Change k v x (v.setAll who (k.settling a).1)
  /-- The options of the source are accepted, and all fields are copied, or some. -/
  | applied {x : OptionsStep} {who onto : Holder} {a : Attributes} {es : List (String × Setting)}
      (source : x.source? = some who) (destination : x.destination? = some onto)
      (there : v.optionsAt? who = some a) (accepted : (k.settle a).2 = .ok ())
      (part : ∀ e ∈ es, e ∈ k.fieldsIn (k.settle a).1) :
      Change k v x ((v.setAll who (k.settling a).1).setAll onto es)
  /-- New options are given to the caller. -/
  | made {given : List (String × Datum)} {a : Attributes} {n : Nat}
      (made : k.make n given = .ok a) :
      Change k v (.keep given) (v.bind .options (.object .options a))
  /-- A copy of them is kept, too. -/
  | renewed {given : List (String × Datum)} {a : Attributes} {n : Nat}
      (made : k.make n given = .ok a) :
      Change k v (.keep given)
        ((v.bind .options (.object .options a)).bind .kept (.object .options a))
  /-- A copy of what a holder has is kept. -/
  | assigned {who : Owner} {whom : Holder} :
      Change k v (.assign who whom) (v.bind who.kept (v whom))
  | wrote {who : Holder} {field name : String} {value : Datum} {copied : Bool}
      {cls : ObjectClass} {a : Attributes} {n : Nat} (there : v who = .object cls a)
      (slot : Slot.of who cls field = .plain name copied) :
      Change k v (.set who field value) (v.setAll who [(name, ⟨value, n⟩)])
  /-- The kept options are replaced by a bare value. -/
  | replaced {who : Holder} {field : String} {value : Datum} {copied : Bool} {whose : Owner}
      {cls : ObjectClass} {a : Attributes} (there : v who = .object cls a)
      (slot : Slot.of who cls field = .kept whose copied) :
      Change k v (.set who field value) (v.bind whose.kept (.bare value))
  | appended {who : Holder} {field : String} {value : Datum} {a : Attributes}
      {members : List Datum} {origin : Nat} (there : v.get? who = some a)
      (holds : a.get? field = some ⟨.list members, origin⟩) :
      Change k v (.append who field value)
        (v.setAll who [(field, ⟨.list (members ++ [value]), origin⟩)])

/-- **`Leads k v x s'`** — `s'` is separate and shows what the step `x` can make of the view `v`. -/
def Leads (k : OptionsKind) (v : View) (x : OptionsStep) (s' : Session) : Prop :=
  ∃ v', s'.Shows v' ∧ Change k v x v'

theorem Shows.stays (shows : s.Shows v) : Leads k v x s := ⟨v, shows, .nothing⟩

private theorem settleAt_leads (shows : s.Shows v) (source : x.source? = some who) :
    Leads k v x (settleAt k who s).1 := by
  cases there : v.optionsAt? who with
  | none => exact shows.settleAt_of_none (k := k) there ▸ shows.stays
  | some a => exact ⟨_, (shows.settleAt_of_some there).1, .settled source there⟩

private theorem applyTo_leads (shows : s.Shows v) (source : x.source? = some who)
    (destination : x.destination? = some onto) : Leads k v x (applyTo k who onto s).1 := by
  cases there : v.optionsAt? who with
  | none => exact shows.applyTo_of_none (k := k) there ▸ shows.stays
  | some a =>
    cases accepted : (k.settle a).2 with
    | error f => exact ⟨_, (shows.applyTo_of_refused there accepted onto).1, .settled source there⟩
    | ok =>
      obtain ⟨copied, -⟩ := shows.applyTo_of_accepted there accepted onto
      obtain ⟨es, part, set⟩ := Held.exists_copyEach_fst (k.fieldsIn (k.settle a).1)
        (v.setAll who (k.settling a).1 onto)
      rw [View.modify_congr set] at copied
      exact ⟨_, copied, .applied source destination there accepted part⟩

private theorem keep_leads (shows : s.Shows v) {given : List (String × Datum)} {n : Nat}
    (made : k.make n given = .ok a) :
    Leads k v (.keep given) (keepAt .configured .options (s.give .options .options a)).1 := by
  have given' := shows.give .options .options a
  rcases given'.keepAt .configured .options with ⟨-, -, kept⟩ | ⟨-, failed⟩
  · rw [View.bind_self] at kept
    exact ⟨_, kept, .renewed made⟩
  · rw [failed]
    exact ⟨_, given', .made made⟩

private theorem keepAt_leads (shows : s.Shows v) (whose : Owner) (h : Holder) :
    Leads k v (.assign whose h) (keepAt whose h s).1 := by
  rcases shows.keepAt whose h with ⟨-, -, kept⟩ | ⟨-, failed⟩
  · exact ⟨_, kept, .assigned⟩
  · rw [failed]
    exact shows.stays

private theorem setAt_leads (shows : s.Shows v) (who : Holder) (field : String) (value : Datum) :
    Leads k v (.set who field value) (setAt who field value s).1 := by
  unfold setAt
  cases held : s.held who with
  | bare d => exact shows.stays
  | object cls a =>
    have there : v who = .object cls a := (shows.held who).symm.trans held
    cases slot : Slot.of who cls field with
    | fixed =>
      simp only [slot]
      exact shows.stays
    | kept whose copied =>
      simp only [slot]
      split_ifs
      · exact shows.stays
      · exact ⟨_, (shows.writes _).bindBare _ value, .replaced there slot⟩
    | plain name copied =>
      simp only [slot]
      split_ifs
      · exact shows.stays
      · exact ⟨_, (shows.writes _).writeAt who _, .wrote there slot⟩
      · exact shows.stays

private theorem appendAt_leads (shows : s.Shows v) (who : Holder) (field : String)
    (value : Datum) : Leads k v (.append who field value) (appendAt who field value s).1 := by
  rcases shows.appendAt who field value with same | ⟨a, members, origin, there, holds, added⟩
  · exact same.stays
  · exact ⟨_, added, .appended there holds⟩

theorem showing_fst (h : Holder) (after : Session × Except Fault Unit) :
    (showing h after).1 = after.1 := by
  obtain ⟨s, done⟩ := after
  cases done <;> rfl

/-- A reset is the kept options applied to the configured object, with something said of it. -/
theorem resetOf_fst (k : OptionsKind) (whose : Owner) (s : Session) :
    (resetOf k whose s).1 = (applyTo k whose.kept whose.holder s).1 := by
  unfold resetOf
  split
  next applied => rw [applied]
  next s' applied =>
    rw [applied]
    split
    · rfl
    · split <;> rfl

theorem perform_leads (shows : s.Shows v) (x : OptionsStep) :
    Leads k v x (perform k s x).1 := by
  cases x with
  | reset whose => exact resetOf_fst k whose s ▸ applyTo_leads shows rfl rfl
  | keep given =>
    simp only [perform]
    cases made : k.make s.writes given with
    | error f => exact shows.stays
    | ok a => exact showing_fst .configured _ ▸ keep_leads (shows.writes _) made
  | assign whose whom => exact showing_fst whose.holder _ ▸ keepAt_leads shows whose whom
  | get who => exact shows.stays
  | set who field value => exact showing_fst who _ ▸ setAt_leads shows who field value
  | settle who => exact showing_fst who _ ▸ settleAt_leads shows rfl
  | fields who =>
    have settled : Leads k v (.fields who) (settleAt k who s).1 := settleAt_leads shows rfl
    simp only [perform]
    generalize settleAt k who s = after at settled ⊢
    obtain ⟨s', done⟩ := after
    cases done <;> exact settled
  | apply who onto => exact showing_fst onto _ ▸ applyTo_leads shows rfl rfl
  | write who => exact shows.stays
  | same who whom => exact shows.stays
  | append who field value => exact showing_fst who _ ▸ appendAt_leads shows who field value
  | identical who whom field => exact shows.stays
  | limitDigits limit => exact (shows.limit limit).stays

/-- **Every step of a separate session** leaves it separate and changes what it shows in one of the ways
listed. -/
theorem step_change (shows : s.Shows v) (x : OptionsStep) : Leads k v x (step k s x).1 := by
  unfold step
  split_ifs
  · exact shows.stays
  · exact perform_leads shows x

/-- An attribute that is set shows the value that is given. -/
theorem Shows.step_set {field name : String} {value : Datum} {cls : ObjectClass}
    (shows : s.Shows v) (there : v who = .object cls a)
    (slot : Slot.of who cls field = .plain name false) (takes : cls.takes name = true) :
    (step k s (.set who field value)).1.Shows (v.setAll who [(name, ⟨value, s.writes⟩)]) := by
  have set : setAt who field value s =
      ({ s with writes := s.writes + 1 }.writeAt who [(name, ⟨value, s.writes⟩)], .ok ()) := by
    simp [setAt, shows.held, there, slot, takes]
  show (showing who (setAt who field value s)).1.Shows _
  rw [showing_fst, set]
  exact (shows.writes _).writeAt who _

/-- Kept options that are set to a bare value are that value. -/
theorem Shows.step_set_kept {field : String} {value : Datum} {cls : ObjectClass} {whose : Owner}
    (shows : s.Shows v) (there : v who = .object cls a)
    (slot : Slot.of who cls field = .kept whose true) (copyable : value.copyable = true) :
    (step k s (.set who field value)).1.Shows (v.bind whose.kept (.bare value)) := by
  have set : setAt who field value s =
      ({ s with writes := s.writes + 1 }.bind whose.kept (.bare value), .ok ()) := by
    simp [setAt, shows.held, there, slot, copyable]
  show (showing who (setAt who field value s)).1.Shows _
  rw [showing_fst, set]
  exact (shows.writes _).bindBare whose.kept value

/-- Options that are assigned are kept as a copy, where they can be copied. -/
theorem Shows.step_assign (shows : s.Shows v) (whose : Owner) (whom : Holder) :
    (s.copyableAt whom = true ∧
        (step k s (.assign whose whom)).1.Shows (v.bind whose.kept (v whom))) ∨
      (s.copyableAt whom = false ∧ step k s (.assign whose whom) = (s, .fail .uncopyable)) := by
  have performed : step k s (.assign whose whom) =
      showing whose.holder (Session.keepAt whose whom s) := rfl
  rw [performed, showing_fst]
  rcases shows.keepAt whose whom with ⟨copyable, -, kept⟩ | ⟨uncopyable, failed⟩
  · exact .inl ⟨copyable, kept⟩
  · rw [failed]
    exact .inr ⟨uncopyable, rfl⟩

end Session

end FlightAttitude
