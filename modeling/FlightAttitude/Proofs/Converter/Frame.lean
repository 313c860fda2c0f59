/-
# FlightAttitude.Proofs.Converter.Frame — what the steps of a session of converters leave alone

Two converters, the options that each of them keeps, the caller's options and a plain object share their
settings by copying. So each step reaches only what it is about (`Session.OptionsStep.Touches` with the
unit check as the field that settling may write), a conversion reaches nothing, and what is done to
options that have been assigned does not reach the copy that is kept, nor the other way round
(`Session.frame_law`).

Everything said here is about the values that the holders see. That no two of them see one object is
what reachable sessions have from copying (`Session.Reachable.separate`).
-/
import FlightAttitude.Proofs.Converter.Apply
import FlightAttitude.Proofs.Options.Frame

namespace FlightAttitude

/-! ## §1 What settling may write -/

theorem ConverterOptions.settlesField_unitCheck : kind.SettlesField unitCheck where
  mem := List.mem_cons_self
  only a e mem := by
    obtain ⟨c, rfl⟩ := settling_mem mem
    rfl

namespace Session

open ConverterOptions

variable {s : Session} {x : OptionsStep} {who h : Holder} {a : Attributes}

/-! ## §2 One step -/

theorem changedOnly_converterStep (separate : s.Separate) (x : OptionsStep) :
    View.ChangedOnly (x.Touches kind unitCheck s.view) s.view
      (s.converterStep (.options x)).1.view := by
  obtain ⟨v', shows, change⟩ := step_change (k := kind) separate.shows x
  show View.ChangedOnly _ _ (step kind s x).1.view
  rw [shows.view]
  exact change.changedOnly settlesField_unitCheck

theorem canonicalised_converterStep (separate : s.Separate) (source : x.source? = some who)
    (there : s.get? who = some a) :
    ∃ a', (s.converterStep (.options x)).1.get? who = some a' ∧ Canonicalised a a' := by
  obtain ⟨v', shows, change⟩ := step_change (k := kind) separate.shows x
  show ∃ a', (step kind s x).1.get? who = some a' ∧ Canonicalised a a'
  rw [shows.get?]
  rcases change.get?_source source there with same | settled
  · exact ⟨a, same, .same⟩
  · exact ⟨_, settled, .settle a⟩

/-! ## §3 Runs -/

/-- A run changes only what one of its steps touches. -/
theorem changedOnly_converterRun (separate : s.Separate) (xs : List ConverterStep) :
    View.ChangedOnly (fun h name => ∃ x v, .options x ∈ xs ∧ x.Touches kind unitCheck v h name)
      s.view (s.converterRun xs).view := by
  refine (converterRun_invariant (fun x => .options x ∈ xs) (fun v x v' mem before change => ?_)
    (fun x mem => mem) separate .refl).2
  refine before.trans ((change.changedOnly settlesField_unitCheck).mono fun h name touches => ?_)
  exact ⟨x, v, mem, touches⟩

/-- **`OneSided h third xs`** — whatever the run `xs` does besides conversions, it does to the object of
`h`, and not with the options of the object of `third`. -/
def OneSided (h third : Holder) (xs : List ConverterStep) : Prop :=
  ∀ x, .options x ∈ xs → x.WritesTo h ∧ x.source? ≠ some third

/-- What is done to one object leaves the others as they are. -/
theorem held_converterRun {third : Holder} {xs : List ConverterStep} (separate : s.Separate)
    (own : OneSided h third xs) (ne : third ≠ h) : (s.converterRun xs).held third = s.held third := by
  refine (changedOnly_converterRun separate xs).object third fun name => ?_
  rintro ⟨x, v, mem, touches⟩
  exact ne ((own x mem).1.eq_of_touches (own x mem).2 touches)

/-- **The frame law.** In every reachable session, whether the steps fail or succeed:

A conversion by either converter changes nothing. A step on the options changes only what it touches:
one attribute of one object when it is set, the unit check of an object when its options are settled or
their fields are shown, and besides that of the source the four fields of the target when options are
applied or a converter is reset. A source keeps all of its attributes, but for the check that may stand
where its name was. A run changes only what one of its steps touches.

To assign what `whom` holds as the options that a converter keeps changes nothing but these: they are
then what `whom` holds, or, where that cannot be copied, what they were. Afterwards, what is done to the
object of `whom` does not reach the kept options, nor the other way round, whatever is converted in
between; and so it is for any two holders. -/
theorem frame_law (reachable : s.Reachable) :
    (∀ (who : Owner) (x : Converter.Conversion Float), (s.converterStep (.convert who x)).1 = s) ∧
    (∀ x, View.ChangedOnly (x.Touches kind unitCheck s.view) s.view
      (s.converterStep (.options x)).1.view) ∧
    (∀ x who a, x.source? = some who → s.get? who = some a →
      ∃ a', (s.converterStep (.options x)).1.get? who = some a' ∧ Canonicalised a a') ∧
    (∀ xs, View.ChangedOnly
      (fun h name => ∃ x v, .options x ∈ xs ∧ x.Touches kind unitCheck v h name)
      s.view (s.converterRun xs).view) ∧
    (∀ (who : Owner) (whom : Holder),
      let assigned := (s.converterStep (.options (.assign who whom))).1
      (∀ h, h ≠ who.kept → assigned.held h = s.held h) ∧
      assigned.held who.kept = (if s.copyableAt whom then s.held whom else s.held who.kept) ∧
      ∀ xs, whom ≠ who.kept →
        (OneSided whom who.kept xs →
          (assigned.converterRun xs).held who.kept = assigned.held who.kept) ∧
        (OneSided who.kept whom xs → (assigned.converterRun xs).held whom = s.held whom)) ∧
    ∀ h third xs, third ≠ h → OneSided h third xs → (s.converterRun xs).held third = s.held third := by
  have separate := reachable.separate
  refine ⟨fun who x => converterStep_convert_fst s who x, changedOnly_converterStep separate,
    fun x who a => canonicalised_converterStep separate, changedOnly_converterRun separate,
    fun who whom => ?_, fun h third xs ne own => held_converterRun separate own ne⟩
  intro assigned
  have others (h : Holder) (ne : h ≠ who.kept) : assigned.held h = s.held h :=
    (changedOnly_converterStep separate (.assign who whom)).object h fun _ touches => ne touches
  have separate' : assigned.Separate := converterStep_separate separate (.options (.assign who whom))
  refine ⟨others, ?_, fun xs ne => ⟨fun own => ?_, fun own => ?_⟩⟩
  · rcases separate.shows.step_assign (k := kind) who whom with ⟨copyable, shows⟩ | ⟨handle, failed⟩
    · rw [if_pos copyable]
      exact (shows.held who.kept).trans (View.bind_self ..)
    · rw [if_neg (by rw [handle]; exact Bool.false_ne_true)]
      exact congrArg (fun after : After => after.1.held who.kept) failed
  · exact held_converterRun separate' own ne.symm
  · rw [held_converterRun separate' own ne, others whom ne]

/-- A reset that is refused has put a name of a check into its final form. The caller's options are
assigned to the second converter, and neither of the two objects follows the other. -/
theorem frame_law_offended :
    ∃ (s : Session) (n m : Nat), s.Reachable ∧
      (∃ a', (s.converterStep (.options (.reset .configured))).1.get? .kept = some a' ∧
        Canonicalised (offended n m) a') ∧
      let assigned := (s.converterStep (.options (.assign .other .options))).1
      assigned.held .otherKept = s.held .options ∧
      (assigned.converterRun [
        .options (.set .options unitTolerance (.integer 5)),
        .convert .other (.headings (.ok (.scalar 0))),
        .options (.apply .kept .options)]).held .otherKept = assigned.held .otherKept ∧
      (assigned.converterRun [
        .options (.fields .otherKept),
        .options (.set .otherKept decimalPlaces (.integer 3))]).held .options = s.held .options := by
  obtain ⟨s, n, m, reachable, kept, others⟩ := exists_offended
  obtain ⟨-, -, source, -, assign, -⟩ := frame_law reachable
  obtain ⟨-, assigned, apart⟩ := assign .other .options
  have copyable : s.copyableAt .options = true := by
    rw [copyableAt, others .options (by decide)]
    rfl
  rw [if_pos copyable] at assigned
  have ordinary (field : String) (mem : field ∈ kind.fieldNames) (h : Holder) (cls : ObjectClass)
      (whose : Owner) (copied : Bool) : Slot.of h cls field ≠ .kept whose copied := by
    rw [lawful.slot_of_mem field mem]
    exact Slot.noConfusion
  refine ⟨s, n, m, reachable, source (.reset .configured) .kept _ rfl (congrArg Held.object? kept),
    assigned, (apart _ (by decide)).1 ?_, (apart _ (by decide)).2 ?_⟩
  · simp only [OneSided, List.mem_cons, List.not_mem_nil, or_false]
    rintro x (same | same | same)
    · cases same
      exact ⟨⟨rfl, ordinary unitTolerance (by decide) _⟩, by decide⟩
    · cases same
    · cases same
      exact ⟨rfl, by decide⟩
  · simp only [OneSided, List.mem_cons, List.not_mem_nil, or_false]
    rintro x (same | same)
    · cases same
      exact ⟨rfl, by decide⟩
    · cases same
      exact ⟨⟨rfl, ordinary decimalPlaces (by decide) _⟩, by decide⟩

end Session

end FlightAttitude
