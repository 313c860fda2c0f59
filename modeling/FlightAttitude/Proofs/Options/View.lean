/-
# FlightAttitude.Proofs.Options.View — what the holders of a session see

A session is a memory with objects in it; a view says for each holder what it sees of its own. The
operations on the memory refine operations on views: where a session is separate and shows a view
(`Session.Shows`), an operation leads to a session that is separate again and shows the view with one
holder's part changed. Nothing is said of addresses after that.

A session is separate when its memory is and no two holders have the same object. Copying is what keeps
it so: the kept options are the address of a new object (`Session.Shows.keepAt`), and the fields of a
target refer to new boxes (`Session.Shows.copyTo`).
-/
import FlightAttitude.Proofs.Options.Memory

namespace FlightAttitude

/-! ## §1 Views -/

/-- **`View`** — what each holder sees of what it has. -/
abbrev View : Type := Holder → Held

namespace View

variable {v : View} {h h' : Holder} {a b : Attributes}

/-- **`modify h f v`** — the part of one holder changed. -/
def modify (h : Holder) (f : Held → Held) (v : View) : View :=
  fun h' => if h' = h then f (v h') else v h'

/-- **`bind h held v`** — the holder `h` given something else. -/
def bind (h : Holder) (held : Held) (v : View) : View := v.modify h fun _ => held

/-- **`setAll h es v`** — attributes set on the object that a holder has. -/
def setAll (h : Holder) (es : List (String × Setting)) (v : View) : View := v.modify h (·.setAll es)

/-- **`get? h v`** — the attributes of the object that a holder has. -/
def get? (h : Holder) (v : View) : Option Attributes := (v h).object?

/-- **`optionsAt? h v`** — the attributes of an object that has the operations of options. -/
def optionsAt? (h : Holder) (v : View) : Option Attributes := (v h).options?

@[simp] theorem modify_self (h : Holder) (f : Held → Held) (v : View) : v.modify h f h = f (v h) :=
  if_pos rfl

theorem modify_of_ne (ne : h' ≠ h) (f : Held → Held) (v : View) : v.modify h f h' = v h' :=
  if_neg ne

@[simp] theorem bind_self (h : Holder) (held : Held) (v : View) : v.bind h held h = held :=
  modify_self h _ v

theorem bind_of_ne (ne : h' ≠ h) (held : Held) (v : View) : v.bind h held h' = v h' :=
  modify_of_ne ne _ v

@[simp] theorem setAll_self (h : Holder) (es : List (String × Setting)) (v : View) :
    v.setAll h es h = (v h).setAll es := modify_self h _ v

theorem setAll_of_ne (ne : h' ≠ h) (es : List (String × Setting)) (v : View) :
    v.setAll h es h' = v h' := modify_of_ne ne _ v

/-- A change is known by what it makes of what is there. -/
theorem modify_congr {f g : Held → Held} (same : f (v h) = g (v h)) :
    v.modify h f = v.modify h g := by
  funext h'
  by_cases own : h' = h
  · rw [own, modify_self, modify_self, same]
  · rw [modify_of_ne own, modify_of_ne own]

theorem modify_eq_self {f : Held → Held} (same : f (v h) = v h) : v.modify h f = v := by
  funext h'
  by_cases own : h' = h
  · rw [own, modify_self, same]
  · exact modify_of_ne own f v

theorem get?_eq_some_iff : v.get? h = some a ↔ ∃ cls, v h = .object cls a := by
  rw [get?]
  cases v h with
  | object cls b => simp [Held.object?, @eq_comm _ b]
  | bare d => simp [Held.object?]

theorem get?_of_eq {cls : ObjectClass} (there : v h = .object cls a) : v.get? h = some a := by
  rw [get?, there, Held.object?]

theorem optionsAt?_eq_some_iff : v.optionsAt? h = some a ↔
    ∃ cls, v h = .object cls a ∧ cls.hasOperations = true := by
  rw [optionsAt?]
  cases v h with
  | object cls b =>
    simp only [Held.options?, Option.ite_none_right_eq_some, Option.some.injEq, Held.object.injEq]
    constructor
    · rintro ⟨operations, rfl⟩
      exact ⟨cls, ⟨rfl, rfl⟩, operations⟩
    · rintro ⟨cls', ⟨rfl, rfl⟩, operations⟩
      exact ⟨operations, rfl⟩
  | bare d => simp [Held.options?]

theorem get?_setAll_self (there : v.get? h = some a) (es : List (String × Setting)) :
    (v.setAll h es).get? h = some (a.setAll es) := by
  obtain ⟨cls, held⟩ := get?_eq_some_iff.mp there
  have after : v.setAll h es h = .object cls (a.setAll es) := by rw [setAll_self, held, Held.setAll]
  exact get?_of_eq after

theorem optionsAt?_setAll_self (there : v.optionsAt? h = some a) (es : List (String × Setting)) :
    (v.setAll h es).optionsAt? h = some (a.setAll es) := by
  obtain ⟨cls, held, operations⟩ := optionsAt?_eq_some_iff.mp there
  exact optionsAt?_eq_some_iff.mpr
    ⟨cls, by rw [setAll_self, held, Held.setAll], operations⟩

theorem get?_setAll_of_ne (ne : h' ≠ h) (es : List (String × Setting)) (v : View) :
    (v.setAll h es).get? h' = v.get? h' := by
  rw [get?, setAll_of_ne ne, get?]

/-- Options have attributes. -/
theorem get?_of_optionsAt? (there : v.optionsAt? h = some a) : v.get? h = some a := by
  obtain ⟨cls, held, -⟩ := optionsAt?_eq_some_iff.mp there
  exact get?_of_eq held

end View

namespace Session

variable {s : Session} {v : View} {h h' : Holder} {m : Memory} {a : Attributes}
  {cls : ObjectClass} {es : List (String × Setting)} {k : OptionsKind} {who : Owner} {f : Fault}

/-- **`view s`** — what the holders of a session see. -/
def view (s : Session) : View := fun h => s.held h

/-! ## §2 Separate sessions -/

/-- **`Separate s`** — no two holders have the same object, and no two attributes refer to one box. -/
structure Separate (s : Session) : Prop where
  memory : s.memory.Separate
  inRange : ∀ h i, s.root h = .object i → i < s.memory.objects.length
  apart : ∀ h h' i, s.root h = .object i → s.root h' = .object i → h = h'

/-- **`Shows s v`** — the session is separate, and its holders see the view `v`. -/
structure Shows (s : Session) (v : View) : Prop where
  separate : s.Separate
  view : s.view = v

theorem Separate.shows (separate : s.Separate) : s.Shows s.view := ⟨separate, rfl⟩

namespace Shows

theorem held (shows : s.Shows v) (h : Holder) : s.held h = v h := congrFun shows.view h

theorem get? (shows : s.Shows v) (h : Holder) : s.get? h = v.get? h :=
  congrArg Held.object? (shows.held h)

theorem optionsAt? (shows : s.Shows v) (h : Holder) : s.optionsAt? h = v.optionsAt? h :=
  congrArg Held.options? (shows.held h)

theorem writes (shows : s.Shows v) (n : Nat) : Shows { s with writes := n } v :=
  ⟨⟨shows.separate.memory, shows.separate.inRange, shows.separate.apart⟩, shows.view⟩

theorem limit (shows : s.Shows v) (l : Option Nat) : Shows { s with limit := l } v :=
  ⟨⟨shows.separate.memory, shows.separate.inRange, shows.separate.apart⟩, shows.view⟩

/-! ## §3 The memory changed -/

/-- A memory in which one holder's object shows something else, and all others what they did. -/
theorem modify (shows : s.Shows v) {f : Held → Held} (separate : m.Separate)
    (length : s.memory.objects.length ≤ m.objects.length) (own : m.read (s.root h) = f (v h))
    (others : ∀ j, j < s.memory.objects.length → s.root h ≠ .object j →
      m.read (.object j) = s.memory.read (.object j)) :
    Shows { s with memory := m } (v.modify h f) := by
  refine ⟨⟨separate, fun h i there => ?_, shows.separate.apart⟩, funext fun h' => ?_⟩
  · exact Nat.lt_of_lt_of_le (shows.separate.inRange h i there) length
  · show m.read (s.root h') = _
    by_cases same : h' = h
    · rw [same, View.modify_self, own]
    · rw [View.modify_of_ne same, ← shows.held h', Session.held]
      cases root : s.root h' with
      | bare d => rfl
      | object j =>
        refine others j (shows.separate.inRange h' j root) fun there => same ?_
        exact shows.separate.apart h' h j root there

/-- A holder is given a bare value. -/
theorem bindBare (shows : s.Shows v) (h : Holder) (d : Datum) :
    Shows (s.bind h (.bare d)) (v.bind h (.bare d)) := by
  have kept {h' : Holder} {i : Nat} (there : (s.bind h (.bare d)).root h' = .object i) :
      s.root h' = .object i := by
    by_cases same : h' = h
    · simp [Session.bind, same] at there
    · simpa [Session.bind, same] using there
  refine ⟨⟨shows.separate.memory, fun h' i there => shows.separate.inRange h' i (kept there),
    fun h₁ h₂ i first second => shows.separate.apart h₁ h₂ i (kept first) (kept second)⟩, ?_⟩
  funext h'
  by_cases same : h' = h
  · rw [same, View.bind_self]
    simp [Session.view, Session.held, Session.bind, Memory.read]
  · rw [View.bind_of_ne same, ← shows.held h']
    simp [Session.view, Session.held, Session.bind, same]

/-- **A holder is given a new object.** No other holder has it. -/
theorem give (shows : s.Shows v) (h : Holder) (cls : ObjectClass) (a : Attributes) :
    Shows (s.give h cls a) (v.bind h (.object cls a)) := by
  have memory := shows.separate.memory
  have others (h' : Holder) (ne : h' ≠ h) : (s.give h cls a).root h' = s.root h' := if_neg ne
  have own : (s.give h cls a).root h = .object s.memory.objects.length := if_pos rfl
  -- the new address is past all those that the holders had
  have fresh {h' : Holder} (there : s.root h' = .object s.memory.objects.length) : False :=
    Nat.lt_irrefl _ (shows.separate.inRange h' _ there)
  refine ⟨⟨memory.create cls a, fun h' i there => ?_, fun h₁ h₂ i first second => ?_⟩, ?_⟩
  · show i < (s.memory.create cls a).1.objects.length
    rw [Memory.length_create]
    by_cases same : h' = h
    · rw [same, own] at there
      cases there
      omega
    · rw [others h' same] at there
      exact Nat.lt_succ_of_lt (shows.separate.inRange h' i there)
  · by_cases first' : h₁ = h
    · by_cases second' : h₂ = h
      · exact first'.trans second'.symm
      · rw [first', own] at first
        cases first
        exact (fresh ((others h₂ second').symm.trans second)).elim
    · by_cases second' : h₂ = h
      · rw [second', own] at second
        cases second
        exact (fresh ((others h₁ first').symm.trans first)).elim
      · rw [others _ first'] at first
        rw [others _ second'] at second
        exact shows.separate.apart h₁ h₂ i first second
  · funext h'
    show (s.memory.create cls a).1.read ((s.give h cls a).root h') = _
    by_cases same : h' = h
    · rw [same, own, View.bind_self, Memory.read_create memory]
      exact if_pos rfl
    · rw [others h' same, View.bind_of_ne same, ← shows.held h', Session.held]
      cases root : s.root h' with
      | bare d => rfl
      | object j =>
        have before : j ≠ (s.memory.create cls a).2 := by
          rintro rfl
          exact fresh root
        rw [Memory.read_create memory, if_neg before]

/-! ## §4 The operations -/

theorem writeAt (shows : s.Shows v) (h : Holder) (es : List (String × Setting)) :
    Shows (s.writeAt h es) (v.setAll h es) := by
  have memory := shows.separate.memory
  unfold Session.writeAt
  cases root : s.root h with
  | bare d =>
    have bare : v h = .bare d := by rw [← shows.held, Session.held, root, Memory.read]
    rw [View.setAll, View.modify_eq_self (by rw [bare, Held.setAll])]
    exact shows
  | object i =>
    refine shows.modify (memory.writeAll i es) (Nat.le_of_eq (Memory.length_writeAll ..).symm) ?_
      fun j _ other => ?_
    · rw [root, Memory.read_writeAll memory, if_pos rfl, ← shows.held, Session.held, root]
    · rw [Memory.read_writeAll memory, if_neg]
      rintro rfl
      exact other root

/-- What the attributes of an object refer to shows its attributes. -/
theorem map_fetch_refs (shows : s.Shows v) (h : Holder) :
    (s.refs h).map s.memory.fetch = (v.get? h).getD .empty := by
  rw [← shows.get?, Session.refs, Memory.map_fetch_refs]
  rfl

/-- **Fields are copied by their values**, and nothing but the target changes. -/
theorem copyTo (shows : s.Shows v) (there : v.get? h = some a) (h' : Holder) :
    (copyTo k h h' s).1.Shows (v.modify h' fun w => (w.copyEach (k.fieldsIn a)).1) ∧
      (copyTo k h h' s).2 = ((v h').copyEach (k.fieldsIn a)).2 ∧
      (copyTo k h h' s).1.limit = s.limit := by
  have memory := shows.separate.memory
  -- the references are read before anything is set, and each of them is to a box that is there
  have copies := Memory.copyOnto_copies memory (s.root h') (k.fieldsIn (s.refs h))
    fun e mem => by
      obtain ⟨i, -, refers⟩ := Memory.ref?_of_get?_refs (OptionsKind.mem_fieldsIn.mp mem).2
      exact memory.within refers
  rw [← OptionsKind.fieldsIn_map, shows.map_fetch_refs, there, Option.getD_some] at copies
  have target : s.memory.read (s.root h') = v h' := shows.held h'
  refine ⟨?_, by rw [← target]; exact copies.result, rfl⟩
  refine shows.modify copies.separate (Nat.le_of_eq copies.length.symm) ?_
    fun j _ other => copies.others j other
  rw [← target]
  exact copies.target

theorem settleAt_of_none (shows : s.Shows v) (none : v.optionsAt? h = none) :
    settleAt k h s = (s, .error .noAttribute) := by
  rw [settleAt, shows.optionsAt?, none]

theorem settleAt_of_some (shows : s.Shows v) (there : v.optionsAt? h = some a) :
    (settleAt k h s).1.Shows (v.setAll h (k.settling a).1) ∧
      (settleAt k h s).2 = (k.settle a).2 ∧ (settleAt k h s).1.limit = s.limit := by
  rw [settleAt, shows.optionsAt?, there]
  refine ⟨shows.writeAt h _, rfl, ?_⟩
  show (s.writeAt h _).limit = s.limit
  unfold Session.writeAt
  cases s.root h <;> rfl

/-- **A copy is kept**: the holder of the kept options sees what was copied, and has an object of its
own. -/
theorem keepAt (shows : s.Shows v) (who : Owner) (h : Holder) :
    (s.copyableAt h = true ∧ (keepAt who h s).2 = .ok () ∧
        (keepAt who h s).1.Shows (v.bind who.kept (v h))) ∨
      (s.copyableAt h = false ∧ keepAt who h s = (s, .error .uncopyable)) := by
  cases copyable : s.copyableAt h with
  | false => exact .inr ⟨rfl, by rw [Session.keepAt, copyable, if_neg Bool.false_ne_true]⟩
  | true =>
    refine .inl ⟨rfl, ?_⟩
    have inside : (s.memory.read (s.root h)).copyable = true := by
      rw [copyableAt, Bool.and_eq_true] at copyable
      exact copyable.1
    have held : s.memory.read (s.root h) = v h := shows.held h
    rw [Session.keepAt, copyable, if_pos rfl, Memory.duplicateRoot, if_pos inside, held]
    cases v h with
    | bare d => exact ⟨rfl, shows.bindBare who.kept d⟩
    | object cls a => exact ⟨rfl, shows.give who.kept cls a⟩

/-- **A member added in place** is added to the list of one attribute of one object. -/
theorem appendAt (shows : s.Shows v) (h : Holder) (field : String) (d : Datum) :
    (appendAt h field d s).1.Shows v ∨
      ∃ a members origin, v.get? h = some a ∧ a.get? field = some ⟨.list members, origin⟩ ∧
        (appendAt h field d s).1.Shows
          (v.setAll h [(field, ⟨.list (members ++ [d]), origin⟩)]) := by
  have memory := shows.separate.memory
  unfold Session.appendAt
  split
  next n refers =>
    split
    next members origin list =>
      right
      obtain ⟨i, root, box⟩ := Memory.ref?_of_get?_refs refers
      have holds : ((v.get? h).getD .empty).get? field = some ⟨.list members, origin⟩ := by
        rw [← shows.map_fetch_refs, Entries.get?_map, refers, Option.map_some, list]
      cases there : v.get? h with
      | none =>
        rw [there] at holds
        cases holds
      | some a =>
        rw [there, Option.getD_some] at holds
        refine ⟨a, members, origin, rfl, holds, ?_⟩
        refine shows.modify (memory.change n _) (Nat.le_refl _) ?_ fun j _ other => ?_
        · rw [root, Memory.read_change memory box, if_pos rfl, ← shows.held, Session.held, root]
        · rw [Memory.read_change memory box, if_neg]
          rintro rfl
          exact other root
    next => exact .inl shows
  next => exact .inl shows

end Shows

end Session

end FlightAttitude
