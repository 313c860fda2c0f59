/-
# FlightAttitude.Proofs.Options.Memory — what a write shows, and to whom

What a holder sees of its object is what the attributes refer to (`Memory.read`). Two holders would see
one write where the attributes of both refer to one box. `Memory.Separate` says that this is never so:
each box is there, and one attribute of one object at most refers to it.

Separation is what makes memory disappear. In a separate memory a write sets one attribute of one
object (`Memory.read_write`), and so does a change in place (`Memory.read_change`); a new object has
its attributes and leaves the others alone (`Memory.read_create`), and copying fields onto an object is
copying their values (`Memory.copyOnto_copies`). All of these keep it: a value that can be changed comes
into the memory in a box of its own, and only a copy of it is set elsewhere.
-/
import FlightAttitude.Proofs.Options.Kind

namespace FlightAttitude

namespace Memory

variable {m : Memory} {i j n : Nat} {name : String} {r : Ref} {v : Setting} {root : Root}

/-! ## §1 Separation -/

/-- **`Separate m`** — every box that is referred to is there, and is referred to once. -/
structure Separate (m : Memory) : Prop where
  inRange : ∀ i name n, m.ref? i name = some (.box n) → n < m.boxes.length
  apart : ∀ i j name other n, m.ref? i name = some (.box n) → m.ref? j other = some (.box n) →
    i = j ∧ name = other

theorem separate_empty : empty.Separate := ⟨nofun, nofun⟩

theorem ref?_of_get? {o : Object} (object : m.objects[i]? = some o) (name : String) :
    m.ref? i name = o.attributes.get? name := by
  rw [ref?, object, Option.bind_some]

theorem read_of_get? {o : Object} (object : m.objects[i]? = some o) :
    m.read (.object i) = .object o.cls (o.attributes.map m.fetch) := by
  rw [read, object]

theorem read_of_none (none : m.objects[i]? = Option.none) : m.read (.object i) = .bare .none := by
  rw [read, none]

/-- What the attributes refer to shows the attributes. -/
theorem map_fetch_refs (m : Memory) (root : Root) :
    (m.refs root).map m.fetch = (m.read root).object?.getD .empty := by
  cases root with
  | bare d => rfl
  | object i =>
    cases object : m.objects[i]? with
    | none =>
      rw [read_of_none object, refs, object]
      rfl
    | some o =>
      rw [read_of_get? object, refs, object]
      rfl

theorem ref?_of_get?_refs (refers : (m.refs root).get? name = some r) :
    ∃ i, root = .object i ∧ m.ref? i name = some r := by
  cases root with
  | bare d => cases refers
  | object i =>
    cases object : m.objects[i]? with
    | none =>
      rw [refs, object] at refers
      cases refers
    | some o =>
      rw [refs, object] at refers
      exact ⟨i, rfl, (ref?_of_get? object name).trans refers⟩

/-- **`Within m r`** — what is referred to is there. -/
def Within (m : Memory) (r : Ref) : Prop := ∀ n, r = .box n → n < m.boxes.length

theorem Separate.within (separate : m.Separate) (there : m.ref? i name = some r) : m.Within r := by
  rintro n rfl
  exact separate.inRange i name n there

/-- Memories with the same objects show the same where they agree on what is referred to. -/
theorem read_congr {m' : Memory} (objects : m'.objects = m.objects)
    (fetch : ∀ i name r, m.ref? i name = some r → m'.fetch r = m.fetch r) (root : Root) :
    m'.read root = m.read root := by
  cases root with
  | bare d => rfl
  | object i =>
    cases there : m.objects[i]? with
    | none => rw [read_of_none there, read_of_none (objects ▸ there)]
    | some o =>
      rw [read_of_get? there, read_of_get? (objects ▸ there)]
      refine congrArg _ (Entries.map_congr fun name r held => fetch i name r ?_)
      rw [ref?_of_get? there, held]

/-! ## §2 Values that are kept -/

@[simp] theorem objects_hold (v : Setting) (m : Memory) : (m.hold v).1.objects = m.objects := by
  unfold hold
  split <;> rfl

/-- What was referred to before is found where it was. -/
theorem fetch_hold (within : m.Within r) (v : Setting) : (m.hold v).1.fetch r = m.fetch r := by
  unfold hold
  split
  · cases r with
    | value w => rfl
    | box n => simp only [fetch, List.getElem?_append_left (within n rfl)]
  · rfl

theorem fetch_hold_self (v : Setting) (m : Memory) : (m.hold v).1.fetch (m.hold v).2 = v := by
  unfold hold
  split
  · simp [fetch]
  · rfl

theorem within_hold (within : m.Within r) (v : Setting) : (m.hold v).1.Within r := by
  unfold hold
  split
  · intro n box
    have := within n box
    simp only [List.length_append, List.length_singleton]
    omega
  · exact within

/-- A value that can be changed is kept in a box that nothing referred to before. -/
theorem hold_box (held : (m.hold v).2 = .box n) :
    n = m.boxes.length ∧ (m.hold v).1.boxes.length = m.boxes.length + 1 := by
  unfold hold at held ⊢
  split at held
  next changeable =>
    cases held
    rw [if_pos changeable]
    exact ⟨rfl, by simp⟩
  next => cases held

theorem ref?_hold (v : Setting) (i : Nat) (name : String) :
    (m.hold v).1.ref? i name = m.ref? i name := by
  rw [ref?, ref?, objects_hold]

theorem Separate.hold (separate : m.Separate) (v : Setting) : (m.hold v).1.Separate where
  inRange i name n there := by
    rw [ref?_hold] at there
    exact within_hold (separate.within there) v n rfl
  apart i j name other n first second := by
    rw [ref?_hold] at first second
    exact separate.apart i j name other n first second

theorem read_hold (separate : m.Separate) (v : Setting) (root : Root) :
    (m.hold v).1.read root = m.read root :=
  read_congr (objects_hold v m) (fun _ _ _ there => fetch_hold (separate.within there) v) root

/-! ## §3 Attributes that are set -/

theorem objects_refer (i : Nat) (name : String) (r : Ref) (m : Memory) (j : Nat) :
    (m.refer i name r).objects[j]? =
      if j = i then (m.objects[j]?).map fun o => { o with attributes := o.attributes.set name r }
      else m.objects[j]? := by
  rw [refer, List.getElem?_modify]
  by_cases own : j = i
  · subst own
    simp
  · have other : ¬ i = j := fun same => own same.symm
    simp [own, other]

@[simp] theorem length_refer (i : Nat) (name : String) (r : Ref) (m : Memory) :
    (m.refer i name r).objects.length = m.objects.length := by
  simp [refer]

theorem ref?_refer_of_ne {other : String} (ne : ¬ (j = i ∧ other = name)) :
    (m.refer i name r).ref? j other = m.ref? j other := by
  rw [ref?, ref?, objects_refer]
  split_ifs with own
  · cases m.objects[j]? with
    | none => rfl
    | some o => exact Entries.get?_set_of_ne (fun same => ne ⟨own, same⟩) r o.attributes
  · rfl

theorem ref?_refer_self {r' : Ref} (there : (m.refer i name r).ref? i name = some r') : r' = r := by
  rw [ref?, objects_refer, if_pos rfl] at there
  cases object : m.objects[i]? with
  | none =>
    rw [object] at there
    cases there
  | some o =>
    rw [object, Option.map_some, Option.bind_some, Entries.get?_set_self] at there
    exact (Option.some.inj there).symm

/-- The object shows the value that the attribute refers to now. -/
theorem read_refer (i : Nat) (name : String) (r : Ref) (m : Memory) (j : Nat) :
    (m.refer i name r).read (.object j) =
      if j = i then (m.read (.object j)).setAll [(name, m.fetch r)] else m.read (.object j) := by
  have fetch : (m.refer i name r).fetch = m.fetch := rfl
  cases object : m.objects[j]? with
  | none =>
    have none : (m.refer i name r).objects[j]? = Option.none := by simp [objects_refer, object]
    rw [read_of_none none, read_of_none object]
    split_ifs <;> rfl
  | some o =>
    split_ifs with own
    · have changed : (m.refer i name r).objects[j]? =
          some { o with attributes := o.attributes.set name r } := by
        rw [objects_refer, if_pos own, object, Option.map_some]
      rw [read_of_get? changed, read_of_get? object, fetch, Entries.map_set]
      rfl
    · have unchanged : (m.refer i name r).objects[j]? = some o := by
        rw [objects_refer, if_neg own, object]
      rw [read_of_get? unchanged, read_of_get? object, fetch]

/-! ## §4 Writing -/

@[simp] theorem length_write (i : Nat) (name : String) (v : Setting) (m : Memory) :
    (m.write i name v).objects.length = m.objects.length := by
  rw [write, length_refer, objects_hold]

/-- **A write keeps the memory separate**: what is written is new to it. -/
theorem Separate.write (separate : m.Separate) (i : Nat) (name : String) (v : Setting) :
    (m.write i name v).Separate := by
  have held := separate.hold v
  -- the attribute that was written refers to nothing that was there before
  have fresh (n : Nat) (there : (m.write i name v).ref? i name = some (.box n)) :
      n = m.boxes.length ∧ (m.hold v).1.boxes.length = m.boxes.length + 1 :=
    hold_box (ref?_refer_self there).symm
  have elsewhere {j n : Nat} {other : String} (ne : ¬ (j = i ∧ other = name))
      (there : (m.write i name v).ref? j other = some (.box n)) : m.ref? j other = some (.box n) := by
    rwa [Memory.write, ref?_refer_of_ne ne, ref?_hold] at there
  refine ⟨fun j other n there => ?_, fun j j' other other' n first second => ?_⟩
  · by_cases own : j = i ∧ other = name
    · obtain ⟨rfl, rfl⟩ := own
      obtain ⟨rfl, length⟩ := fresh n there
      show m.boxes.length < (m.hold v).1.boxes.length
      omega
    · exact held.inRange j other n ((ref?_hold v j other).trans (elsewhere own there))
  · by_cases own : j = i ∧ other = name
    · by_cases own' : j' = i ∧ other' = name
      · exact ⟨own.1.trans own'.1.symm, own.2.trans own'.2.symm⟩
      · obtain ⟨rfl, rfl⟩ := own
        obtain ⟨rfl, -⟩ := fresh n first
        exact absurd (separate.inRange j' other' _ (elsewhere own' second)) (by omega)
    · by_cases own' : j' = i ∧ other' = name
      · obtain ⟨rfl, rfl⟩ := own'
        obtain ⟨rfl, -⟩ := fresh n second
        exact absurd (separate.inRange j other _ (elsewhere own first)) (by omega)
      · exact separate.apart j j' other other' n (elsewhere own first) (elsewhere own' second)

theorem read_write (separate : m.Separate) (i : Nat) (name : String) (v : Setting) (j : Nat) :
    (m.write i name v).read (.object j) =
      if j = i then (m.read (.object j)).setAll [(name, v)] else m.read (.object j) := by
  rw [write, read_refer, fetch_hold_self, read_hold separate]

variable {es : List (String × Setting)}

theorem Separate.writeAll (separate : m.Separate) (i : Nat) (es : List (String × Setting)) :
    (m.writeAll i es).Separate := by
  induction es generalizing m with
  | nil => exact separate
  | cons e es ih => exact ih (separate.write i e.1 e.2)

@[simp] theorem length_writeAll (i : Nat) (es : List (String × Setting)) (m : Memory) :
    (m.writeAll i es).objects.length = m.objects.length := by
  induction es generalizing m with
  | nil => rfl
  | cons e es ih => exact (ih _).trans (length_write i e.1 e.2 m)

theorem read_writeAll (separate : m.Separate) (i : Nat) (es : List (String × Setting)) (j : Nat) :
    (m.writeAll i es).read (.object j) =
      if j = i then (m.read (.object j)).setAll es else m.read (.object j) := by
  induction es generalizing m with
  | nil =>
    split_ifs
    · exact (Held.setAll_nil _).symm
    · rfl
  | cons e es ih =>
    show ((m.write i e.1 e.2).writeAll i es).read (.object j) = _
    rw [ih (separate.write i e.1 e.2), read_write separate]
    split_ifs
    · rw [Held.setAll_cons e es]
    · rfl

/-! ## §5 Changes in place -/

theorem fetch_change_of_ne (ne : r ≠ .box n) (v : Setting) : (m.change n v).fetch r = m.fetch r := by
  cases r with
  | value w => rfl
  | box n' =>
    have other : n ≠ n' := fun same => ne (same ▸ rfl)
    simp only [fetch, change, List.getElem?_set_ne other]

theorem fetch_change_self (there : n < m.boxes.length) (v : Setting) :
    (m.change n v).fetch (.box n) = v := by
  simp [fetch, change, there]

theorem Separate.change (separate : m.Separate) (n : Nat) (v : Setting) :
    (m.change n v).Separate where
  inRange i name n' there := by
    have := separate.inRange i name n' there
    simpa [Memory.change] using this
  apart := separate.apart

/-- **A change in place is seen through one attribute**, the one that refers to the box. -/
theorem read_change (separate : m.Separate) (there : m.ref? i name = some (.box n)) (v : Setting)
    (j : Nat) : (m.change n v).read (.object j) =
      if j = i then (m.read (.object j)).setAll [(name, v)] else m.read (.object j) := by
  have others {j : Nat} {other : String} {r : Ref} (ne : ¬ (j = i ∧ other = name))
      (held : m.ref? j other = some r) : (m.change n v).fetch r = m.fetch r := by
    refine fetch_change_of_ne ?_ v
    rintro rfl
    exact ne (separate.apart j i other name n held there)
  have objects : (m.change n v).objects = m.objects := rfl
  cases object : m.objects[j]? with
  | none =>
    rw [read_of_none (objects ▸ object), read_of_none object]
    split_ifs <;> rfl
  | some o =>
    rw [read_of_get? (objects ▸ object), read_of_get? object]
    split_ifs with own
    · subst own
      have held : o.attributes.get? name = some (.box n) := by rw [← ref?_of_get? object, there]
      rw [Entries.map_eq_set held fun other r ne at_other => others (fun same => ne same.2)
        ((ref?_of_get? object other).trans at_other),
        fetch_change_self (separate.inRange _ _ _ there)]
      rfl
    · refine congrArg _ (Entries.map_congr fun other r at_other => ?_)
      exact others (fun same => own same.1) ((ref?_of_get? object other).trans at_other)

/-! ## §6 New objects -/

theorem objects_new (cls : ObjectClass) (m : Memory) (j : Nat) : (m.new cls).objects[j]? =
    if j = m.objects.length then some ⟨cls, .empty⟩ else m.objects[j]? := by
  simp only [new]
  split_ifs with own
  · subst own
    simp
  · rcases Nat.lt_or_gt_of_ne own with before | after
    · exact List.getElem?_append_left before
    · rw [List.getElem?_eq_none (by simp; omega), List.getElem?_eq_none (by omega)]

theorem ref?_new (cls : ObjectClass) (m : Memory) (j : Nat) (name : String) :
    (m.new cls).ref? j name = if j = m.objects.length then none else m.ref? j name := by
  rw [ref?, ref?, objects_new]
  split_ifs <;> rfl

theorem Separate.new (separate : m.Separate) (cls : ObjectClass) : (m.new cls).Separate where
  inRange i name n there := by
    rw [ref?_new] at there
    split_ifs at there
    exact separate.inRange i name n there
  apart i j name other n first second := by
    rw [ref?_new] at first second
    split_ifs at first second
    exact separate.apart i j name other n first second

theorem read_new (cls : ObjectClass) (m : Memory) (j : Nat) : (m.new cls).read (.object j) =
    if j = m.objects.length then .object cls .empty else m.read (.object j) := by
  have fetch : (m.new cls).fetch = m.fetch := rfl
  cases object : (m.new cls).objects[j]? with
  | none =>
    rw [read_of_none object]
    rw [objects_new] at object
    split_ifs at object with own
    rw [if_neg own, read_of_none object]
  | some o =>
    rw [read_of_get? object, fetch]
    rw [objects_new] at object
    split_ifs at object ⊢ with own
    · cases object
      rfl
    · rw [read_of_get? object]

variable {a : Attributes} {cls : ObjectClass}

theorem Separate.create (separate : m.Separate) (cls : ObjectClass) (a : Attributes) :
    (m.create cls a).1.Separate :=
  (separate.new cls).writeAll _ _

@[simp] theorem length_create (cls : ObjectClass) (a : Attributes) (m : Memory) :
    (m.create cls a).1.objects.length = m.objects.length + 1 := by
  simp [create, new]

/-- A new object has its attributes, and all others are as they were. -/
theorem read_create (separate : m.Separate) (cls : ObjectClass) (a : Attributes) (j : Nat) :
    (m.create cls a).1.read (.object j) =
      if j = (m.create cls a).2 then .object cls a else m.read (.object j) := by
  show ((m.new cls).writeAll m.objects.length a.entries).read (.object j) = _
  rw [read_writeAll (separate.new cls), read_new]
  show _ = if j = m.objects.length then _ else _
  split_ifs
  · rw [Held.setAll, Entries.setAll_entries]
  · rfl

/-! ## §7 Copies -/

theorem duplicate_of_copyable (copyable : (m.fetch r).value.copyable = true) :
    m.duplicate r = .ok (m.hold (m.fetch r)) := by
  rw [duplicate, if_pos copyable]

theorem duplicate_of_uncopyable (handle : (m.fetch r).value.copyable = false) :
    m.duplicate r = .error .uncopyable := by
  rw [duplicate, if_neg (by rw [handle]; decide)]

theorem setAttribute_hold_of_refused (separate : m.Separate)
    (refused : (m.read root).takes name = false) :
    (m.hold v).1.setAttribute root name (m.hold v).2 = .error .noAttribute := by
  unfold setAttribute
  rw [read_hold separate, refused, if_neg Bool.false_ne_true]

theorem setAttribute_hold_of_taken (separate : m.Separate)
    (taken : (m.read (.object i)).takes name = true) :
    (m.hold v).1.setAttribute (.object i) name (m.hold v).2 = .ok (m.write i name v) := by
  rw [setAttribute, read_hold separate, taken, if_pos rfl, write]

theorem setAttribute_hold_of_bare (separate : m.Separate) {d : Datum}
    (taken : (m.read (.bare d)).takes name = true) :
    (m.hold v).1.setAttribute (.bare d) name (m.hold v).2 = .ok (m.hold v).1 := by
  rw [setAttribute, read_hold separate, taken, if_pos rfl]

/-- **`CopiesOnto m root es after`** — what it is to copy onto an object: the memory afterwards is
separate, the target shows what it shows once the values are copied to it, all other objects are as they
were, and it fails as copying the values does. -/
structure CopiesOnto (m : Memory) (root : Root) (es : List (String × Setting))
    (after : Memory × Except Fault Unit) : Prop where
  separate : after.1.Separate
  length : after.1.objects.length = m.objects.length
  target : after.1.read root = ((m.read root).copyEach es).1
  others : ∀ j, root ≠ .object j → after.1.read (.object j) = m.read (.object j)
  result : after.2 = ((m.read root).copyEach es).2

/-- A step that stops before anything is set. -/
private theorem CopiesOnto.of_stopped {m' : Memory} {es : List (String × Setting)} {f : Fault}
    (separate : m'.Separate) (objects : m'.objects = m.objects)
    (same : ∀ root, m'.read root = m.read root)
    (stops : (m.read root).copyEach es = (m.read root, .error f)) :
    CopiesOnto m root es (m', .error f) where
  separate := separate
  length := congrArg List.length objects
  target := by rw [stops, same]
  others _ _ := same _
  result := by rw [stops]

/-- A value that is written, and the rest copied after it. -/
private theorem CopiesOnto.of_written {e : String × Setting} {es : List (String × Setting)}
    {after : Memory × Except Fault Unit} (separate : m.Separate)
    (accepts : (m.read (.object i)).Accepts e)
    (rest : CopiesOnto (m.write i e.1 e.2) (.object i) es after) :
    CopiesOnto m (.object i) (e :: es) after := by
  have here : (m.write i e.1 e.2).read (.object i) = (m.read (.object i)).setAll [e] := by
    rw [read_write separate, if_pos rfl]
  have goesOn : (m.read (.object i)).copyEach (e :: es) =
      ((m.read (.object i)).setAll [e]).copyEach es := by
    rw [Held.copyEach, if_pos accepts.1, if_pos accepts.2]
  refine ⟨rest.separate, rest.length.trans (length_write ..), ?_, fun j other => ?_, ?_⟩
  · rw [rest.target, here, goesOn]
  · rw [rest.others j other, read_write separate,
      if_neg fun same : j = i => other (congrArg Root.object same.symm)]
  · rw [rest.result, here, goesOn]

/-- A value that is set on a bare value is not followed, and the rest is copied after it. -/
private theorem CopiesOnto.of_unfollowed {d : Datum} {e : String × Setting}
    {es : List (String × Setting)} {after : Memory × Except Fault Unit} (separate : m.Separate)
    (accepts : (m.read (.bare d)).Accepts e)
    (rest : CopiesOnto (m.hold e.2).1 (.bare d) es after) :
    CopiesOnto m (.bare d) (e :: es) after := by
  have goesOn : (m.read (.bare d)).copyEach (e :: es) =
      ((m.hold e.2).1.read (.bare d)).copyEach es := by
    rw [Held.copyEach, if_pos accepts.1, if_pos accepts.2]
    rfl
  refine ⟨rest.separate, rest.length.trans (congrArg List.length (objects_hold _ m)), ?_,
    fun j other => ?_, ?_⟩
  · rw [rest.target, goesOn]
  · rw [rest.others j other, read_hold separate]
  · rw [rest.result, goesOn]

/-- **Copying references is copying the values they refer to.** -/
theorem copyOnto_copies (separate : m.Separate) (root : Root) (refs : List (String × Ref))
    (within : ∀ e ∈ refs, m.Within e.2) :
    CopiesOnto m root (refs.map fun e => (e.1, m.fetch e.2)) (m.copyOnto root refs) := by
  induction refs generalizing m with
  | nil =>
    refine ⟨separate, rfl, ?_, fun _ _ => rfl, ?_⟩ <;> rw [List.map_nil, Held.copyEach, copyOnto]
  | cons e refs ih =>
    obtain ⟨first, later⟩ := List.forall_mem_cons.mp within
    rw [List.map_cons, copyOnto]
    cases copyable : (m.fetch e.2).value.copyable with
    | false =>
      rw [duplicate_of_uncopyable copyable]
      refine .of_stopped separate rfl (fun _ => rfl) ?_
      rw [Held.copyEach, copyable, if_neg Bool.false_ne_true]
    | true =>
      rw [duplicate_of_copyable copyable]
      cases taken : (m.read root).takes e.1 with
      | false =>
        simp only [setAttribute_hold_of_refused separate taken]
        refine .of_stopped (separate.hold _) (objects_hold _ m) (read_hold separate _) ?_
        rw [Held.copyEach, copyable, if_pos rfl, taken, if_neg Bool.false_ne_true]
      | true =>
        -- the copy is new to the memory, so what is still to be copied is where it was
        have values : (refs.map fun d => (d.1, (m.hold (m.fetch e.2)).1.fetch d.2)) =
            refs.map fun d => (d.1, m.fetch d.2) :=
          List.map_congr_left fun d mem => congrArg (d.1, ·) (fetch_hold (later d mem) _)
        have still (d : String × Ref) (mem : d ∈ refs) : (m.hold (m.fetch e.2)).1.Within d.2 :=
          within_hold (later d mem) (m.fetch e.2)
        cases root with
        | bare d =>
          simp only [setAttribute_hold_of_bare separate taken]
          exact .of_unfollowed separate ⟨copyable, taken⟩ (values ▸ ih (separate.hold _) still)
        | object i =>
          simp only [setAttribute_hold_of_taken separate taken]
          refine .of_written separate ⟨copyable, taken⟩ ?_
          exact values ▸ ih (separate.write i e.1 (m.fetch e.2)) still

end Memory

end FlightAttitude
