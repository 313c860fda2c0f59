/-
# FlightAttitude.Options.Attributes — the attributes of an object

An object has attributes in the order in which they were first set, and no two of one name
(`Entries`). Each holds a setting: a value of any kind, and the number of the write that brought the
value in. Copying an attribute copies its setting, so two settings of one origin are copies of one
value. That is what tells an undefined number from another one (`Setting.same`): it is equal to its
copies and to nothing else.

Main facts: what `set` writes is read back (`Entries.get?_set_self`), all else is as before
(`Entries.get?_set_of_ne`), and to write what is there already changes nothing
(`Entries.set_of_get?`). What stands under the names can be read as something else, name by name
(`Entries.map`), and writing commutes with that (`Entries.map_set`).
-/
import FlightAttitude.Datum

namespace FlightAttitude

/-! ## §1 Settings -/

/-- **`Setting`** — a value, and which write it came from. -/
structure Setting where
  value : Datum
  origin : Nat

namespace Setting

/-- **`identical a b`** — whether two settings that different objects hold are one and the same value.
There is only one of each truth value, unit check and axis order; numbers, texts and handles are one
where they are copies of one write. Where lists and tables are kept says whether they are one, not
what is in them. -/
def identical (a b : Setting) : Bool :=
  match a.value, b.value with
  | .none, .none => true
  | .flag x, .flag y => x == y
  | .check c, .check d => c == d
  | .order o, .order p => o == p
  | .integer i, .integer j => i == j && a.origin == b.origin
  | .number _, .number _ => a.origin == b.origin
  | .text s, .text t => s == t && a.origin == b.origin
  | .handle s, .handle t => s == t && a.origin == b.origin
  | _, _ => false

/-- **`same a b`** — whether two settings are equal: by value, or by being one and the same. -/
def same (a b : Setting) : Bool :=
  identical a b || a.value.same b.value

end Setting

/-! ## §2 Entries -/

/-- **`Entries β`** — names with what stands under them, in the order in which they were first set. -/
structure Entries (β : Type) where
  entries : List (String × β)
  /-- No name is there twice. -/
  distinct : (entries.map Prod.fst).Nodup

/-- **`Attributes`** — names with their settings. -/
abbrev Attributes := Entries Setting

namespace Entries

variable {β γ : Type}

/-- The entries with the one for `name` replaced, or with a new one at the end. -/
def setEntry (name : String) (v : β) : List (String × β) → List (String × β)
  | [] => [(name, v)]
  | (n, w) :: rest => if n = name then (n, v) :: rest else (n, w) :: setEntry name v rest

theorem names_setEntry (name : String) (v : β) (es : List (String × β)) :
    (setEntry name v es).map Prod.fst =
      if name ∈ es.map Prod.fst then es.map Prod.fst else es.map Prod.fst ++ [name] := by
  induction es with
  | nil => rfl
  | cons e es ih =>
    obtain ⟨n, w⟩ := e
    by_cases here : n = name
    · simp [setEntry, here]
    · have other : ¬ name = n := fun same => here same.symm
      simp only [setEntry, here, if_false, List.map_cons, ih, List.mem_cons, other, false_or]
      split <;> rfl

theorem distinct_setEntry {es : List (String × β)} (distinct : (es.map Prod.fst).Nodup)
    (name : String) (v : β) : ((setEntry name v es).map Prod.fst).Nodup := by
  rw [names_setEntry]
  split
  next => exact distinct
  next new =>
    refine List.nodup_append.mpr ⟨distinct, List.pairwise_singleton .., fun n there m mem => ?_⟩
    rw [List.mem_singleton] at mem
    rintro rfl
    exact new (mem ▸ there)

/-- **`empty`** — no entries. -/
def empty : Entries β := ⟨[], List.nodup_nil⟩

/-- **`set name v a`** — `v` under the name `name`. -/
def set (name : String) (v : β) (a : Entries β) : Entries β :=
  ⟨setEntry name v a.entries, distinct_setEntry a.distinct name v⟩

/-- **`setAll es a`** — several names set, one after the other. -/
def setAll (es : List (String × β)) (a : Entries β) : Entries β :=
  es.foldl (fun a e => a.set e.1 e.2) a

/-- **`get? name a`** — what stands under a name. -/
def get? (name : String) (a : Entries β) : Option β :=
  a.entries.lookup name

/-- **`map f a`** — the same names, with what stands under each of them read by `f`. -/
def map (f : β → γ) (a : Entries β) : Entries γ :=
  ⟨a.entries.map fun e => (e.1, f e.2), by
    rw [List.map_map]
    exact a.distinct⟩

@[ext] theorem ext {a b : Entries β} (same : a.entries = b.entries) : a = b := by
  cases a
  cases b
  cases same
  rfl

/-! ## §3 Reading what was written -/

@[simp] theorem get?_empty (name : String) : (empty : Entries β).get? name = none := rfl

@[simp] theorem get?_set_self (name : String) (v : β) (a : Entries β) :
    (a.set name v).get? name = some v := by
  obtain ⟨es, distinct⟩ := a
  simp only [set, get?]
  clear distinct
  induction es with
  | nil => simp [setEntry]
  | cons e es ih =>
    obtain ⟨n, w⟩ := e
    by_cases h : n = name
    · simp [setEntry, h]
    · have : (name == n) = false := by simpa using fun h' => h h'.symm
      simp [setEntry, h, List.lookup_cons, this, ih]

theorem get?_set_of_ne {name other : String} (h : other ≠ name) (v : β) (a : Entries β) :
    (a.set name v).get? other = a.get? other := by
  obtain ⟨es, distinct⟩ := a
  simp only [set, get?]
  clear distinct
  induction es with
  | nil => simp [setEntry, h]
  | cons e es ih =>
    obtain ⟨n, w⟩ := e
    by_cases hn : n = name
    · subst hn
      have : (other == n) = false := by simpa using h
      simp [setEntry, List.lookup_cons, this]
    · simp [setEntry, hn, List.lookup_cons, ih]

/-- Not even the order changes. -/
theorem set_of_get? {name : String} {v : β} {a : Entries β} (there : a.get? name = some v) :
    a.set name v = a := by
  obtain ⟨es, distinct⟩ := a
  refine ext ?_
  simp only [get?] at there
  simp only [set]
  clear distinct
  induction es with
  | nil => cases there
  | cons e es ih =>
    obtain ⟨n, w⟩ := e
    by_cases h : n = name
    · have held : w = v := by simpa [List.lookup_cons, h] using there
      simp [setEntry, h, held]
    · have later : (name == n) = false := by simpa using fun h' => h h'.symm
      simp only [List.lookup_cons, later] at there
      simp [setEntry, h, ih there]

theorem get?_map (f : β → γ) (a : Entries β) (name : String) :
    (a.map f).get? name = (a.get? name).map f := by
  obtain ⟨es, distinct⟩ := a
  simp only [map, get?]
  clear distinct
  induction es with
  | nil => rfl
  | cons e es ih =>
    obtain ⟨n, w⟩ := e
    simp only [List.map_cons, List.lookup_cons]
    cases name == n with
    | true => rfl
    | false => exact ih

/-- To write and then to read is to read and then to write what is read. -/
theorem map_set (f : β → γ) (a : Entries β) (name : String) (v : β) :
    (a.set name v).map f = (a.map f).set name (f v) := by
  obtain ⟨es, distinct⟩ := a
  refine ext ?_
  simp only [map, set]
  clear distinct
  induction es with
  | nil => rfl
  | cons e es ih =>
    simp only [setEntry, List.map_cons]
    split
    · rfl
    · rw [List.map_cons, ih]

theorem get?_of_mem {a : Entries β} {e : String × β} (mem : e ∈ a.entries) :
    a.get? e.1 = some e.2 := by
  obtain ⟨es, distinct⟩ := a
  show es.lookup e.1 = some e.2
  induction es with
  | nil => cases mem
  | cons d es ih =>
    obtain ⟨n, w⟩ := d
    rw [List.map_cons, List.nodup_cons] at distinct
    rcases List.mem_cons.mp mem with rfl | later
    · simp
    · have other : (e.1 == n) = false := by
        rw [beq_eq_false_iff_ne]
        intro same
        exact distinct.1 (List.mem_map.mpr ⟨e, later, same⟩)
      rw [List.lookup_cons, other]
      exact ih distinct.2 later

theorem mem_of_get? {a : Entries β} {name : String} {v : β} (there : a.get? name = some v) :
    (name, v) ∈ a.entries := by
  rw [get?] at there
  generalize a.entries = es at there ⊢
  induction es with
  | nil => cases there
  | cons e es ih =>
    obtain ⟨n, w⟩ := e
    rw [List.lookup_cons] at there
    cases here : name == n with
    | true =>
      rw [here] at there
      cases there
      rw [eq_of_beq here]
      exact List.mem_cons_self
    | false =>
      rw [here] at there
      exact List.mem_cons_of_mem _ (ih there)

/-- Two ways of reading agree where they agree on what stands there. -/
theorem map_congr {f g : β → γ} {a : Entries β} (same : ∀ name v, a.get? name = some v → f v = g v) :
    a.map f = a.map g := by
  refine ext (List.map_congr_left fun e mem => ?_)
  rw [same _ _ (get?_of_mem mem)]

/-- Two ways of reading that agree on all names but one. -/
theorem map_eq_set {f g : β → γ} {a : Entries β} {name : String} {v : β}
    (there : a.get? name = some v)
    (same : ∀ other w, other ≠ name → a.get? other = some w → g w = f w) :
    a.map g = (a.map f).set name (g v) := by
  refine ext ?_
  have agree (e : String × β) (mem : e ∈ a.entries) (other : e.1 ≠ name) : g e.2 = f e.2 :=
    same _ _ other (get?_of_mem mem)
  obtain ⟨es, distinct⟩ := a
  simp only [get?] at there
  simp only [map, set]
  clear same
  induction es with
  | nil => cases there
  | cons e es ih =>
    obtain ⟨n, w⟩ := e
    rw [List.map_cons, List.nodup_cons] at distinct
    rw [List.lookup_cons] at there
    by_cases here : n = name
    · -- no later entry has the name
      have later (d : String × β) (mem : d ∈ es) : (d.1, g d.2) = (d.1, f d.2) := by
        have other : d.1 ≠ name := fun same =>
          distinct.1 (List.mem_map.mpr ⟨d, mem, same.trans here.symm⟩)
        rw [agree d (List.mem_cons_of_mem _ mem) other]
      have held : w = v := by simpa [here] using there
      simp only [List.map_cons, setEntry, here, if_true, held, List.map_congr_left later]
    · have other : (name == n) = false := by simpa using fun same => here same.symm
      rw [other] at there
      simp only [List.map_cons, setEntry, here, if_false, agree (n, w) List.mem_cons_self here,
        ih distinct.2 there fun d mem => agree d (List.mem_cons_of_mem _ mem)]

/-! ## §4 Entries from a list -/

@[simp] theorem setAll_nil (a : Entries β) : a.setAll [] = a := rfl

@[simp] theorem setAll_cons (e : String × β) (es : List (String × β)) (a : Entries β) :
    a.setAll (e :: es) = (a.set e.1 e.2).setAll es := rfl

theorem setEntry_of_notMem {name : String} {es : List (String × β)}
    (new : name ∉ es.map Prod.fst) (v : β) : setEntry name v es = es ++ [(name, v)] := by
  induction es with
  | nil => rfl
  | cons e es ih =>
    rw [List.map_cons, List.mem_cons, not_or] at new
    have other : e.1 ≠ name := fun same => new.1 same.symm
    simp only [setEntry, other, if_false, ih new.2, List.cons_append]

/-- Entries are what they are when they are set one by one. -/
theorem setAll_entries (a : Entries β) : empty.setAll a.entries = a := by
  obtain ⟨es, distinct⟩ := a
  have onto (later : List (String × β)) : ∀ b : Entries β,
      ((b.entries ++ later).map Prod.fst).Nodup →
        (b.setAll later).entries = b.entries ++ later := by
    induction later with
    | nil => simp
    | cons e later ih =>
      intro b all
      have new : e.1 ∉ b.entries.map Prod.fst := by
        rw [List.map_append, List.nodup_append] at all
        exact fun mem => all.2.2 _ mem _ List.mem_cons_self rfl
      have step : (b.set e.1 e.2).entries ++ later = b.entries ++ e :: later := by
        simp only [set, setEntry_of_notMem new, List.append_assoc, List.singleton_append]
      rw [setAll_cons, ih _ (step ▸ all), step]
  exact ext (onto es empty distinct)

end Entries

end FlightAttitude
