import SchemaMerge.Fields

/-!
Finite maps from names to values, kept in ascending order of the names. The order is a proof field,
so every map lists its names in one way and two maps that answer every look-up alike are equal
(`NameMap.ext_get?`). Names are compared by code points.
-/

namespace SchemaMerge

structure NameMap (α : Type) where
  entries : List (String × α)
  ascending : Fields.Ascending entries

namespace NameMap

variable {α β : Type}

@[ext]
theorem ext {m n : NameMap α} (h : m.entries = n.entries) : m = n := by
  cases m
  cases n
  cases h
  rfl

instance [DecidableEq α] : DecidableEq (NameMap α) := fun m n =>
  decidable_of_iff (m.entries = n.entries) ⟨ext, congrArg entries⟩

def empty : NameMap α := ⟨[], Fields.ascending_nil⟩

instance : EmptyCollection (NameMap α) := ⟨empty⟩

instance : Inhabited (NameMap α) := ⟨empty⟩

/-- Of two bindings of one name the later one counts. -/
def ofList (bindings : List (String × α)) : NameMap α :=
  ⟨Fields.ofList bindings, Fields.ascending_ofList bindings⟩

def get? (m : NameMap α) (name : String) : Option α :=
  m.entries.lookup name

def contains (m : NameMap α) (name : String) : Bool :=
  (m.get? name).isSome

def names (m : NameMap α) : List String :=
  Fields.keys m.entries

def values (m : NameMap α) : List α :=
  m.entries.map (·.2)

def size (m : NameMap α) : Nat :=
  m.entries.length

def isEmpty (m : NameMap α) : Bool :=
  m.entries.isEmpty

def insert (m : NameMap α) (name : String) (x : α) : NameMap α :=
  ⟨Fields.insert name x m.entries, m.ascending.insert name x⟩

def erase (m : NameMap α) (name : String) : NameMap α :=
  ⟨Fields.erase name m.entries, m.ascending.erase name⟩

def map (f : String → α → β) (m : NameMap α) : NameMap β :=
  ⟨Fields.mapValues f m.entries, m.ascending.mapValues f⟩

def filter (keep : String → α → Bool) (m : NameMap α) : NameMap α :=
  ⟨m.entries.filter (fun entry => keep entry.1 entry.2), List.Pairwise.filter _ m.ascending⟩

/-- The bindings of both maps, those of `n` where a name is bound twice. -/
def override (m n : NameMap α) : NameMap α :=
  n.entries.foldl (fun acc entry => acc.insert entry.1 entry.2) m

theorem ext_get? {m n : NameMap α} (h : ∀ name, m.get? name = n.get? name) : m = n :=
  ext (m.ascending.ext n.ascending h)

@[simp]
theorem get?_empty (name : String) : (empty : NameMap α).get? name = none := rfl

theorem get?_insert (m : NameMap α) (name other : String) (x : α) :
    (m.insert name x).get? other = if other = name then some x else m.get? other :=
  Fields.lookup_insert name other x m.entries

theorem get?_erase (m : NameMap α) (name other : String) :
    (m.erase name).get? other = if other = name then none else m.get? other :=
  Fields.lookup_erase name other m.entries

theorem get?_map (f : String → α → β) (m : NameMap α) (name : String) :
    (m.map f).get? name = (m.get? name).map (f name) :=
  Fields.lookup_mapValues f m.entries name

theorem names_map (f : String → α → β) (m : NameMap α) : (m.map f).names = m.names :=
  Fields.keys_mapValues f m.entries

theorem get?_eq_some_iff {m : NameMap α} {name : String} {x : α} :
    m.get? name = some x ↔ (name, x) ∈ m.entries :=
  ⟨Fields.mem_of_lookup, m.ascending.lookup_eq⟩

@[simp]
theorem ofList_entries (m : NameMap α) : ofList m.entries = m :=
  ext (Fields.ofList_eq_self m.ascending)

theorem entries_ofList {bindings : List (String × α)} (h : Fields.Ascending bindings) :
    (ofList bindings).entries = bindings :=
  Fields.ofList_eq_self h

theorem get?_ofList {bindings : List (String × α)} (h : Fields.Ascending bindings) (name : String) :
    (ofList bindings).get? name = bindings.lookup name := by
  rw [get?, entries_ofList h]

theorem erase_insert {m : NameMap α} {name : String} (x : α) (h : m.get? name = none) :
    (m.insert name x).erase name = m := by
  apply ext_get?
  intro other
  rw [get?_erase, get?_insert]
  by_cases ho : other = name <;> simp [ho, h]

theorem insert_erase {m : NameMap α} {name : String} {x : α} (h : m.get? name = some x) :
    (m.erase name).insert name x = m := by
  apply ext_get?
  intro other
  rw [get?_insert, get?_erase]
  by_cases ho : other = name <;> simp [ho, h]

end NameMap

end SchemaMerge
