import Mathlib.Data.List.Nodup
import Mathlib.Data.List.Perm.Subperm
import SchemaMerge.NameMap

/-!
More laws of name maps: the names of a map, look-up in a part of a map and in two maps laid over
each other, and what one more name does to the entries and their number.
-/

namespace SchemaMerge

theorem lookup_of_mem_of_nodup {κ α : Type} [DecidableEq κ] {entries : List (κ × α)}
    (h : (entries.map (·.1)).Nodup) {key : κ} {x : α} (hmem : (key, x) ∈ entries) :
    entries.lookup key = some x := by
  induction entries with
  | nil => cases hmem
  | cons head rest ih =>
      obtain ⟨k, y⟩ := head
      rw [List.map_cons, List.nodup_cons] at h
      rcases List.mem_cons.1 hmem with heq | hmem
      · cases heq
        exact List.lookup_cons_self
      · have hne : key ≠ k := fun heq => h.1 (heq ▸ List.mem_map.2 ⟨_, hmem, rfl⟩)
        have hbeq : (key == k) = false := beq_false_of_ne hne
        rw [List.lookup_cons, hbeq]
        exact ih h.2 hmem

theorem Fields.mem_ofList {α : Type} {fields : List (String × α)} {field : String × α}
    (h : field ∈ ofList fields) : field ∈ fields := by
  suffices ∀ sorted : List (String × α),
      field ∈ fields.foldl (fun acc entry => insert entry.1 entry.2 acc) sorted →
        field ∈ fields ∨ field ∈ sorted from (this [] h).elim id (nomatch ·)
  clear h
  induction fields with
  | nil => exact fun sorted => .inr
  | cons head rest ih =>
      intro sorted h
      rcases ih _ h with hrest | hinsert
      · exact .inl (List.mem_cons_of_mem _ hrest)
      · rcases mem_insert hinsert with rfl | hsorted
        · exact .inl List.mem_cons_self
        · exact .inr hsorted

theorem Fields.lookup_eq_some_iff {α : Type} {fields : List (String × α)}
    (h : (keys fields).Nodup) {key : String} {x : α} :
    fields.lookup key = some x ↔ (key, x) ∈ fields :=
  ⟨mem_of_lookup, lookup_of_mem_of_nodup h⟩

/-- Members with different keys are found wherever they stand. -/
theorem Fields.lookup_of_perm {α : Type} {fields fields' : List (String × α)}
    (h : (keys fields).Nodup) (hperm : fields'.Perm fields) (key : String) :
    fields'.lookup key = fields.lookup key := by
  have h' : (keys fields').Nodup := (hperm.map _).nodup_iff.2 h
  apply Option.ext
  intro x
  rw [lookup_eq_some_iff h, lookup_eq_some_iff h', hperm.mem_iff]

namespace NameMap

variable {α : Type}

theorem contains_iff {m : NameMap α} {name : String} :
    m.contains name ↔ ∃ x, m.get? name = some x :=
  Option.isSome_iff_exists

theorem not_contains_iff {m : NameMap α} {name : String} :
    m.contains name = false ↔ m.get? name = none := by
  rw [contains, Option.isSome_eq_false_iff, Option.isNone_iff_eq_none]

theorem mem_names_iff {m : NameMap α} {name : String} : name ∈ m.names ↔ m.contains name := by
  rw [contains_iff, names, Fields.keys, List.mem_map]
  constructor
  · rintro ⟨⟨key, x⟩, hmem, rfl⟩
    exact ⟨x, get?_eq_some_iff.2 hmem⟩
  · rintro ⟨x, hx⟩
    exact ⟨(name, x), get?_eq_some_iff.1 hx, rfl⟩

theorem pairwise_names (m : NameMap α) : m.names.Pairwise (· < ·) :=
  List.pairwise_map.2 m.ascending

theorem nodup_names (m : NameMap α) : m.names.Nodup :=
  m.pairwise_names.imp fun hlt => fun heq => String.lt_irrefl _ (heq ▸ hlt)

theorem nodup_entries (m : NameMap α) : m.entries.Nodup :=
  m.nodup_names.of_map _

theorem length_names (m : NameMap α) : m.names.length = m.size :=
  List.length_map ..

theorem get?_filter (keep : String → α → Bool) (m : NameMap α) (name : String) :
    (m.filter keep).get? name = (m.get? name).filter (keep name) := by
  apply Option.ext
  intro x
  rw [get?_eq_some_iff, Option.filter_eq_some_iff, get?_eq_some_iff]
  exact List.mem_filter

/-- Binding a name before all values are changed, where `f` and `g` agree on the other names. -/
theorem map_insert {β : Type} {f g : String → α → β} {m : NameMap α} {name : String}
    (h : ∀ other x, m.get? other = some x → other ≠ name → f other x = g other x) (x : α) :
    (m.insert name x).map f = (m.map g).insert name (f name x) := by
  apply ext_get?
  intro other
  rw [get?_map, get?_insert, get?_insert, get?_map]
  by_cases hname : other = name
  · rw [if_pos hname, if_pos hname, hname]
    rfl
  · rw [if_neg hname, if_neg hname]
    cases hfound : m.get? other with
    | none => rfl
    | some value => exact congrArg some (h other value hfound hname)

/-- Where both maps bind a name, the second one counts. -/
theorem get?_override (m n : NameMap α) (name : String) :
    (m.override n).get? name = (n.get? name).or (m.get? name) := by
  have hfold : ∀ (entries : List (String × α)) (acc : NameMap α), Fields.Ascending entries →
      (entries.foldl (fun acc entry => acc.insert entry.1 entry.2) acc).get? name =
        (entries.lookup name).or (acc.get? name) := by
    intro entries
    induction entries with
    | nil => exact fun acc _ => rfl
    | cons head rest ih =>
        intro acc hasc
        obtain ⟨key, x⟩ := head
        rw [List.foldl_cons, ih _ (List.pairwise_cons.1 hasc).2, get?_insert, Fields.lookup_cons]
        by_cases hkey : name = key
        · have hnone : rest.lookup name = none := by
            cases hfound : rest.lookup name with
            | none => rfl
            | some y =>
                have hlt := (List.pairwise_cons.1 hasc).1 _ (Fields.mem_of_lookup hfound)
                rw [hkey] at hlt
                exact absurd hlt (String.lt_irrefl _)
          rw [if_pos hkey, if_pos hkey, hnone]
          rfl
        · rw [if_neg hkey, if_neg hkey]
  exact hfold n.entries m n.ascending

/-- A new name adds one entry and leaves the others alone. -/
theorem entries_insert_perm {m : NameMap α} {name : String} (x : α) (h : m.get? name = none) :
    (m.insert name x).entries.Perm ((name, x) :: m.entries) := by
  have hfresh : (name, x) ∉ m.entries := fun hmem => by
    rw [get?_eq_some_iff.2 hmem] at h
    cases h
  rw [List.perm_ext_iff_of_nodup (nodup_entries _) (List.nodup_cons.2 ⟨hfresh, m.nodup_entries⟩)]
  rintro ⟨key, y⟩
  rw [← get?_eq_some_iff, get?_insert, List.mem_cons, ← get?_eq_some_iff, Prod.mk.injEq]
  by_cases hkey : key = name
  · subst hkey
    simp [h, eq_comm]
  · simp [hkey]

theorem size_insert {m : NameMap α} {name : String} (x : α) (h : m.get? name = none) :
    (m.insert name x).size = m.size + 1 :=
  (entries_insert_perm x h).length_eq

/-- Bindings of distinct names are the entries of the map that they make. -/
theorem entries_ofList_perm {bindings : List (String × α)}
    (h : (bindings.map (·.1)).Nodup) : (ofList bindings).entries.Perm bindings := by
  suffices ∀ m : NameMap α, (∀ binding ∈ bindings, m.get? binding.1 = none) →
      (bindings.foldl (fun acc binding => Fields.insert binding.1 binding.2 acc) m.entries).Perm
        (m.entries ++ bindings) from this .empty fun _ _ => rfl
  induction bindings with
  | nil => simp
  | cons head rest ih =>
      intro m hm
      obtain ⟨hhead, hrest⟩ := List.nodup_cons.1 h
      have hnew := hm head List.mem_cons_self
      have hothers : ∀ binding ∈ rest, (m.insert head.1 head.2).get? binding.1 = none := by
        intro binding hbinding
        have hne : binding.1 ≠ head.1 := fun heq =>
          hhead (List.mem_map.2 ⟨binding, hbinding, heq⟩)
        rw [get?_insert, if_neg hne]
        exact hm binding (List.mem_cons_of_mem _ hbinding)
      have hinsert := (entries_insert_perm head.2 hnew).append_right rest
      exact (ih hrest _ hothers).trans (hinsert.trans List.perm_middle.symm)

end NameMap

end SchemaMerge
