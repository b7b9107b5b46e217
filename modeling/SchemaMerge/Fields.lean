/-!
Association lists whose keys ascend strictly. JSON objects hold their members this way and
`NameMap` bundles such a list with the proof. The operations here are single passes over the list.
Their laws say what each one does to look-up (`lookup_insert`, `lookup_erase`, `lookup_mapValues`)
and that it keeps the order of the keys.
-/

namespace SchemaMerge

/-- The keys of a list of members, in order. -/
def Fields.keys {α : Type} (fields : List (String × α)) : List String :=
  fields.map (·.1)

/-- Each key is less than every later one, so no key occurs twice. -/
def Fields.Ascending {α : Type} (fields : List (String × α)) : Prop :=
  fields.Pairwise (fun a b => a.1 < b.1)

namespace Fields

variable {α β : Type}

/-- Puts `x` under `key`, in place of what stood there. -/
def insert (key : String) (x : α) : List (String × α) → List (String × α)
  | [] => [(key, x)]
  | (k, y) :: rest =>
      if key < k then (key, x) :: (k, y) :: rest
      else if key = k then (key, x) :: rest
      else (k, y) :: insert key x rest

/-- Removes what stands under `key`. -/
def erase (key : String) (fields : List (String × α)) : List (String × α) :=
  fields.filter (fun field => field.1 != key)

/-- Changes every value and no key. -/
def mapValues (f : String → α → β) (fields : List (String × α)) : List (String × β) :=
  fields.map (fun field => (field.1, f field.1 field.2))

/-- Sorts a list of members by key. Of two members with one key the later one counts. -/
def ofList (fields : List (String × α)) : List (String × α) :=
  fields.foldl (fun sorted field => insert field.1 field.2 sorted) []

/-- Names are ordered linearly. -/
theorem lt_of_not_lt {a b : String} (h : ¬ a < b) (hne : a ≠ b) : b < a :=
  Decidable.byContradiction fun hba => hne (String.le_antisymm hba h)

theorem ascending_nil : Ascending ([] : List (String × α)) := List.Pairwise.nil

theorem mem_insert {key : String} {x : α} {fields : List (String × α)} {field : String × α}
    (h : field ∈ insert key x fields) : field = (key, x) ∨ field ∈ fields := by
  induction fields with
  | nil => simpa [insert] using h
  | cons head rest ih =>
      obtain ⟨k, y⟩ := head
      rw [insert] at h
      split at h
      · simpa using h
      · split at h
        · rcases List.mem_cons.1 h with rfl | h
          · exact .inl rfl
          · exact .inr (List.mem_cons_of_mem _ h)
        · rcases List.mem_cons.1 h with rfl | h
          · exact .inr List.mem_cons_self
          · exact (ih h).imp id (List.mem_cons_of_mem _)

theorem Ascending.insert {fields : List (String × α)} (h : Ascending fields) (key : String)
    (x : α) : Ascending (insert key x fields) := by
  induction fields with
  | nil => simp [Fields.insert, Ascending]
  | cons head rest ih =>
      obtain ⟨k, y⟩ := head
      have hrest : Ascending rest := (List.pairwise_cons.1 h).2
      have hhead : ∀ field ∈ rest, k < field.1 := (List.pairwise_cons.1 h).1
      rw [Fields.insert]
      split
      case isTrue hlt =>
        refine List.pairwise_cons.2 ⟨fun field hmem => ?_, h⟩
        rcases List.mem_cons.1 hmem with rfl | hmem
        · exact hlt
        · exact String.lt_trans hlt (hhead field hmem)
      case isFalse hlt =>
        split
        case isTrue heq =>
          subst heq
          exact List.pairwise_cons.2 ⟨hhead, hrest⟩
        case isFalse hne =>
          refine List.pairwise_cons.2 ⟨fun field hmem => ?_, ih hrest⟩
          rcases mem_insert hmem with rfl | hmem
          · exact lt_of_not_lt hlt hne
          · exact hhead field hmem

theorem Ascending.erase {fields : List (String × α)} (h : Ascending fields) (key : String) :
    Ascending (erase key fields) :=
  List.Pairwise.filter _ h

theorem Ascending.mapValues {fields : List (String × α)} (h : Ascending fields)
    (f : String → α → β) : Ascending (mapValues f fields) :=
  List.pairwise_map.2 h

theorem ascending_ofList (fields : List (String × α)) : Ascending (ofList fields) := by
  suffices ∀ sorted : List (String × α), Ascending sorted →
      Ascending (fields.foldl (fun acc field => Fields.insert field.1 field.2 acc) sorted) from
    this [] ascending_nil
  induction fields with
  | nil => exact fun sorted h => h
  | cons field rest ih => exact fun sorted h => ih _ (h.insert _ _)

theorem keys_mapValues (f : String → α → β) (fields : List (String × α)) :
    keys (mapValues f fields) = keys fields := by
  simp [keys, mapValues]

theorem lookup_cons (key k : String) (x : α) (rest : List (String × α)) :
    ((k, x) :: rest).lookup key = if key = k then some x else rest.lookup key := by
  by_cases h : key = k
  · simp [h]
  · have : (key == k) = false := beq_false_of_ne h
    simp [List.lookup_cons, this, h]

theorem lookup_insert (key other : String) (x : α) (fields : List (String × α)) :
    (insert key x fields).lookup other = if other = key then some x else fields.lookup other := by
  induction fields with
  | nil => simp [insert, lookup_cons]
  | cons head rest ih =>
      obtain ⟨k, y⟩ := head
      rw [insert]
      split
      · simp [lookup_cons]
      · split
        case isTrue hkey =>
          subst hkey
          by_cases h : other = key <;> simp [lookup_cons, h]
        case isFalse hkey =>
          rw [lookup_cons, ih, lookup_cons]
          by_cases h : other = key
          · subst h
            simp [hkey]
          · simp [h]

theorem lookup_erase (key other : String) (fields : List (String × α)) :
    (erase key fields).lookup other = if other = key then none else fields.lookup other := by
  induction fields with
  | nil => simp [erase]
  | cons head rest ih =>
      obtain ⟨k, y⟩ := head
      by_cases hk : k = key
      · have : erase key ((k, y) :: rest) = erase key rest := by simp [erase, hk]
        rw [this, ih, lookup_cons]
        by_cases h : other = key <;> simp [h, hk]
      · have : erase key ((k, y) :: rest) = (k, y) :: erase key rest := by simp [erase, hk]
        rw [this, lookup_cons, ih, lookup_cons]
        by_cases h : other = key
        · subst h
          simp [Ne.symm hk]
        · simp [h]

theorem lookup_mapValues (f : String → α → β) (fields : List (String × α)) (key : String) :
    (mapValues f fields).lookup key = (fields.lookup key).map (f key) := by
  induction fields with
  | nil => rfl
  | cons head rest ih =>
      obtain ⟨k, y⟩ := head
      have : mapValues f ((k, y) :: rest) = (k, f k y) :: mapValues f rest := rfl
      rw [this, lookup_cons, ih, lookup_cons]
      by_cases h : key = k <;> simp [h]

theorem mem_of_lookup {fields : List (String × α)} {key : String} {x : α}
    (h : fields.lookup key = some x) : (key, x) ∈ fields := by
  induction fields with
  | nil => simp at h
  | cons head rest ih =>
      obtain ⟨k, y⟩ := head
      rw [lookup_cons] at h
      split at h
      case isTrue hk =>
        cases h
        exact hk ▸ List.mem_cons_self
      case isFalse => exact List.mem_cons_of_mem _ (ih h)

theorem Ascending.lookup_eq {fields : List (String × α)} (h : Ascending fields) {key : String}
    {x : α} (hmem : (key, x) ∈ fields) : fields.lookup key = some x := by
  induction fields with
  | nil => simp at hmem
  | cons head rest ih =>
      obtain ⟨k, y⟩ := head
      rw [lookup_cons]
      rcases List.mem_cons.1 hmem with heq | hmem
      · cases heq
        simp
      · have hlt : k < key := (List.pairwise_cons.1 h).1 _ hmem
        have hne : key ≠ k := fun heq => String.lt_irrefl _ (heq ▸ hlt)
        simp [hne, ih (List.pairwise_cons.1 h).2 hmem]

theorem insert_of_forall_lt {fields : List (String × α)} {key : String} (x : α)
    (h : ∀ field ∈ fields, field.1 < key) : insert key x fields = fields ++ [(key, x)] := by
  induction fields with
  | nil => rfl
  | cons head rest ih =>
      obtain ⟨k, y⟩ := head
      have hk : k < key := h _ List.mem_cons_self
      have hne : key ≠ k := fun heq => String.lt_irrefl _ (heq ▸ hk)
      have hlt : ¬ key < k := fun hlt => String.lt_irrefl _ (String.lt_trans hk hlt)
      simp [insert, hlt, hne, ih fun field hmem => h field (List.mem_cons_of_mem _ hmem)]

/-- A list with ascending keys is sorted already. -/
theorem ofList_eq_self {fields : List (String × α)} (h : Ascending fields) :
    ofList fields = fields := by
  suffices ∀ sorted : List (String × α), Ascending (sorted ++ fields) →
      fields.foldl (fun acc field => Fields.insert field.1 field.2 acc) sorted =
        sorted ++ fields from this [] h
  clear h
  induction fields with
  | nil => simp
  | cons field rest ih =>
      intro sorted hs
      have hlt : ∀ other ∈ sorted, other.1 < field.1 := fun other hmem =>
        (List.pairwise_append.1 hs).2.2 other hmem field List.mem_cons_self
      rw [List.foldl_cons, insert_of_forall_lt _ hlt, ih]
      · simp
      · simpa using hs

/-- Two lists with ascending keys that answer every look-up alike are equal. -/
theorem Ascending.ext {left right : List (String × α)} (hl : Ascending left)
    (hr : Ascending right) (h : ∀ key, left.lookup key = right.lookup key) : left = right := by
  induction left generalizing right with
  | nil =>
      cases right with
      | nil => rfl
      | cons head rest =>
          obtain ⟨k, x⟩ := head
          simpa [lookup_cons] using h k
  | cons head rest ih =>
      obtain ⟨k, x⟩ := head
      cases right with
      | nil => simpa [lookup_cons] using h k
      | cons head' rest' =>
          obtain ⟨k', x'⟩ := head'
          have hl' := List.pairwise_cons.1 hl
          have hr' := List.pairwise_cons.1 hr
          have hkey : k = k' := by
            have hmem : (k, x) ∈ (k', x') :: rest' :=
              mem_of_lookup ((h k).symm.trans (by simp))
            have hmem' : (k', x') ∈ (k, x) :: rest :=
              mem_of_lookup ((h k').trans (by simp))
            rcases List.mem_cons.1 hmem with heq | hlater
            · cases heq
              rfl
            · rcases List.mem_cons.1 hmem' with heq | hlater'
              · cases heq
                rfl
              · exact absurd (hl'.1 _ hlater') (String.lt_asymm (hr'.1 _ hlater))
          subst hkey
          have hvalue : x = x' := by simpa [lookup_cons] using h k
          subst hvalue
          refine congrArg _ (ih hl'.2 hr'.2 fun key => ?_)
          have hkeys := h key
          rw [lookup_cons, lookup_cons] at hkeys
          split at hkeys
          case isTrue hk =>
            have hnone : ∀ {fields : List (String × α)},
                (∀ field ∈ fields, k < field.1) → fields.lookup k = none := by
              intro fields hlt
              cases hfound : fields.lookup k with
              | none => rfl
              | some y => exact absurd (hlt _ (mem_of_lookup hfound)) (String.lt_irrefl _)
            rw [hk, hnone hl'.1, hnone hr'.1]
          case isFalse => exact hkeys

end Fields

end SchemaMerge
