/-!
Gathering items that have one key. The keys come in the order of their first items, and the items of
a key in their own order.
-/

namespace SchemaMerge

variable {κ α : Type} [DecidableEq κ]

/-- Each key once, with all of its items. -/
def gather : List (κ × α) → List (κ × List α)
  | [] => []
  | (key, item) :: rest =>
      let gathered := gather rest
      (key, item :: (gathered.lookup key).getD []) :: gathered.filter fun entry => entry.1 ≠ key

theorem lookup_filter_ne {β : Type} (entries : List (κ × β)) {key other : κ} (h : other ≠ key) :
    (entries.filter fun entry => entry.1 ≠ key).lookup other = entries.lookup other := by
  induction entries with
  | nil => rfl
  | cons head rest ih =>
      obtain ⟨k, x⟩ := head
      by_cases hk : k = key
      · have hne : (other == k) = false := beq_false_of_ne (hk ▸ h)
        rw [List.filter_cons_of_neg (by simp [hk]), ih, List.lookup_cons, hne]
      · rw [List.filter_cons_of_pos (by simp [hk]), List.lookup_cons, List.lookup_cons, ih]

/-- What is gathered under a key are the items that have it. -/
theorem lookup_gather (items : List (κ × α)) (key : κ) :
    ((gather items).lookup key).getD [] = (items.filter fun item => item.1 = key).map (·.2) := by
  induction items with
  | nil => rfl
  | cons head rest ih =>
      obtain ⟨k, item⟩ := head
      by_cases h : key = k
      · subst h
        simp [gather, ih]
      · have hne : (key == k) = false := beq_false_of_ne h
        rw [List.filter_cons_of_neg (by simp [Ne.symm h]), ← ih, gather, List.lookup_cons, hne]
        simp only [lookup_filter_ne _ h]

/-- No key is listed without an item. -/
theorem ne_nil_of_mem_gather {items : List (κ × α)} {entry : κ × List α}
    (h : entry ∈ gather items) : entry.2 ≠ [] := by
  induction items with
  | nil => simp [gather] at h
  | cons head rest ih =>
      obtain ⟨k, item⟩ := head
      rcases List.mem_cons.1 h with rfl | h
      · simp
      · exact ih (List.mem_filter.1 h).1

theorem nodup_keys_gather (items : List (κ × α)) : ((gather items).map (·.1)).Nodup := by
  induction items with
  | nil => simp [gather]
  | cons head rest ih =>
      obtain ⟨k, item⟩ := head
      rw [gather, List.map_cons, List.nodup_cons]
      refine ⟨by simp, ?_⟩
      exact ih.sublist (List.filter_sublist.map _)

end SchemaMerge
