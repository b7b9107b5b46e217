import SchemaMerge.Fields
import SchemaMerge.SortOn

/-!
Sorting by a text. The result holds the same items in the order of their texts, so it does not
depend on the order that the items had, provided that different items have different texts. The
distinct strings of a list, in order, depend on its members alone.
-/

namespace SchemaMerge

variable {α β : Type}

theorem sortOn_perm (text : α → String) (items : List α) : (sortOn text items).Perm items := by
  have hpairs := (sortBy_perm (fun a b => decide (a.1 ≤ b.1))
    (items.map fun item => (text item, item))).map (·.2)
  rw [List.map_map] at hpairs
  exact hpairs.trans (.of_eq (List.map_id items))

theorem sortOn_pairwise (text : α → String) (items : List α) :
    (sortOn text items).Pairwise fun a b => text a ≤ text b := by
  let le : String × α → String × α → Bool := fun a b => decide (a.1 ≤ b.1)
  have htotal : ∀ a b, le a b ∨ le b a := fun a b => by
    simpa [le] using String.le_total a.1 b.1
  have htrans : ∀ a b c, le a b → le b c → le a c := fun a b c hab hbc => by
    simp only [le, decide_eq_true_eq] at hab hbc ⊢
    exact String.le_trans hab hbc
  have hsorted := sortBy_pairwise htotal htrans (items.map fun item => (text item, item))
  rw [sortOn, List.pairwise_map]
  refine hsorted.imp_of_mem fun {a b} ha hb hle => ?_
  have htext : ∀ pair ∈ sortBy (fun a b : String × α => decide (a.1 ≤ b.1))
      (items.map fun item => (text item, item)), pair.1 = text pair.2 := by
    intro pair hpair
    obtain ⟨item, _, rfl⟩ := List.mem_map.1 ((sortBy_perm _ _).mem_iff.1 hpair)
    rfl
  rw [← htext a ha, ← htext b hb]
  exact of_decide_eq_true hle

theorem sortOn_eq_of_perm {text : α → String} {items items' : List α} (h : items.Perm items')
    (hinj : ∀ a ∈ items, ∀ b ∈ items, text a = text b → a = b) :
    sortOn text items = sortOn text items' := by
  have hperm : (sortOn text items).Perm (sortOn text items') :=
    (sortOn_perm text items).trans (h.trans (sortOn_perm text items').symm)
  refine List.Perm.eq_of_pairwise ?_ (sortOn_pairwise text items)
    (sortOn_pairwise text items') hperm
  intro a b ha hb hab hba
  refine hinj a ((sortOn_perm text items).mem_iff.1 ha) b ?_ (String.le_antisymm hab hba)
  exact h.mem_iff.2 ((sortOn_perm text items').mem_iff.1 hb)

theorem sortBy_map {le : β → β → Bool} {le' : α → α → Bool} (f : α → β)
    (h : ∀ a b, le (f a) (f b) = le' a b) (items : List α) :
    sortBy le (items.map f) = (sortBy le' items).map f := by
  have hinsert : ∀ (item : α) (rest : List α),
      insertBy le (f item) (rest.map f) = (insertBy le' item rest).map f := by
    intro item rest
    induction rest with
    | nil => rfl
    | cons head rest ih =>
        rw [List.map_cons, insertBy, insertBy, h, ih]
        split <;> rfl
  induction items with
  | nil => rfl
  | cons item items ih =>
      have hsort : ∀ (le : β → β → Bool) (x : β) (xs : List β),
        sortBy le (x :: xs) = insertBy le x (sortBy le xs) := fun _ _ _ => rfl
      rw [List.map_cons, hsort, ih, hinsert]
      rfl

/-- What leaves the texts alone can be done before sorting or after. -/
theorem sortOn_map {text : β → String} {text' : α → String} (f : α → β)
    (h : ∀ a, text (f a) = text' a) (items : List α) :
    sortOn text (items.map f) = (sortOn text' items).map f := by
  have hpairs : ((items.map f).map fun item => (text item, item)) =
      (items.map fun item => (text' item, item)).map (Prod.map id f) := by
    rw [List.map_map, List.map_map]
    refine List.map_congr_left fun item _ => ?_
    simp [h]
  rw [sortOn, hpairs, sortBy_map (Prod.map id f) fun _ _ => rfl, List.map_map, sortOn, List.map_map]
  rfl

theorem insertDistinct_pairwise (s : String) {strings : List String}
    (h : strings.Pairwise (· < ·)) : (insertDistinct s strings).Pairwise (· < ·) := by
  induction strings with
  | nil => simp [insertDistinct]
  | cons head rest ih =>
      have hrest := List.pairwise_cons.1 h
      rw [insertDistinct]
      split
      case isTrue hlt =>
        refine List.pairwise_cons.2 ⟨fun other hmem => ?_, h⟩
        rcases List.mem_cons.1 hmem with rfl | hmem
        · exact hlt
        · exact String.lt_trans hlt (hrest.1 other hmem)
      case isFalse hlt =>
        split
        case isTrue => exact h
        case isFalse hne =>
          refine List.pairwise_cons.2 ⟨fun other hmem => ?_, ih hrest.2⟩
          rcases mem_insertDistinct.1 hmem with rfl | hmem
          · exact Fields.lt_of_not_lt hlt hne
          · exact hrest.1 other hmem

theorem distinctSorted_pairwise (strings : List String) :
    (distinctSorted strings).Pairwise (· < ·) := by
  induction strings with
  | nil => exact .nil
  | cons head rest ih => exact insertDistinct_pairwise head ih

theorem distinctSorted_nodup (strings : List String) : (distinctSorted strings).Nodup :=
  (distinctSorted_pairwise strings).imp fun hlt => String.ne_of_lt hlt

theorem distinctSorted_ne_nil {strings : List String} (h : strings ≠ []) :
    distinctSorted strings ≠ [] := by
  obtain ⟨s, hs⟩ := List.exists_mem_of_ne_nil strings h
  exact List.ne_nil_of_mem (mem_distinctSorted.2 hs)

theorem distinctSorted_congr {strings others : List String}
    (h : ∀ s, s ∈ others ↔ s ∈ strings) : distinctSorted others = distinctSorted strings := by
  have hperm : (distinctSorted others).Perm (distinctSorted strings) := by
    rw [List.perm_ext_iff_of_nodup (distinctSorted_nodup _) (distinctSorted_nodup _)]
    simpa using h
  refine hperm.eq_of_pairwise (fun a b _ _ hab hba => ?_) (distinctSorted_pairwise _)
    (distinctSorted_pairwise _)
  exact absurd (String.lt_trans hab hba) (String.lt_irrefl a)

end SchemaMerge
