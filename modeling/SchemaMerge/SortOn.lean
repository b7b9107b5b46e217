/-!
Sorting. `sortBy` is a stable insertion sort, `sortOn` sorts by a text that is computed once for
each item, and `distinctSorted` gives the distinct strings of a list.
-/

namespace SchemaMerge

variable {α : Type}

/-- Puts an item before the first one that it may precede. -/
def insertBy (le : α → α → Bool) (item : α) : List α → List α
  | [] => [item]
  | head :: rest => if le item head then item :: head :: rest else head :: insertBy le item rest

/-- The items in the order `le`. Items that may precede each other keep their order. -/
def sortBy (le : α → α → Bool) (items : List α) : List α :=
  items.foldr (insertBy le) []

/-- The items in ascending order of their texts. -/
def sortOn (text : α → String) (items : List α) : List α :=
  (sortBy (fun a b => decide (a.1 ≤ b.1)) (items.map fun item => (text item, item))).map (·.2)

/-- Adds a string to an ascending list that has each string once. -/
def insertDistinct (s : String) : List String → List String
  | [] => [s]
  | head :: rest =>
      if s < head then s :: head :: rest
      else if s = head then head :: rest
      else head :: insertDistinct s rest

/-- The strings of a list in ascending order, each once. -/
def distinctSorted (strings : List String) : List String :=
  strings.foldr insertDistinct []

theorem insertBy_perm (le : α → α → Bool) (item : α) (items : List α) :
    (insertBy le item items).Perm (item :: items) := by
  induction items with
  | nil => exact .refl _
  | cons head rest ih =>
      rw [insertBy]
      split
      · exact .refl _
      · exact (ih.cons head).trans (.swap item head rest)

theorem sortBy_perm (le : α → α → Bool) (items : List α) : (sortBy le items).Perm items := by
  induction items with
  | nil => exact .refl _
  | cons head rest ih => exact (insertBy_perm le head _).trans (ih.cons head)

theorem insertBy_pairwise {le : α → α → Bool} (total : ∀ a b, le a b ∨ le b a)
    (trans : ∀ a b c, le a b → le b c → le a c) {items : List α} (item : α)
    (h : items.Pairwise fun a b => le a b) :
    (insertBy le item items).Pairwise fun a b => le a b := by
  induction items with
  | nil => simp [insertBy]
  | cons head rest ih =>
      have hrest := List.pairwise_cons.1 h
      rw [insertBy]
      split
      case isTrue hle =>
        refine List.pairwise_cons.2 ⟨fun other hmem => ?_, h⟩
        rcases List.mem_cons.1 hmem with rfl | hmem
        · exact hle
        · exact trans _ _ _ hle (hrest.1 _ hmem)
      case isFalse hle =>
        refine List.pairwise_cons.2 ⟨fun other hmem => ?_, ih hrest.2⟩
        rcases List.mem_cons.1 ((insertBy_perm le item rest).mem_iff.1 hmem) with rfl | hmem
        · exact (total head other).resolve_right hle
        · exact hrest.1 _ hmem

theorem sortBy_pairwise {le : α → α → Bool} (total : ∀ a b, le a b ∨ le b a)
    (trans : ∀ a b c, le a b → le b c → le a c) (items : List α) :
    (sortBy le items).Pairwise fun a b => le a b := by
  induction items with
  | nil => exact .nil
  | cons head rest ih => exact insertBy_pairwise total trans head ih

theorem mem_insertDistinct {s other : String} {strings : List String} :
    other ∈ insertDistinct s strings ↔ other = s ∨ other ∈ strings := by
  induction strings with
  | nil => simp [insertDistinct]
  | cons head rest ih =>
      rw [insertDistinct]
      split
      · simp
      · split
        case isTrue h => simp [h]
        case isFalse h =>
          simp only [List.mem_cons, ih]
          exact or_left_comm

@[simp]
theorem mem_distinctSorted {s : String} {strings : List String} :
    s ∈ distinctSorted strings ↔ s ∈ strings := by
  induction strings with
  | nil => simp [distinctSorted]
  | cons head rest ih =>
      have : distinctSorted (head :: rest) = insertDistinct head (distinctSorted rest) := rfl
      rw [this, mem_insertDistinct, ih, List.mem_cons]

end SchemaMerge
