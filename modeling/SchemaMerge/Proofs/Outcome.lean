import Mathlib.Data.List.Forall2

/-!
Computations that can fail, taken apart. A chain of steps gives a result iff each step gives one, so
every lemma about a whole operation starts from `bind_eq_ok`.
-/

namespace SchemaMerge

variable {ε α β : Type}

theorem bind_eq_ok {x : Except ε α} {f : α → Except ε β} {b : β} :
    x >>= f = .ok b ↔ ∃ a, x = .ok a ∧ f a = .ok b := by
  cases x with
  | error e =>
      refine ⟨fun h => ?_, fun ⟨a, h, _⟩ => ?_⟩
      · cases h
      · cases h
  | ok a =>
      refine ⟨fun h => ⟨a, rfl, h⟩, fun ⟨a', h, hf⟩ => ?_⟩
      cases h
      exact hf

theorem pure_eq_ok {a b : α} : (pure a : Except ε α) = .ok b ↔ a = b :=
  ⟨fun h => Except.ok.inj h, fun h => congrArg Except.ok h⟩

/-- A computation that is evaluated to a result has one. -/
theorem exists_ok_of_toOption {x : Except ε α} {f : α → β} {b : β}
    (h : x.toOption.map f = some b) : ∃ a, x = .ok a ∧ f a = b := by
  cases x with
  | error e => cases h
  | ok a => exact ⟨a, rfl, Option.some.inj h⟩

/-- A computation succeeds if one that goes on from its result does. -/
theorem exists_ok_of_bind {x : Except ε α} {f : α → Option β} {b : β}
    (h : (x.toOption >>= f) = some b) : ∃ a, x = .ok a ∧ f a = some b := by
  cases x with
  | error e => cases h
  | ok a => exact ⟨a, rfl, h⟩

/-- A computation fails if it does so whatever is made of its result. -/
theorem eq_error_of_map {x : Except ε α} {f : α → β} {e : ε} (h : x.map f = .error e) :
    x = .error e := by
  cases x with
  | error e' => exact congrArg Except.error (Except.error.inj h)
  | ok a => cases h

/-- The same for a computation that goes on without failing. -/
theorem eq_error_of_bind_pure {x : Except ε α} {f : α → β} {e : ε}
    (h : (x >>= fun a => pure (f a)) = .error e) : x = .error e := by
  rw [bind_pure_comp] at h
  exact eq_error_of_map h

/-- Items are treated one by one, and each has its result. -/
theorem mapM_eq_ok {f : α → Except ε β} {items : List α} {results : List β} :
    items.mapM f = .ok results ↔ List.Forall₂ (fun item result => f item = .ok result)
      items results := by
  induction items generalizing results with
  | nil =>
      rw [List.mapM_nil, pure_eq_ok, List.forall₂_nil_left_iff]
      exact eq_comm
  | cons item rest ih =>
      rw [List.mapM_cons, bind_eq_ok]
      constructor
      · rintro ⟨result, hitem, hrest⟩
        obtain ⟨others, hothers, hresults⟩ := bind_eq_ok.1 hrest
        rw [← pure_eq_ok.1 hresults]
        exact .cons hitem (ih.1 hothers)
      · intro h
        cases h with
        | cons hitem hrest => exact ⟨_, hitem, bind_eq_ok.2 ⟨_, ih.2 hrest, rfl⟩⟩

theorem exists_left_of_forall₂ {R : α → β → Prop} {left : List α} {right : List β}
    (h : List.Forall₂ R left right) {b : β} (hb : b ∈ right) : ∃ a ∈ left, R a b := by
  induction h with
  | nil => cases hb
  | cons hab _ ih =>
      rcases List.mem_cons.1 hb with rfl | hb
      · exact ⟨_, List.mem_cons_self, hab⟩
      · obtain ⟨a, ha, hr⟩ := ih hb
        exact ⟨a, List.mem_cons_of_mem _ ha, hr⟩

theorem exists_right_of_forall₂ {R : α → β → Prop} {left : List α} {right : List β}
    (h : List.Forall₂ R left right) {a : α} (ha : a ∈ left) : ∃ b ∈ right, R a b := by
  obtain ⟨b, hb, hr⟩ := exists_left_of_forall₂ (R := flip R) h.flip ha
  exact ⟨b, hb, hr⟩

/-- The items have results iff each of them has one. -/
theorem exists_mapM_eq_ok {f : α → Except ε β} {items : List α} :
    (∃ results, items.mapM f = .ok results) ↔ ∀ item ∈ items, ∃ result, f item = .ok result := by
  constructor
  · rintro ⟨results, hresults⟩ item hitem
    obtain ⟨result, _, hresult⟩ := exists_right_of_forall₂ (mapM_eq_ok.1 hresults) hitem
    exact ⟨result, hresult⟩
  · intro hall
    induction items with
    | nil => exact ⟨[], rfl⟩
    | cons item rest ih =>
        obtain ⟨result, hresult⟩ := hall item List.mem_cons_self
        obtain ⟨results, hresults⟩ := ih fun other hother =>
          hall other (List.mem_cons_of_mem _ hother)
        exact ⟨result :: results, mapM_eq_ok.2 (.cons hresult (mapM_eq_ok.1 hresults))⟩

/-- Where the items are not all treated, one of them is in the way. -/
theorem exists_of_mapM_eq_error {f : α → Except ε β} {items : List α} {e : ε}
    (h : items.mapM f = .error e) : ∃ item ∈ items, f item = .error e := by
  induction items with
  | nil => cases h
  | cons item rest ih =>
      rw [List.mapM_cons] at h
      cases hitem : f item with
      | error e' =>
          rw [hitem] at h
          cases h
          exact ⟨item, List.mem_cons_self, hitem⟩
      | ok result =>
          rw [hitem] at h
          obtain ⟨other, hother, hof⟩ := ih (eq_error_of_bind_pure h)
          exact ⟨other, List.mem_cons_of_mem _ hother, hof⟩

/-- What every step keeps, a whole chain of steps keeps. The steps done so far are known, so that a
step can be told apart from the earlier ones. -/
theorem foldlM_invariant {step : β → α → Except ε β} {items : List α} {start final : β}
    (Inv : List α → β → Prop)
    (hstep : ∀ done item rest state next, items = done ++ item :: rest → Inv done state →
      step state item = .ok next → Inv (done ++ [item]) next)
    (hstart : Inv [] start) (h : items.foldlM step start = .ok final) : Inv items final := by
  suffices ∀ (rest done : List α) (state : β), items = done ++ rest → Inv done state →
      rest.foldlM step state = .ok final → Inv items final from
    this items [] start rfl hstart h
  intro rest
  induction rest with
  | nil =>
      intro done state hitems hinv hfold
      rw [List.foldlM_nil, pure_eq_ok] at hfold
      rwa [hitems, List.append_nil, ← hfold]
  | cons item rest ih =>
      intro done state hitems hinv hfold
      rw [List.foldlM_cons, bind_eq_ok] at hfold
      obtain ⟨next, hnext, hrest⟩ := hfold
      have hdone := hstep done item rest state next hitems hinv hnext
      exact ih (done ++ [item]) next (by rw [hitems, List.append_assoc]; rfl) hdone hrest

end SchemaMerge
