import Mathlib.Data.List.Chain
import SchemaMerge.Proofs.RenameChains

/-!
How chains of renames are resolved. Following a chain goes on until a name is not renamed, is
renamed to itself, or has been visited before; `Follows` says so without a bound on the steps, and
every chain comes to one of these outcomes, which is the one that is computed
(`Link.follows_iff`). Renames resolve if and only if no walk along them visits a name twice
(`nodup_walks_iff`). If they do not, the names that are reported are such a walk, up to the first
name that it visits again (`Follows.returns`). The whole is `resolveChains_exact`.
-/

namespace SchemaMerge

open Relation (ReflTransGen TransGen)

/-- What following a chain comes to, if `seen` are the names on the way to `current`. -/
inductive Follows (raw : NameMap String) : List String → String → Except Error String → Prop where
  /-- A name that is not renamed ends the chain. -/
  | missing {seen : List String} {current : String} (h : raw.get? current = none) :
      Follows raw seen current (.ok current)
  /-- So does a name that is renamed to itself. -/
  | identity {seen : List String} {current : String} (h : raw.get? current = some current) :
      Follows raw seen current (.ok current)
  /-- A name that has been visited is reported with all names on the way. -/
  | back {seen : List String} {current next : String} (hlink : Link raw current next)
      (hseen : current ∈ seen) :
      Follows raw seen current (.error (.cyclicRename (seen ++ [current])))
  | onward {seen : List String} {current next : String} {outcome : Except Error String}
      (hlink : Link raw current next) (hnew : current ∉ seen)
      (hrest : Follows raw (seen ++ [current]) next outcome) : Follows raw seen current outcome

/-- A walk along the renames, up to the first name that it visits again. -/
structure Returns (raw : NameMap String) (names : List String) : Prop where
  walk : names.IsChain (Link raw)
  /-- The last name is an earlier one. -/
  revisits : ∃ last ∈ names.getLast?, last ∈ names.dropLast
  first : names.dropLast.Nodup

/-- What resolving renames promises. -/
structure ResolvesExactly (raw : NameMap String) : Prop where
  /-- Following a chain has one outcome, which is the one that is computed. -/
  ends : ∀ name next, Link raw name next → ∀ outcome,
    Follows raw [name] next outcome ↔ chainEnd raw [name] next (raw.size + 1) = outcome
  /-- The renames resolve iff no walk along them visits a name twice. -/
  isOk : (∃ resolved, resolveChains raw = .ok resolved) ↔
    ∀ walk : List String, walk.IsChain (Link raw) → walk.Nodup
  /-- What is resolved has the names that are renamed to another one. -/
  keys : ∀ resolved, resolveChains raw = .ok resolved →
    ∀ name, resolved.contains name ↔ ∃ next, Link raw name next
  /-- Each of them is sent to the end of its chain. -/
  values : ∀ resolved, resolveChains raw = .ok resolved →
    ∀ name final, resolved.get? name = some final → ChainEnd raw name final
  /-- What names are sent to is not sent on. -/
  settled : ∀ resolved, resolveChains raw = .ok resolved →
    ∀ name final, resolved.get? name = some final → resolved.contains final = false
  /-- A failure names a walk that returns. -/
  fails : ∀ error, resolveChains raw = .error error →
    ∃ names, error = .cyclicRename names ∧ Returns raw names

variable {raw : NameMap String} {seen : List String} {name next current : String}
  {outcome other : Except Error String}

theorem Link.get?_ne_none (h : Link raw name next) : raw.get? name ≠ none := by
  rw [h.1]
  exact Option.some_ne_none next

theorem Link.get?_ne_self (h : Link raw name next) : raw.get? name ≠ some name := by
  rw [h.1]
  exact fun heq => h.2 (Option.some.inj heq).symm

namespace Follows

/-- There is one way to go on, so there is one outcome. -/
theorem unique (h : Follows raw seen current outcome) (h' : Follows raw seen current other) :
    outcome = other := by
  induction h generalizing other with
  | missing hnone =>
      cases h' with
      | missing => rfl
      | identity hself => cases hnone.symm.trans hself
      | back hlink => exact absurd hnone hlink.get?_ne_none
      | onward hlink => exact absurd hnone hlink.get?_ne_none
  | identity hself =>
      cases h' with
      | missing hnone => cases hnone.symm.trans hself
      | identity => rfl
      | back hlink => exact absurd hself hlink.get?_ne_self
      | onward hlink => exact absurd hself hlink.get?_ne_self
  | back hlink hseen =>
      cases h' with
      | missing hnone => exact absurd hnone hlink.get?_ne_none
      | identity hself => exact absurd hself hlink.get?_ne_self
      | back => rfl
      | onward _ hnew => exact absurd hseen hnew
  | onward hlink hnew _ ih =>
      cases h' with
      | missing hnone => exact absurd hnone hlink.get?_ne_none
      | identity hself => exact absurd hself hlink.get?_ne_self
      | back _ hseen => exact absurd hseen hnew
      | onward hlink' _ hrest =>
          rw [rightUnique_link raw hlink' hlink] at hrest
          exact ih hrest

/-- If following a chain fails, the names on the way to where it stops are reported. -/
theorem returns {error : Error} (h : Follows raw seen current (.error error))
    (hwalk : (seen ++ [current]).IsChain (Link raw)) (hseen : seen.Nodup) :
    ∃ names, error = .cyclicRename names ∧ Returns raw names := by
  generalize hfailed : Except.error error = failed at h
  induction h with
  | missing => cases hfailed
  | identity => cases hfailed
  | @back seen current next _ hback =>
      cases hfailed
      exact ⟨_, rfl, hwalk, ⟨current, by simp, by simpa using hback⟩, by simpa using hseen⟩
  | @onward seen current next outcome hlink hnew _ ih =>
      have hnext : (seen ++ [current] ++ [next]).IsChain (Link raw) := by
        refine hwalk.append (.singleton next) fun last hlast first hfirst => ?_
        obtain rfl : current = last := by simpa using hlast
        obtain rfl : next = first := by simpa using hfirst
        exact hlink
      refine ih hnext ?_ hfailed
      rw [← List.concat_eq_append, List.nodup_concat]
      exact ⟨hnew, hseen⟩

end Follows

/-- With fuel for all renames a chain is followed to its outcome. -/
theorem Trail.follows (h : Trail raw seen current) {fuel : Nat}
    (hfuel : raw.size < fuel + seen.length) :
    Follows raw seen current (chainEnd raw seen current fuel) := by
  induction fuel generalizing seen current with
  | zero =>
      have hlength := h.length_le
      omega
  | succ fuel ih =>
      rw [chainEnd]
      cases hget : raw.get? current with
      | none => exact .missing hget
      | some next =>
          dsimp only
          by_cases hsame : next = current
          · rw [if_pos hsame]
            exact .identity (hsame ▸ hget)
          · rw [if_neg hsame]
            have hlink : Link raw current next := ⟨hget, Ne.symm hsame⟩
            by_cases hseen : current ∈ seen
            · rw [if_pos hseen]
              exact .back hlink hseen
            · rw [if_neg hseen]
              have hlength : (seen ++ [current]).length = seen.length + 1 := List.length_append
              exact .onward hlink hseen (ih (h.concat hlink hseen) (by omega))

/-- Following the chain of a name that is renamed comes to what is computed, and to nothing else. -/
theorem Link.follows_iff (h : Link raw name next) :
    Follows raw [name] next outcome ↔ chainEnd raw [name] next (raw.size + 1) = outcome := by
  have htrail : Trail raw [name] next := by
    refine ⟨List.nodup_singleton name, fun other hother => ?_⟩
    rw [List.mem_singleton.1 hother]
    exact .single h
  have hfuel : raw.size < raw.size + 1 + [name].length := by
    rw [List.length_singleton]
    omega
  have hfollows := htrail.follows hfuel
  constructor
  · exact hfollows.unique
  · rintro rfl
    exact hfollows

/-- No walk visits a name twice iff no chain comes back to one of its names. -/
theorem nodup_walks_iff : (∀ walk : List String, walk.IsChain (Link raw) → walk.Nodup) ↔
    ∀ name, ¬TransGen (Link raw) name name := by
  constructor
  · intro hwalks name hcycle
    obtain ⟨next, hlink, hback⟩ := TransGen.head'_iff.1 hcycle
    obtain ⟨rest, hrest, hlast⟩ := List.exists_isChain_cons_of_relationReflTransGen hback
    have hnodup := hwalks (name :: next :: rest) (List.isChain_cons_cons.2 ⟨hlink, hrest⟩)
    exact (List.nodup_cons.1 hnodup).1 (hlast ▸ List.getLast_mem _)
  · intro hacyclic walk hwalk
    have hreach : walk.Pairwise (TransGen (Link raw)) :=
      List.isChain_iff_pairwise.1 (hwalk.imp fun _ _ => TransGen.single)
    refine hreach.imp fun {a b} hreached heq => ?_
    rw [heq] at hreached
    exact hacyclic b hreached

/-- Chains are resolved to their ends, unless one comes back to a name that it has visited. -/
theorem resolveChains_exact (raw : NameMap String) : ResolvesExactly raw where
  ends _ _ hlink _ := hlink.follows_iff
  isOk := exists_resolveChains_iff.trans nodup_walks_iff.symm
  keys resolved h name := by
    rw [NameMap.contains_iff]
    constructor
    · rintro ⟨final, hfinal⟩
      exact ((get?_resolveChains_iff h).1 hfinal).exists_link
    · rintro ⟨next, hlink⟩
      obtain ⟨final, hend⟩ := hlink.exists_chainEnd (exists_resolveChains_iff.1 ⟨resolved, h⟩)
      exact ⟨final, (get?_resolveChains_iff h).2 hend⟩
  values resolved h _ _ := (get?_resolveChains_iff h).1
  settled resolved h name final hfinal := by
    rw [NameMap.not_contains_iff, Option.eq_none_iff_forall_ne_some]
    intro further hfurther
    obtain ⟨next, hlink⟩ := ((get?_resolveChains_iff h).1 hfurther).exists_link
    exact ((get?_resolveChains_iff h).1 hfinal).last next hlink
  fails error h := by
    obtain ⟨entry, hentry, hfails⟩ := exists_of_mapM_eq_error (eq_error_of_bind_pure h)
    have hlink := link_iff_mem_moved.2 hentry
    have hchain := hlink.follows_iff.2 (eq_error_of_bind_pure hfails)
    refine hchain.returns ?_ (List.nodup_singleton _)
    exact List.isChain_cons_cons.2 ⟨hlink, .singleton _⟩

example : resolveChains (.ofList [("a", "b"), ("b", "c"), ("c", "c"), ("d", "a")]) =
    .ok (.ofList [("a", "c"), ("b", "c"), ("d", "c")]) := rfl

/-- The chain of a name may come back without coming back to that name. -/
example : resolveChains (.ofList [("a", "c"), ("b", "b"), ("c", "d"), ("d", "c")]) =
    .error (.cyclicRename ["a", "c", "d", "c"]) := rfl

end SchemaMerge
