import Mathlib.Logic.Relation
import SchemaMerge.Plan
import SchemaMerge.Proofs.NameMaps
import SchemaMerge.Proofs.Outcome

/-!
Chains of renames. A name that is renamed to another one leads on to that one, and since a name has
one new name at most there is one way to go on. So a chain either has one end (`ChainEnd.unique`)
or comes back to one of its names. Renames can be resolved exactly when none of their chains comes
back (`exists_resolveChains_iff`), and then every name that is renamed is sent to the end of its
chain and to nothing else (`get?_resolveChains_iff`). A document takes renames if besides only
definitions are renamed and none of them to the name of one that stays (`Renamable`).
-/

namespace SchemaMerge

open Relation (ReflTransGen TransGen)

/-- A name is renamed to another one. -/
def Link (raw : NameMap String) (name next : String) : Prop :=
  raw.get? name = some next ∧ name ≠ next

/-- The renames lead from a name to another one that keeps its name. -/
structure ChainEnd (raw : NameMap String) (name final : String) : Prop where
  reached : TransGen (Link raw) name final
  last : ∀ next, ¬Link raw final next

/-- What has to hold of renames so that they can be carried out. -/
structure Renamable (renames : NameMap String) (definitions : NameMap Json) : Prop where
  /-- Only definitions are renamed. -/
  known : ∀ name, renames.contains name → definitions.contains name
  /-- A definition is renamed to no name of another one, unless that one is renamed as well. -/
  vacated : ∀ name target, Link renames name target → definitions.contains target →
    ∃ next, Link renames target next
  /-- No chain of renames comes back. -/
  acyclic : ∀ name, ¬TransGen (Link renames) name name

variable {raw resolved : NameMap String} {name next final : String}

theorem link_iff_mem_moved : Link raw name next ↔
    (name, next) ∈ raw.entries.filter fun entry => entry.1 ≠ entry.2 := by
  rw [Link, NameMap.get?_eq_some_iff, List.mem_filter, decide_eq_true_eq]

theorem Link.contains (h : Link raw name next) : raw.contains name :=
  NameMap.contains_iff.2 ⟨next, h.1⟩

theorem ChainEnd.exists_link (h : ChainEnd raw name final) : ∃ next, Link raw name next := by
  obtain ⟨next, hlink, _⟩ := TransGen.head'_iff.1 h.reached
  exact ⟨next, hlink⟩

theorem rightUnique_link (raw : NameMap String) : Relator.RightUnique (Link raw) := by
  intro name a b ha hb
  exact Option.some.inj (ha.1.symm.trans hb.1)

/-- A chain that has an end has no other end. -/
theorem ChainEnd.unique {other : String} (h : ChainEnd raw name final)
    (hother : ChainEnd raw name other) : final = other := by
  have hends : ∀ {a b : String}, (∀ next, ¬Link raw a next) → ReflTransGen (Link raw) a b →
      a = b := by
    intro a b hlast hreached
    rcases hreached.cases_head with heq | ⟨next, hnext, _⟩
    · exact heq
    · exact absurd hnext (hlast next)
  rcases ReflTransGen.total_of_right_unique (rightUnique_link raw) h.reached.to_reflTransGen
    hother.reached.to_reflTransGen with hreached | hreached
  · exact hends h.last hreached
  · exact (hends hother.last hreached).symm

/-- A name to which its chain comes back leads to names with such chains only, so to no end. -/
theorem exists_link_of_cycle (hcycle : TransGen (Link raw) name name)
    (hreached : ReflTransGen (Link raw) name final) : ∃ next, Link raw final next := by
  have hround : TransGen (Link raw) final final := by
    induction hreached with
    | refl => exact hcycle
    | tail _ hlink ih =>
        obtain ⟨next, hnext, hback⟩ := TransGen.head'_iff.1 ih
        rw [rightUnique_link raw hnext hlink] at hback
        exact TransGen.tail' hback hlink
  obtain ⟨next, hnext, _⟩ := TransGen.head'_iff.1 hround
  exact ⟨next, hnext⟩

/-- The names that a chain has gone through before `current`. -/
structure Trail (raw : NameMap String) (seen : List String) (current : String) : Prop where
  nodup : seen.Nodup
  leads : ∀ name ∈ seen, TransGen (Link raw) name current

namespace Trail

variable {seen : List String} {current : String}

/-- Every name on the way is renamed, so there are no more of them than there are renames. -/
theorem length_le (h : Trail raw seen current) : seen.length ≤ raw.size := by
  have hsub : seen ⊆ raw.names := by
    intro name hname
    obtain ⟨next, hnext, _⟩ := TransGen.head'_iff.1 (h.leads name hname)
    exact NameMap.mem_names_iff.2 hnext.contains
  rw [← NameMap.length_names]
  exact (h.nodup.subperm hsub).length_le

/-- One step further. -/
theorem concat (h : Trail raw seen current) (hlink : Link raw current next)
    (hnew : current ∉ seen) : Trail raw (seen ++ [current]) next where
  nodup := by
    rw [← List.concat_eq_append, List.nodup_concat]
    exact ⟨hnew, h.nodup⟩
  leads name hname := by
    rcases List.mem_append.1 hname with hname | hname
    · exact (h.leads name hname).tail hlink
    · rw [List.mem_singleton.1 hname]
      exact .single hlink

/-- With fuel for all renames, following a chain leads to its end, or it fails because the chain
comes back. -/
theorem chainEnd_cases (h : Trail raw seen current) {fuel : Nat}
    (hfuel : raw.size < fuel + seen.length) :
    (∃ final, chainEnd raw seen current fuel = .ok final ∧ ReflTransGen (Link raw) current final ∧
      ∀ next, ¬Link raw final next) ∨
    ((∃ error, chainEnd raw seen current fuel = .error error) ∧
      ∃ name, TransGen (Link raw) name name) := by
  induction fuel generalizing seen current with
  | zero =>
      have hlength := h.length_le
      omega
  | succ fuel ih =>
      rw [chainEnd]
      cases hget : raw.get? current with
      | none =>
          refine .inl ⟨current, rfl, .refl, fun next hnext => ?_⟩
          rw [hnext.1] at hget
          cases hget
      | some next =>
          dsimp only
          by_cases hsame : next = current
          · rw [if_pos hsame]
            refine .inl ⟨current, rfl, .refl, fun other hother => hother.2 ?_⟩
            rw [hother.1, Option.some.injEq] at hget
            exact (hget.trans hsame).symm
          · rw [if_neg hsame]
            by_cases hseen : current ∈ seen
            · rw [if_pos hseen]
              exact .inr ⟨⟨_, rfl⟩, current, h.leads current hseen⟩
            · rw [if_neg hseen]
              have hlink : Link raw current next := ⟨hget, Ne.symm hsame⟩
              have hlength : (seen ++ [current]).length = seen.length + 1 := List.length_append
              rcases ih (h.concat hlink hseen) (by omega) with
                ⟨final, hfinal, hreached, hlast⟩ | hback
              · exact .inl ⟨final, hfinal, .head hlink hreached, hlast⟩
              · exact .inr hback

end Trail

/-- The chain of a name that is renamed is followed to its end, unless some chain comes back. -/
theorem Link.chainEnd_cases (h : Link raw name next) :
    (∃ final, chainEnd raw [name] next (raw.size + 1) = .ok final ∧ ChainEnd raw name final) ∨
    ((∃ error, chainEnd raw [name] next (raw.size + 1) = .error error) ∧
      ∃ name, TransGen (Link raw) name name) := by
  have htrail : Trail raw [name] next := by
    refine ⟨List.nodup_singleton name, fun other hother => ?_⟩
    rw [List.mem_singleton.1 hother]
    exact .single h
  have hfuel : raw.size < raw.size + 1 + [name].length := by
    rw [List.length_singleton]
    omega
  rcases htrail.chainEnd_cases hfuel with ⟨final, hfinal, hreached, hlast⟩ | hback
  · exact .inl ⟨final, hfinal, .head' h hreached, hlast⟩
  · exact .inr hback

theorem Link.exists_chainEnd (h : Link raw name next)
    (hacyclic : ∀ name, ¬TransGen (Link raw) name name) : ∃ final, ChainEnd raw name final := by
  rcases h.chainEnd_cases with ⟨final, _, hend⟩ | ⟨_, other, hcycle⟩
  · exact ⟨final, hend⟩
  · exact absurd hcycle (hacyclic other)

/-- What following a chain comes to is its end. -/
theorem Link.chainEnd_of_ok (h : Link raw name next)
    (hfinal : chainEnd raw [name] next (raw.size + 1) = .ok final) : ChainEnd raw name final := by
  rcases h.chainEnd_cases with ⟨other, hother, hend⟩ | ⟨⟨error, herror⟩, _⟩
  · rw [hfinal, Except.ok.injEq] at hother
    exact hother ▸ hend
  · rw [hfinal] at herror
    cases herror

/-- Renames can be resolved iff no chain of them comes back to one of its names. -/
theorem exists_resolveChains_iff :
    (∃ resolved, resolveChains raw = .ok resolved) ↔ ∀ name, ¬TransGen (Link raw) name name := by
  have hall : (∃ resolved, resolveChains raw = .ok resolved) ↔
      ∀ entry ∈ raw.entries.filter fun entry => entry.1 ≠ entry.2,
        ∃ final, chainEnd raw [entry.1] entry.2 (raw.size + 1) = .ok final := by
    constructor
    · rintro ⟨resolved, hresolved⟩ entry hentry
      obtain ⟨bindings, hbindings, _⟩ := bind_eq_ok.1 hresolved
      obtain ⟨binding, hbinding⟩ := exists_mapM_eq_ok.1 ⟨bindings, hbindings⟩ entry hentry
      obtain ⟨final, hfinal, _⟩ := bind_eq_ok.1 hbinding
      exact ⟨final, hfinal⟩
    · intro hends
      have hbound : ∀ entry ∈ raw.entries.filter fun entry => entry.1 ≠ entry.2,
          ∃ binding : String × String, (do
            return (entry.1, ← chainEnd raw [entry.1] entry.2 (raw.size + 1))) = .ok binding := by
        intro entry hentry
        obtain ⟨final, hfinal⟩ := hends entry hentry
        exact ⟨(entry.1, final), bind_eq_ok.2 ⟨final, hfinal, rfl⟩⟩
      obtain ⟨bindings, hbindings⟩ := exists_mapM_eq_ok.2 hbound
      exact ⟨_, bind_eq_ok.2 ⟨bindings, hbindings, rfl⟩⟩
  rw [hall]
  constructor
  · intro hends name hcycle
    obtain ⟨next, hlink, _⟩ := TransGen.head'_iff.1 hcycle
    obtain ⟨final, hfinal⟩ := hends (name, next) (link_iff_mem_moved.1 hlink)
    have hend := hlink.chainEnd_of_ok hfinal
    obtain ⟨further, hfurther⟩ := exists_link_of_cycle hcycle hend.reached.to_reflTransGen
    exact hend.last further hfurther
  · intro hacyclic entry hentry
    rcases (link_iff_mem_moved.2 hentry).chainEnd_cases with ⟨final, hfinal, _⟩ | ⟨_, name, hcycle⟩
    · exact ⟨final, hfinal⟩
    · exact absurd hcycle (hacyclic name)

/-- What the resolved renames send a name to is the end of its chain. -/
theorem get?_resolveChains_iff (h : resolveChains raw = .ok resolved) :
    resolved.get? name = some final ↔ ChainEnd raw name final := by
  obtain ⟨bindings, hbindings, hresolved⟩ := bind_eq_ok.1 h
  rw [pure_eq_ok] at hresolved
  subst hresolved
  have hbound := mapM_eq_ok.1 hbindings
  have hkeys : (raw.entries.filter fun entry => entry.1 ≠ entry.2).map (·.1) =
      bindings.map (·.1) := by
    rw [← List.forall₂_eq_eq_eq, List.forall₂_map_left_iff, List.forall₂_map_right_iff]
    refine hbound.imp fun entry binding hbinding => ?_
    obtain ⟨_, _, hbinding⟩ := bind_eq_ok.1 hbinding
    cases hbinding
    rfl
  have hascending : Fields.Ascending bindings := by
    have hmoved := List.pairwise_map.2 (raw.ascending.filter fun entry => entry.1 ≠ entry.2)
    rw [hkeys] at hmoved
    exact List.pairwise_map.1 hmoved
  rw [NameMap.get?_ofList hascending]
  constructor
  · intro hfound
    obtain ⟨entry, hentry, hbinding⟩ := exists_left_of_forall₂ hbound (Fields.mem_of_lookup hfound)
    obtain ⟨last, hlast, hbinding⟩ := bind_eq_ok.1 hbinding
    cases hbinding
    exact (link_iff_mem_moved.2 hentry).chainEnd_of_ok hlast
  · intro hchain
    obtain ⟨next, hlink⟩ := hchain.exists_link
    obtain ⟨binding, hmem, hbinding⟩ := exists_right_of_forall₂ hbound (link_iff_mem_moved.1 hlink)
    obtain ⟨last, hlast, hbinding⟩ := bind_eq_ok.1 hbinding
    cases hbinding
    rw [hchain.unique (hlink.chainEnd_of_ok hlast)]
    exact hascending.lookup_eq hmem

variable {renames : NameMap String} {definitions : NameMap Json}

/-- A target survives if it is a definition that is not renamed to another name. -/
theorem targetSurvives_eq_false_iff {target : String} :
    targetSurvives renames definitions target = false ↔
      (definitions.contains target → ∃ next, Link renames target next) := by
  rw [targetSurvives, Bool.and_eq_false_imp]
  refine imp_congr_right fun _ => ?_
  cases hget : renames.get? target with
  | none => simp [Link, hget]
  | some next => simp [Link, hget, eq_comm]

/-- Of the names that go to one target the first one is copied. -/
theorem get?_foldr_insert (moved : List (String × String)) (final : String) :
    (moved.foldr (fun entry created => created.insert entry.2 entry.1)
      (.empty : NameMap String)).get? final =
        (moved.find? fun entry => entry.2 = final).map (·.1) := by
  induction moved with
  | nil => rfl
  | cons entry rest ih =>
      rw [List.foldr_cons, NameMap.get?_insert, ih, List.find?_cons]
      by_cases hfinal : entry.2 = final
      · simp [hfinal]
      · simp [hfinal, Ne.symm hfinal]

/-- The first one in ascending order is the least one. -/
theorem least_of_find? {moved : List (String × String)} (h : Fields.Ascending moved)
    {final : String} {first : String × String}
    (hfirst : (moved.find? fun entry => entry.2 = final) = some first) {name : String}
    (hname : (name, final) ∈ moved) : first.1 ≤ name := by
  obtain ⟨_, before, after, rfl, hbefore⟩ := List.find?_eq_some_iff_append.1 hfirst
  rcases List.mem_append.1 hname with hname | hname
  · simpa using hbefore _ hname
  · rcases List.mem_cons.1 hname with rfl | hname
    · exact String.le_refl _
    · have hless := (List.pairwise_cons.1 (List.pairwise_append.1 h).2.1).1 _ hname
      exact fun hmore => String.lt_asymm hmore hless

theorem mem_created_iff {name final : String} :
    (name, final) ∈ (renames.entries.filter fun entry => entry.1 ≠ entry.2).filter
      (fun entry => !definitions.contains entry.2) ↔
        definitions.contains final = false ∧ Link renames name final := by
  rw [List.mem_filter, ← link_iff_mem_moved, Bool.not_eq_true', and_comm]

/-- What is created is a copy of the least definition that is renamed to it directly. -/
theorem least_of_createdTargets {final source : String}
    (h : (createdTargets definitions (renames.entries.filter fun entry => entry.1 ≠ entry.2)).get?
      final = some source) :
    definitions.contains final = false ∧ Link renames source final ∧
      ∀ name, Link renames name final → source ≤ name := by
  rw [createdTargets, get?_foldr_insert, Option.map_eq_some_iff] at h
  obtain ⟨⟨first, target⟩, hfirst, rfl⟩ := h
  have htarget : target = final := by simpa using List.find?_some hfirst
  have hmem := List.mem_of_find?_eq_some hfirst
  rw [htarget, mem_created_iff] at hmem
  refine ⟨hmem.1, hmem.2, fun name hname => ?_⟩
  exact least_of_find? ((renames.ascending.filter _).filter _) hfirst
    (mem_created_iff.2 ⟨hmem.1, hname⟩)

/-- A name that no definition has is created when something is renamed to it directly. -/
theorem contains_createdTargets {name final : String}
    (hnew : definitions.contains final = false) (hlink : Link renames name final) :
    (createdTargets definitions
      (renames.entries.filter fun entry => entry.1 ≠ entry.2)).contains final := by
  rw [NameMap.contains, createdTargets, get?_foldr_insert, Option.isSome_map, List.find?_isSome]
  exact ⟨_, mem_created_iff.2 ⟨hnew, hlink⟩, decide_eq_true rfl⟩

/-- A document takes the renames that can be carried out. Their chains are resolved, and the
definitions that are missing at the ends of chains are created. -/
theorem planRenames?_eq_ok_iff {document : Document} {map : RenameMap} :
    planRenames? renames document = .ok map ↔ Renamable renames document.definitions ∧
      resolveChains renames = .ok map.aliases ∧
      map.materialized = createdTargets document.definitions
        (renames.entries.filter fun entry => entry.1 ≠ entry.2) := by
  have hknown : (renames.names.find? fun name => !document.definitions.contains name) = none ↔
      ∀ name, renames.contains name → document.definitions.contains name := by
    simp [NameMap.mem_names_iff]
  have hvacated : ((renames.entries.filter fun entry => entry.1 ≠ entry.2).find? fun entry =>
      targetSurvives renames document.definitions entry.2) = none ↔
        ∀ name target, Link renames name target → document.definitions.contains target →
          ∃ next, Link renames target next := by
    simp only [List.find?_eq_none, Prod.forall, ← link_iff_mem_moved, Bool.not_eq_true,
      targetSurvives_eq_false_iff]
  rw [planRenames?]
  split
  case h_1 name hname =>
    refine iff_of_false nofun fun h => ?_
    rw [hknown.2 h.1.known] at hname
    cases hname
  case h_2 hnone =>
    split
    case h_1 source target hsurvives =>
      refine iff_of_false nofun fun h => ?_
      rw [hvacated.2 h.1.vacated] at hsurvives
      cases hsurvives
    case h_2 hgone =>
      simp only [RenameMap.ofAliases?, bind_eq_ok, pure_eq_ok]
      constructor
      · rintro ⟨aliases, haliases, rfl⟩
        have hacyclic := exists_resolveChains_iff.1 ⟨aliases, haliases⟩
        exact ⟨⟨hknown.1 hnone, hvacated.1 hgone, hacyclic⟩, haliases, rfl⟩
      · rintro ⟨_, haliases, hcreated⟩
        exact ⟨map.aliases, haliases, by rw [← hcreated]⟩

end SchemaMerge
