import SchemaMerge.Consolidate
import SchemaMerge.Proofs.Planning

/-!
The passes of a run. A pass keeps the definitions that are not sent to another name, each with the
body of its source, and it leaves fewer of them than there were (`Allotted.definitionCount_lt`). So
a run does not end because its passes are used up: it ends with a document whose classification
finds nothing to merge (`Passes`).
-/

namespace SchemaMerge

namespace RenameMap

/-- The definition whose body a definition has after the renames. -/
def source (map : RenameMap) (name : String) : String :=
  (map.materialized.get? name).getD name

/-- Definitions are created under new names, as copies of ones that are there. -/
theorem get?_withCreated? {map : RenameMap} {definitions created : NameMap Json}
    (hnew : ∀ name source, map.materialized.get? name = some source →
      definitions.contains name = false ∧ definitions.contains source)
    (h : map.withCreated? definitions = .ok created) (name : String) :
    created.get? name = definitions.get? (map.source name) := by
  refine foldlM_invariant (fun done state => ∀ name,
    state.get? name = definitions.get? ((done.lookup name).getD name)) ?_ (fun name => rfl) h name
  rintro done ⟨canonical, origin⟩ rest state next hitems hinv hnext name
  have hbinds : ∀ other source, done.lookup other = some source →
      map.materialized.get? other = some source := by
    intro other source hother
    rw [NameMap.get?_eq_some_iff, hitems]
    exact List.mem_append_left _ (Fields.mem_of_lookup hother)
  have hcanonical : map.materialized.get? canonical = some origin := by
    rw [NameMap.get?_eq_some_iff, hitems]
    exact List.mem_append_right _ List.mem_cons_self
  have horigin : done.lookup origin = none := by
    rw [Option.eq_none_iff_forall_ne_some]
    intro source hsource
    have hold := (hnew canonical origin hcanonical).2
    rw [(hnew origin source (hbinds origin source hsource)).1] at hold
    cases hold
  have hbody := hinv origin
  rw [horigin, Option.getD_none] at hbody
  dsimp only at hnext
  split at hnext
  case h_2 => cases hnext
  case h_1 body hfound =>
    cases hnext
    rw [NameMap.get?_insert, List.lookup_append]
    by_cases hname : name = canonical
    · subst hname
      have hsource : ((done.lookup name).or ([(name, origin)].lookup name)).getD name = origin := by
        cases hdone : done.lookup name with
        | none => simp
        | some source =>
            have hsame := hbinds name source hdone
            rw [hcanonical] at hsame
            cases hsame
            rfl
      rw [if_pos rfl, hsource, ← hbody, hfound]
    · have hnone : [(canonical, origin)].lookup name = none := by
        rw [Fields.lookup_cons, if_neg hname]
        rfl
      rw [if_neg hname, hinv, hnone, Option.or_none]

/-- Definitions can be created if what they copy is there. -/
theorem exists_withCreated? {map : RenameMap} {definitions : NameMap Json}
    (h : ∀ name source, map.materialized.get? name = some source → definitions.contains source) :
    ∃ created, map.withCreated? definitions = .ok created := by
  have hentries : ∀ entry ∈ map.materialized.entries, definitions.contains entry.2 :=
    fun entry hentry => h entry.1 entry.2 (NameMap.get?_eq_some_iff.2 hentry)
  clear h
  rw [withCreated?]
  generalize map.materialized.entries = entries at hentries
  induction entries generalizing definitions with
  | nil => exact ⟨definitions, rfl⟩
  | cons entry rest ih =>
      obtain ⟨body, hbody⟩ := NameMap.contains_iff.1 (hentries entry List.mem_cons_self)
      have hrest : ∀ other ∈ rest, (definitions.insert entry.1 body).contains other.2 := by
        intro other hother
        have hold := hentries other (List.mem_cons_of_mem _ hother)
        rw [NameMap.contains, NameMap.get?_insert]
        split
        · rfl
        · exact hold
      obtain ⟨created, hcreated⟩ := ih hrest
      refine ⟨created, ?_⟩
      rw [List.foldlM_cons, hbody]
      exact hcreated

theorem get?_withoutAliases (map : RenameMap) (definitions : NameMap Json) (name : String) :
    (map.withoutAliases definitions).get? name =
      if map.aliases.contains name then none else definitions.get? name := by
  rw [withoutAliases, NameMap.get?_filter]
  cases definitions.get? name with
  | none => simp
  | some body =>
      cases map.aliases.contains name <;> simp [Option.filter]

end RenameMap

namespace Document

variable {document out : Document} {map : RenameMap}

theorem get?_repointed_definitions (document : Document) (map : RenameMap)
    (definitions : NameMap Json) (name : String) :
    (document.repointed map definitions).definitions.get? name =
      if map.aliases.contains name then none else (definitions.get? name).map map.schema := by
  rw [repointed, RenameMap.get?_withoutAliases, NameMap.get?_map]

/-- A map that says something is applied as a whole, and brings in no text of a reference that
points at nothing. -/
theorem repoint?_eq_ok (hmap : map.isEmpty = false) (h : document.repoint? map = .ok out) :
    ∃ created, map.withCreated? document.definitions = .ok created ∧
      out = document.repointed map created ∧
      ∀ site ∈ out.danglingSites, site.target ∈ document.danglingSites.map (·.target) := by
  rw [repoint?, if_neg (by simp [hmap])] at h
  obtain ⟨created, hcreated, h⟩ := bind_eq_ok.1 h
  refine ⟨created, hcreated, ?_⟩
  dsimp only at h
  split at h
  case isFalse => cases h
  case isTrue hnone =>
    rw [pure_eq_ok] at h
    subst h
    refine ⟨rfl, fun site hsite => ?_⟩
    rw [List.isEmpty_iff, List.filter_eq_nil_iff] at hnone
    simpa using hnone site hsite

/-- A map is applied if it brings in no text of a reference that points at nothing. -/
theorem repoint?_ok (hmap : map.isEmpty = false) {created : NameMap Json}
    (hcreated : map.withCreated? document.definitions = .ok created)
    (hforgiven : ∀ site ∈ (document.repointed map created).danglingSites,
      site.target ∈ document.danglingSites.map (·.target)) :
    document.repoint? map = .ok (document.repointed map created) := by
  have hnone : ((document.repointed map created).danglingSites.filter fun site =>
      site.target ∉ document.danglingSites.map (·.target)) = [] := by
    rw [List.filter_eq_nil_iff]
    intro site hsite
    simpa using hforgiven site hsite
  rw [repoint?, if_neg (by simp [hmap])]
  refine bind_eq_ok.2 ⟨created, hcreated, ?_⟩
  dsimp only
  rw [hnone]
  rfl

end Document

namespace Allotted

variable {limit : UInt64} {tier : MergeTier} {document out : Document}
  {groups : List MergeGroup} {map : RenameMap} {allotted : List (MergeGroup × String)}

theorem exists_alias (h : Allotted document.definitions groups map allotted)
    (hc : Classified limit tier document.definitions groups) {group : MergeGroup}
    (hgroup : group ∈ groups) : ∃ name ∈ group.members, map.aliases.contains name := by
  obtain ⟨canonical, hpair⟩ := h.exists_canonical hgroup
  obtain ⟨name, hname, hne⟩ := exists_mem_ne (hc.nodup group hgroup) group.two_le canonical
  refine ⟨name, hname, NameMap.contains_iff.2 ⟨canonical, ?_⟩⟩
  exact (h.aliases name canonical).2 ⟨group, hpair, hname, hne⟩

theorem isEmpty_eq_false (h : Allotted document.definitions groups map allotted)
    (hc : Classified limit tier document.definitions groups) (hne : groups ≠ []) :
    map.isEmpty = false := by
  obtain ⟨group, hgroup⟩ := List.exists_mem_of_ne_nil groups hne
  obtain ⟨name, _, hname⟩ := h.exists_alias hc hgroup
  obtain ⟨target, htarget⟩ := NameMap.contains_iff.1 hname
  have hentry := NameMap.get?_eq_some_iff.1 htarget
  rw [RenameMap.isEmpty, Bool.and_eq_false_iff]
  refine .inl (Bool.eq_false_iff.2 fun hempty => ?_)
  rw [NameMap.isEmpty, List.isEmpty_iff] at hempty
  rw [hempty] at hentry
  cases hentry

/-- A created definition is new, and its source is the first member of the group. -/
theorem created_new (h : Allotted document.definitions groups map allotted)
    (hc : Classified limit tier document.definitions groups) {name source : String}
    (hsource : map.materialized.get? name = some source) :
    document.definitions.contains name = false ∧ document.definitions.contains source := by
  obtain ⟨group, hpair, hout, rfl⟩ := (h.materialized name source).1 hsource
  refine ⟨(h.owned group name hpair).resolve_left hout, ?_⟩
  exact hc.contains (h.mem_groups hpair) group.first_mem

/-- What the definitions are when references have been repointed. -/
theorem get?_definitions_repointed (h : Allotted document.definitions groups map allotted)
    (hc : Classified limit tier document.definitions groups) {created : NameMap Json}
    (hcreated : map.withCreated? document.definitions = .ok created) (name : String) :
    (document.repointed map created).definitions.get? name =
      if map.aliases.contains name then none
      else (document.definitions.get? (map.source name)).map map.schema := by
  rw [Document.get?_repointed_definitions,
    RenameMap.get?_withCreated? (fun _ _ => h.created_new hc) hcreated]

/-- What a pass leaves of the definitions. -/
theorem get?_definitions (h : Allotted document.definitions groups map allotted)
    (hc : Classified limit tier document.definitions groups) (hne : groups ≠ [])
    (hout : document.repoint? map = .ok out) (name : String) :
    out.definitions.get? name =
      if map.aliases.contains name then none
      else (document.definitions.get? (map.source name)).map map.schema := by
  obtain ⟨created, hcreated, rfl, _⟩ := Document.repoint?_eq_ok (h.isEmpty_eq_false hc hne) hout
  exact h.get?_definitions_repointed hc hcreated name

/-- Of the definitions that stay, no two have one source. -/
theorem source_injective (h : Allotted document.definitions groups map allotted)
    (hc : Classified limit tier document.definitions groups) {a b : String}
    (ha : map.aliases.contains a = false) (hb : map.aliases.contains b = false)
    (heq : map.source a = map.source b) : a = b := by
  have hdistinct : ∀ {x y source : String}, map.aliases.contains y = false →
      map.materialized.get? x = some source → map.materialized.get? y = none → source ≠ y := by
    rintro x y source hy hx - rfl
    obtain ⟨group, hpair, hout, rfl⟩ := (h.materialized x source).1 hx
    have halias := (h.aliases group.first x).2
      ⟨group, hpair, group.first_mem, fun heq => hout (heq ▸ group.first_mem)⟩
    rw [NameMap.not_contains_iff.1 hy] at halias
    cases halias
  rw [RenameMap.source, RenameMap.source] at heq
  cases hsa : map.materialized.get? a with
  | none =>
      cases hsb : map.materialized.get? b with
      | none => simpa [hsa, hsb] using heq
      | some source =>
          rw [hsa, hsb, Option.getD_none, Option.getD_some] at heq
          exact absurd heq.symm (hdistinct ha hsb hsa)
  | some source =>
      cases hsb : map.materialized.get? b with
      | none =>
          rw [hsa, hsb, Option.getD_none, Option.getD_some] at heq
          exact absurd heq (hdistinct hb hsa hsb)
      | some source' =>
          rw [hsa, hsb, Option.getD_some, Option.getD_some] at heq
          subst heq
          obtain ⟨group, hpair, _, hfirst⟩ := (h.materialized a source).1 hsa
          obtain ⟨group', hpair', _, hfirst'⟩ := (h.materialized b source).1 hsb
          have hgroup := hc.eq_of_mem (h.mem_groups hpair) (h.mem_groups hpair')
            (hfirst ▸ group.first_mem) (hfirst' ▸ group'.first_mem)
          subst hgroup
          exact h.canonical_eq hc hpair hpair'

theorem contains_definitions (h : Allotted document.definitions groups map allotted)
    (hc : Classified limit tier document.definitions groups) (hne : groups ≠ [])
    (hout : document.repoint? map = .ok out) {name : String} :
    out.definitions.contains name ↔ map.aliases.contains name = false ∧
      document.definitions.contains (map.source name) := by
  rw [NameMap.contains, h.get?_definitions hc hne hout]
  cases map.aliases.contains name with
  | true => simp
  | false => simp [NameMap.contains]

/-- The name that a definition is sent to is that of a definition afterwards. -/
theorem contains_target (h : Allotted document.definitions groups map allotted)
    (hc : Classified limit tier document.definitions groups)
    (hget : ∀ name, out.definitions.get? name = if map.aliases.contains name then none
      else (document.definitions.get? (map.source name)).map map.schema) {name : String}
    (hname : document.definitions.contains name) : out.definitions.contains (map.target name) := by
  suffices map.aliases.get? (map.target name) = none ∧
      document.definitions.contains (map.source (map.target name)) by
    rw [NameMap.contains, hget, if_neg (by simp [NameMap.contains, this.1]), Option.isSome_map]
    exact this.2
  cases halias : map.aliases.get? name with
  | some canonical =>
      obtain ⟨group, hpair, hmem, _⟩ := (h.aliases name canonical).1 halias
      rw [h.target_of_mem hc hpair hmem]
      refine ⟨h.canonical_stays hc hpair, ?_⟩
      rw [RenameMap.source]
      cases hsource : map.materialized.get? canonical with
      | some source => exact (h.created_new hc hsource).2
      | none =>
          by_cases hold : canonical ∈ group.members
          · exact hc.contains (h.mem_groups hpair) hold
          · rw [(h.materialized canonical _).2 ⟨group, hpair, hold, rfl⟩] at hsource
            cases hsource
  | none =>
      have htarget : map.target name = name := by
        rw [RenameMap.target, RenameMap.get?, halias, Option.getD_none]
      have hsource : map.source name = name := by
        rw [RenameMap.source]
        cases hcreated : map.materialized.get? name with
        | none => rfl
        | some source =>
            have hnew := (h.created_new hc hcreated).1
            rw [hname] at hnew
            cases hnew
      rw [htarget, hsource]
      exact ⟨halias, hname⟩

/-- Some definition is the source of none. -/
theorem exists_lost (h : Allotted document.definitions groups map allotted)
    (hc : Classified limit tier document.definitions groups) (hne : groups ≠ []) :
    ∃ lost, document.definitions.contains lost ∧
      ∀ name, map.aliases.contains name = false → map.source name ≠ lost := by
  obtain ⟨group, hgroup⟩ := List.exists_mem_of_ne_nil groups hne
  obtain ⟨canonical, hpair⟩ := h.exists_canonical hgroup
  obtain ⟨lost, hlost, hother⟩ :=
    exists_mem_ne (hc.nodup group hgroup) group.two_le (map.source canonical)
  refine ⟨lost, hc.contains hgroup hlost, fun name hname heq => ?_⟩
  suffices name = canonical by
    rw [this] at heq
    exact hother heq.symm
  cases hcreated : map.materialized.get? name with
  | none =>
      rw [RenameMap.source, hcreated, Option.getD_none] at heq
      by_contra hne
      have halias := (h.aliases lost canonical).2 ⟨group, hpair, hlost, heq ▸ hne⟩
      rw [← heq, NameMap.not_contains_iff.1 hname] at halias
      cases halias
  | some source =>
      rw [RenameMap.source, hcreated, Option.getD_some] at heq
      obtain ⟨group', hpair', _, hfirst⟩ := (h.materialized name source).1 hcreated
      have hmem : lost ∈ group'.members := heq ▸ hfirst ▸ group'.first_mem
      have hsame := hc.eq_of_mem hgroup (h.mem_groups hpair') hlost hmem
      subst hsame
      exact h.canonical_eq hc hpair' hpair

/-- A pass over some groups leaves fewer definitions. -/
theorem definitionCount_lt (h : Allotted document.definitions groups map allotted)
    (hc : Classified limit tier document.definitions groups) (hne : groups ≠ [])
    (hout : document.repoint? map = .ok out) :
    out.definitionCount < document.definitionCount := by
  obtain ⟨lost, hlost, hnever⟩ := h.exists_lost hc hne
  have hkept : ∀ name ∈ out.definitions.names, map.aliases.contains name = false ∧
      document.definitions.contains (map.source name) := fun name hname =>
    (h.contains_definitions hc hne hout).1 (NameMap.mem_names_iff.1 hname)
  have hnodup : (lost :: out.definitions.names.map map.source).Nodup := by
    rw [List.nodup_cons]
    refine ⟨fun hmem => ?_, ?_⟩
    · obtain ⟨name, hname, heq⟩ := List.mem_map.1 hmem
      exact hnever name (hkept name hname).1 heq
    · refine List.Nodup.map_on ?_ out.definitions.nodup_names
      intro a ha b hb heq
      exact h.source_injective hc (hkept a ha).1 (hkept b hb).1 heq
  have hsub : (lost :: out.definitions.names.map map.source) ⊆ document.definitions.names := by
    intro name hname
    rw [NameMap.mem_names_iff]
    rcases List.mem_cons.1 hname with rfl | hname
    · exact hlost
    · obtain ⟨kept, hmem, rfl⟩ := List.mem_map.1 hname
      exact (hkept kept hmem).2
  have hlen := (hnodup.subperm hsub).length_le
  rw [List.length_cons, List.length_map, NameMap.length_names, NameMap.length_names] at hlen
  exact hlen

end Allotted

/-- A pass over the groups of a document, by a plan for them, and the document that it leaves. -/
structure Pass (options : Options) (table : NamingTable) (document : Document)
    (groups : List MergeGroup) (plan : Plan) (next : Document) : Prop where
  grouped : classifyForMerge options.maxDepth options.tier options.keepSeparate
    document.definitions = .ok groups
  ne_nil : groups ≠ []
  planned : Plan.ofGroups? groups document table options.conflictPolicy = .ok plan
  repointed : document.repoint? plan.renameMap = .ok next

namespace Pass

variable {options : Options} {table : NamingTable} {document next : Document}
  {groups : List MergeGroup} {plan : Plan}

theorem classified (h : Pass options table document groups plan next) :
    Classified options.maxDepth options.tier document.definitions groups :=
  .of_classifyForMerge h.grouped

theorem exists_allotted (h : Pass options table document groups plan next) :
    ∃ allotted, Allotted document.definitions groups plan.renameMap allotted :=
  Plan.exists_allotted h.classified h.planned

theorem isEmpty_eq_false (h : Pass options table document groups plan next) :
    plan.renameMap.isEmpty = false := by
  obtain ⟨allotted, ha⟩ := h.exists_allotted
  exact ha.isEmpty_eq_false h.classified h.ne_nil

theorem exists_renamed (h : Pass options table document groups plan next) :
    ∃ name, (plan.renameMap.get? name).isSome := by
  obtain ⟨allotted, ha⟩ := h.exists_allotted
  obtain ⟨group, hgroup⟩ := List.exists_mem_of_ne_nil _ h.ne_nil
  obtain ⟨name, _, hname⟩ := ha.exists_alias h.classified hgroup
  exact ⟨name, hname⟩

theorem definitionCount_lt (h : Pass options table document groups plan next) :
    next.definitionCount < document.definitionCount := by
  obtain ⟨allotted, ha⟩ := h.exists_allotted
  exact ha.definitionCount_lt h.classified h.ne_nil h.repointed

theorem contains_target (h : Pass options table document groups plan next) {name : String}
    (hname : document.definitions.contains name) :
    next.definitions.contains (plan.renameMap.target name) := by
  obtain ⟨allotted, ha⟩ := h.exists_allotted
  exact ha.contains_target h.classified (ha.get?_definitions h.classified h.ne_nil h.repointed) hname

/-- What a pass renames are definitions, and they are definitions no longer. A definition that it
does not rename stays, and there are no others but those that it creates. -/
theorem contains_next (h : Pass options table document groups plan next) (name : String) :
    ((plan.renameMap.get? name).isSome → document.definitions.contains name) ∧
      (plan.renameMap.materialized.get? name = none → (next.definitions.contains name ↔
        plan.renameMap.get? name = none ∧ document.definitions.contains name)) := by
  obtain ⟨allotted, ha⟩ := h.exists_allotted
  constructor
  · intro hsome
    obtain ⟨canonical, hcanonical⟩ := Option.isSome_iff_exists.1 hsome
    exact ha.contains_of_get? h.classified hcanonical
  · intro hnew
    rw [ha.contains_definitions h.classified h.ne_nil h.repointed, NameMap.not_contains_iff,
      RenameMap.source, hnew]
    rfl

end Pass

/-- Passes lead from a document to one that has nothing left to merge, with these plans. -/
inductive Passes (options : Options) (table : NamingTable) :
    Document → List Plan → Document → Prop where
  | done {document : Document}
      (hgroups : classifyForMerge options.maxDepth options.tier options.keepSeparate
        document.definitions = .ok []) :
      Passes options table document [] document
  | pass {document next final : Document} {groups : List MergeGroup} {plan : Plan}
      {plans : List Plan} (hpass : Pass options table document groups plan next)
      (hrest : Passes options table next plans final) :
      Passes options table document (plan :: plans) final

namespace Progress

variable {options : Options} {table : NamingTable}

/-- A round of the loop that succeeds is a pass, and its plan is kept. -/
theorem exists_pass {progress next : Progress} {groups : List MergeGroup}
    (hgroups : classifyForMerge options.maxDepth options.tier options.keepSeparate
      progress.working.definitions = .ok groups)
    (hne : groups ≠ []) (hpass : progress.pass? options table groups = .ok next) :
    ∃ plan, Pass options table progress.working groups plan next.working ∧
      next.plans = progress.plans ++ [plan] := by
  obtain ⟨plan, hplan, hpass⟩ := bind_eq_ok.1 hpass
  obtain ⟨working, hworking, hnext⟩ := bind_eq_ok.1 hpass
  rw [pure_eq_ok] at hnext
  subst hnext
  exact ⟨plan, ⟨hgroups, hne, hplan, hworking⟩, rfl⟩

/-- A run ends as its passes do. The bound on their number is never reached. -/
theorem run?_eq_ok {progress final : Progress} {fuel : Nat}
    (hfuel : progress.working.definitionCount < fuel) :
    progress.run? options table fuel = .ok final ↔ ∃ plans,
      final.plans = progress.plans ++ plans ∧
        Passes options table progress.working plans final.working := by
  induction fuel generalizing progress with
  | zero => omega
  | succ fuel ih =>
      rw [run?, bind_eq_ok]
      constructor
      · rintro ⟨groups, hgroups, hrun⟩
        split at hrun
        case isTrue hempty =>
          rw [List.isEmpty_iff] at hempty
          rw [pure_eq_ok] at hrun
          subst hempty hrun
          exact ⟨[], (List.append_nil _).symm, .done hgroups⟩
        case isFalse hempty =>
          rw [List.isEmpty_iff] at hempty
          obtain ⟨next, hpass, hrun⟩ := bind_eq_ok.1 hrun
          obtain ⟨plan, hpass, hnext⟩ := exists_pass hgroups hempty hpass
          have hlt := hpass.definitionCount_lt
          obtain ⟨plans, hplans, hpasses⟩ := (ih (by omega)).1 hrun
          refine ⟨plan :: plans, ?_, .pass hpass hpasses⟩
          rw [hplans, hnext, List.append_assoc]
          rfl
      · rintro ⟨plans, hplans, hpasses⟩
        generalize hstart : progress.working = start at hpasses
        generalize hend : final.working = last at hpasses
        cases hpasses with
        | done hgroups =>
            rw [List.append_nil] at hplans
            refine ⟨[], hgroups, ?_⟩
            rw [List.isEmpty_nil, if_pos rfl, pure_eq_ok]
            cases progress
            cases final
            subst hstart hend hplans
            rfl
        | pass hpass hrest =>
            subst hstart hend
            refine ⟨_, hpass.grouped, ?_⟩
            have hlt := hpass.definitionCount_lt
            rw [if_neg (by simpa using hpass.ne_nil), bind_eq_ok]
            refine ⟨_, bind_eq_ok.2 ⟨_, hpass.planned, bind_eq_ok.2 ⟨_, hpass.repointed, rfl⟩⟩, ?_⟩
            refine (ih (by dsimp only; omega)).2 ⟨_, ?_, hrest⟩
            rw [hplans, List.append_assoc]
            rfl

end Progress

namespace Document

variable {document : Document} {options : Options}

/-- The state in which the passes of a consolidation end. -/
def progress? (document : Document) (options : Options) : Except Error Progress := do
  let table ← Naming.table? options.namingRules
  let (start, _) ← document.start? options
  Progress.run? { working := start } options table (start.definitionCount + 1)

/-- A consolidation has rules and an analysis that do not fail, a document to start from, and the
passes from there on. -/
theorem consolidate?_eq_ok {result : Consolidation}
    (h : document.consolidate? options = .ok result) :
    ∃ table report start extracted final, Naming.table? options.namingRules = .ok table ∧
      document.analyze? options = .ok report ∧
      document.start? options = .ok (start, extracted) ∧
      Passes options table start final.plans result.document ∧
      document.progress? options = .ok final ∧
      result.document = final.working ∧ result.renameMap = final.renameMap := by
  obtain ⟨table, htable, h⟩ := bind_eq_ok.1 h
  obtain ⟨report, hreport, h⟩ := bind_eq_ok.1 h
  obtain ⟨⟨start, extracted⟩, hstart, h⟩ := bind_eq_ok.1 h
  obtain ⟨final, hfinal, h⟩ := bind_eq_ok.1 h
  rw [pure_eq_ok] at h
  subst h
  obtain ⟨plans, hplans, hpasses⟩ := (Progress.run?_eq_ok (Nat.lt_succ_self _)).1 hfinal
  rw [List.nil_append] at hplans
  have hprogress : document.progress? options = .ok final :=
    bind_eq_ok.2 ⟨table, htable, bind_eq_ok.2 ⟨(start, extracted), hstart, hfinal⟩⟩
  exact ⟨table, report, start, extracted, final, htable, hreport, hstart, hplans ▸ hpasses,
    hprogress, rfl, rfl⟩

/-- A document that has nothing but schema definitions. -/
def ofSchemas (definitions : List (String × Json)) : Document :=
  .ofParts (.ofList definitions) .empty .empty

end Document

/-- A schema that refers to a definition, or to what a pointer names. -/
def Json.refTo (reference : String) : Json :=
  .record [("$ref", .string reference)]

end SchemaMerge
