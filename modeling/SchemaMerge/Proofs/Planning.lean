import SchemaMerge.Proofs.FreshNames
import SchemaMerge.Proofs.Groups

/-!
What a plan does to the groups of one classification. Each group is allotted a name of its own,
which is one of its members or the name of no definition (`Allotted`). So no name that others are
replaced by is replaced itself, the chains of renames have one link, and the map of a plan is the
map that was drafted (`Plan.exists_allotted`).
-/

namespace SchemaMerge

/-- The map sends the members of each group to the name that the group was allotted, and creates a
definition where that name is new. -/
structure Allotted (definitions : NameMap Json) (groups : List MergeGroup) (map : RenameMap)
    (allotted : List (MergeGroup × String)) : Prop where
  groups : allotted.map (·.1) = groups
  distinct : (allotted.map (·.2)).Nodup
  owned : ∀ group canonical, (group, canonical) ∈ allotted →
    canonical ∈ group.members ∨ definitions.contains canonical = false
  aliases : ∀ name canonical, map.aliases.get? name = some canonical ↔
    ∃ group, (group, canonical) ∈ allotted ∧ name ∈ group.members ∧ name ≠ canonical
  materialized : ∀ name source, map.materialized.get? name = some source ↔
    ∃ group, (group, name) ∈ allotted ∧ name ∉ group.members ∧ source = group.first

namespace MergeGroup

theorem first_mem (group : MergeGroup) : group.first ∈ group.members :=
  List.head_mem _

end MergeGroup

namespace Classified

variable {limit : UInt64} {tier : MergeTier} {definitions : NameMap Json} {groups : List MergeGroup}

theorem nodup_groups (h : Classified limit tier definitions groups) : groups.Nodup :=
  h.keys.imp fun hkey heq => hkey (congrArg MergeGroup.key heq)

end Classified

namespace Allotted

variable {limit : UInt64} {tier : MergeTier} {definitions : NameMap Json}
  {groups : List MergeGroup} {map : RenameMap} {allotted : List (MergeGroup × String)}

theorem mem_groups (h : Allotted definitions groups map allotted) {group : MergeGroup}
    {canonical : String} (hmem : (group, canonical) ∈ allotted) : group ∈ groups :=
  h.groups ▸ List.mem_map.2 ⟨_, hmem, rfl⟩

theorem exists_canonical (h : Allotted definitions groups map allotted) {group : MergeGroup}
    (hmem : group ∈ groups) : ∃ canonical, (group, canonical) ∈ allotted := by
  rw [← h.groups] at hmem
  obtain ⟨⟨other, canonical⟩, hpair, rfl⟩ := List.mem_map.1 hmem
  exact ⟨canonical, hpair⟩

theorem group_eq (h : Allotted definitions groups map allotted) {a b : MergeGroup}
    {canonical : String} (ha : (a, canonical) ∈ allotted) (hb : (b, canonical) ∈ allotted) :
    a = b := by
  have heq := List.inj_on_of_nodup_map h.distinct ha hb rfl
  exact congrArg Prod.fst heq

theorem canonical_eq (h : Allotted definitions groups map allotted)
    (hc : Classified limit tier definitions groups) {group : MergeGroup} {c d : String}
    (ha : (group, c) ∈ allotted) (hb : (group, d) ∈ allotted) : c = d := by
  have hnodup : (allotted.map (·.1)).Nodup := h.groups ▸ hc.nodup_groups
  have heq := List.inj_on_of_nodup_map hnodup ha hb rfl
  exact congrArg Prod.snd heq

/-- A member of a group is sent to the name of that group and to no other. -/
theorem target_of_mem (h : Allotted definitions groups map allotted)
    (hc : Classified limit tier definitions groups) {group : MergeGroup} {canonical name : String}
    (hpair : (group, canonical) ∈ allotted) (hname : name ∈ group.members) :
    map.target name = canonical := by
  rw [RenameMap.target, RenameMap.get?]
  by_cases heq : name = canonical
  · have hnone : map.aliases.get? name = none := by
      cases hfound : map.aliases.get? name with
      | none => rfl
      | some other =>
          obtain ⟨group', hpair', hname', hne⟩ := (h.aliases name other).1 hfound
          have hgroup := hc.eq_of_mem (h.mem_groups hpair) (h.mem_groups hpair') hname hname'
          subst hgroup
          exact absurd (heq.trans (h.canonical_eq hc hpair hpair')) hne
    rw [hnone, Option.getD_none, heq]
  · rw [(h.aliases name canonical).2 ⟨group, hpair, hname, heq⟩, Option.getD_some]

/-- What is replaced is the name of a definition. -/
theorem contains_of_get? (h : Allotted definitions groups map allotted)
    (hc : Classified limit tier definitions groups) {name canonical : String}
    (hname : map.get? name = some canonical) : definitions.contains name := by
  obtain ⟨group, hpair, hmem, _⟩ := (h.aliases name canonical).1 hname
  exact hc.contains (h.mem_groups hpair) hmem

/-- A name that others are replaced by stays. -/
theorem canonical_stays (h : Allotted definitions groups map allotted)
    (hc : Classified limit tier definitions groups) {group : MergeGroup} {canonical : String}
    (hpair : (group, canonical) ∈ allotted) : map.aliases.get? canonical = none := by
  cases hfound : map.aliases.get? canonical with
  | none => rfl
  | some other =>
      obtain ⟨group', hpair', hname', hne⟩ := (h.aliases canonical other).1 hfound
      rcases h.owned group canonical hpair with hmem | hnew
      · have hgroup := hc.eq_of_mem (h.mem_groups hpair) (h.mem_groups hpair') hmem hname'
        subst hgroup
        exact absurd (h.canonical_eq hc hpair hpair') hne
      · have hold := hc.contains (h.mem_groups hpair') hname'
        rw [hnew] at hold
        cases hold

end Allotted

namespace Draft

/-- A group that shares no name gets the one that it asks for, with a number if another group has
that, or a definition that is no member. -/
theorem assign?_unshared {draft : Draft} {definitions : NameMap Json} {policy : ConflictPolicy}
    {group : MergeGroup} {requested canonical : String} {conflict : Option NameConflict}
    (hshares : draft.shares group requested = false)
    (h : draft.assign? definitions policy group requested = .ok (canonical, conflict)) :
    GivenName (fun name => draft.taken definitions group.members name) requested canonical := by
  unfold assign? at h
  simp only [hshares, Bool.false_or] at h
  split at h
  case isTrue hfree =>
    cases h
    exact .asked (by simpa using hfree)
  case isFalse hheld =>
    cases policy with
    | fail => cases h
    | suffix =>
        cases h
        have htaken : ∀ name, draft.taken definitions group.members name →
            name ∈ draft.claims.names ++ definitions.names := by
          intro name hname
          rw [List.mem_append, NameMap.mem_names_iff, NameMap.mem_names_iff]
          rw [taken, Bool.or_eq_true, Bool.and_eq_true] at hname
          exact hname.imp id And.left
        refine givenName_freeName (by simpa using hheld) htaken ?_
        rw [List.length_append, NameMap.length_names, NameMap.length_names]
        omega

/-- No group shares a name if no other one has its key. -/
theorem assign?_given {draft : Draft} {definitions : NameMap Json} {policy : ConflictPolicy}
    {group : MergeGroup} {requested canonical : String} {conflict : Option NameConflict}
    (hkeys : ∀ name claim, draft.claims.get? name = some claim → claim.key ≠ group.key)
    (h : draft.assign? definitions policy group requested = .ok (canonical, conflict)) :
    GivenName (fun name => draft.taken definitions group.members name) requested canonical := by
  refine assign?_unshared ?_ h
  rw [shares]
  cases hfound : draft.claims.get? requested with
  | none => rfl
  | some claim => exact decide_eq_false (hkeys requested claim hfound)

theorem get?_foldl_insert (merged : List String) (canonical : String) (aliases : NameMap String)
    (name : String) :
    (merged.foldl (fun aliases name => aliases.insert name canonical) aliases).get? name =
      if name ∈ merged then some canonical else aliases.get? name := by
  induction merged generalizing aliases with
  | nil => simp
  | cons head rest ih =>
      rw [List.foldl_cons, ih, NameMap.get?_insert]
      by_cases hrest : name ∈ rest
      · simp [hrest]
      · by_cases hhead : name = head <;> simp [hrest, hhead]

theorem get?_create_materialized {draft : Draft} (definitions : NameMap Json) (group : MergeGroup)
    {canonical : String} (hnew : draft.materialized.get? canonical = none) (name : String) :
    (draft.create definitions group canonical).materialized.get? name =
      if name = canonical ∧ canonical ∉ group.members then some group.first
      else draft.materialized.get? name := by
  rw [create]
  by_cases hmem : canonical ∈ group.members
  · simp [hmem]
  · have hnew' : ¬draft.materialized.contains canonical := by
      simp [NameMap.contains, hnew]
    rw [if_neg (by simp [hmem, hnew'])]
    simp only [NameMap.get?_insert, hmem, not_false_eq_true, and_true]

/-- All that planning a group does to a draft in which no other group has its key. -/
structure Added (definitions : NameMap Json) (draft : Draft) (group : MergeGroup)
    (canonical : String) (next : Draft) : Prop where
  unclaimed : draft.claims.get? canonical = none
  owned : canonical ∈ group.members ∨ definitions.contains canonical = false
  claims : ∀ name, next.claims.get? name =
    if name = canonical then some ⟨group.key, group.members⟩ else draft.claims.get? name
  aliases : ∀ name, next.aliases.get? name =
    if name ∈ group.members ∧ name ≠ canonical then some canonical else draft.aliases.get? name
  materialized : draft.materialized.get? canonical = none → ∀ name,
    next.materialized.get? name =
      if name = canonical ∧ canonical ∉ group.members then some group.first
      else draft.materialized.get? name

theorem exists_added {draft next : Draft} {definitions : NameMap Json} {table : NamingTable}
    {policy : ConflictPolicy} {group : MergeGroup}
    (hkeys : ∀ name claim, draft.claims.get? name = some claim → claim.key ≠ group.key)
    (h : draft.addGroup definitions table policy group = .ok next) :
    ∃ canonical conflict, draft.assign? definitions policy group
      (Naming.choose table group.members) = .ok (canonical, conflict) ∧
        Added definitions draft group canonical next := by
  obtain ⟨⟨canonical, conflict⟩, hassign, hnext⟩ := bind_eq_ok.1 h
  have hfree := Bool.eq_false_iff.2 (assign?_given hkeys hassign).free
  rw [taken, Bool.or_eq_false_iff, Bool.and_eq_false_iff] at hfree
  obtain ⟨hunclaimed, howned⟩ := hfree
  rw [pure_eq_ok] at hnext
  subst hnext
  have hcreate : ∀ draft : Draft, (draft.create definitions group canonical).claims = draft.claims ∧
      (draft.create definitions group canonical).aliases = draft.aliases := by
    intro draft
    rw [create]
    split <;> exact ⟨rfl, rfl⟩
  have hclaim : ∀ draft : Draft, draft.claims.contains canonical = false →
      draft.claim group canonical =
        { draft with claims := draft.claims.insert canonical ⟨group.key, group.members⟩ } := by
    intro draft hnew
    rw [claim, if_neg (by simp [hnew])]
  rw [hclaim _ (by rwa [merge, (hcreate _).1])]
  refine ⟨canonical, conflict, hassign, NameMap.not_contains_iff.1 hunclaimed, ?_,
    fun name => ?_, fun name => ?_, fun hnew name => ?_⟩
  · exact howned.symm.imp (by simp) id
  · rw [NameMap.get?_insert, merge, (hcreate _).1]
  · rw [merge, get?_foldl_insert, (hcreate _).2]
    simp only [List.mem_filter, decide_eq_true_eq]
  · rw [merge]
    refine get?_create_materialized definitions group ?_ name
    exact hnew

/-- What holds of a draft whose groups have been allotted names: besides the map, every name is
claimed by its group. -/
structure Sound (definitions : NameMap Json) (groups : List MergeGroup) (draft : Draft)
    (allotted : List (MergeGroup × String)) : Prop where
  drafted : Allotted definitions groups ⟨draft.aliases, draft.materialized⟩ allotted
  claims : ∀ name claim, draft.claims.get? name = some claim ↔
    ∃ group : MergeGroup, (group, name) ∈ allotted ∧ claim = ⟨group.key, group.members⟩

theorem sound_start (definitions : NameMap Json) : Sound definitions [] {} [] where
  drafted :=
    { groups := rfl
      distinct := .nil
      owned := by simp
      aliases := by simp
      materialized := by simp }
  claims := by simp

variable {limit : UInt64} {tier : MergeTier} {definitions : NameMap Json}

theorem exists_mem_concat {allotted : List (MergeGroup × String)} {group : MergeGroup}
    {canonical name : String} {p : MergeGroup → Prop} :
    (∃ other, (other, name) ∈ allotted ++ [(group, canonical)] ∧ p other) ↔
      (∃ other, (other, name) ∈ allotted ∧ p other) ∨ name = canonical ∧ p group := by
  constructor
  · rintro ⟨other, hother, hp⟩
    rcases List.mem_append.1 hother with hother | hother
    · exact .inl ⟨other, hother, hp⟩
    · cases List.mem_singleton.1 hother
      exact .inr ⟨rfl, hp⟩
  · rintro (⟨other, hother, hp⟩ | ⟨rfl, hp⟩)
    · exact ⟨other, List.mem_append_left _ hother, hp⟩
    · exact ⟨group, List.mem_append_right _ (List.mem_singleton.2 rfl), hp⟩

namespace Sound

variable {groups done rest : List MergeGroup} {group : MergeGroup} {draft : Draft}
  {allotted : List (MergeGroup × String)}

/-- What is created has the name of a group. -/
theorem get?_materialized_of_unclaimed (hs : Sound definitions done draft allotted)
    {canonical : String} (hunclaimed : draft.claims.get? canonical = none) :
    draft.materialized.get? canonical = none := by
  rw [Option.eq_none_iff_forall_ne_some]
  intro source hsource
  obtain ⟨other, hother, _⟩ := (hs.drafted.materialized canonical source).1 hsource
  rw [(hs.claims canonical _).2 ⟨other, hother, rfl⟩] at hunclaimed
  cases hunclaimed

variable (hc : Classified limit tier definitions groups) (hgroups : groups = done ++ group :: rest)
  (hs : Sound definitions done draft allotted)

include hc hgroups hs

/-- A group that is allotted a name comes earlier. -/
theorem mem_of_allotted {other : MergeGroup} {canonical : String}
    (hother : (other, canonical) ∈ allotted) : other ∈ groups ∧ other ≠ group := by
  have hdone := hs.drafted.mem_groups hother
  have hpair := hgroups ▸ hc.keys
  rw [List.pairwise_append] at hpair
  refine ⟨by simp [hgroups, hdone], fun heq => ?_⟩
  exact hpair.2.2 other hdone group List.mem_cons_self (congrArg MergeGroup.key heq)

/-- The next group has another key than those before. -/
theorem key_ne (name : String) (claim : Claim) (hclaim : draft.claims.get? name = some claim) :
    claim.key ≠ group.key := by
  intro hkey
  obtain ⟨other, hother, rfl⟩ := (hs.claims name claim).1 hclaim
  obtain ⟨hmem, hne⟩ := hs.mem_of_allotted hc hgroups hother
  exact hne (hc.eq_of_key_eq hmem (by simp [hgroups]) hkey)

/-- The members of the next group have no other name yet. -/
theorem get?_aliases_of_mem (name : String) (hname : name ∈ group.members) :
    draft.aliases.get? name = none := by
  rw [Option.eq_none_iff_forall_ne_some]
  intro target htarget
  obtain ⟨other, hother, hname', _⟩ := (hs.drafted.aliases name target).1 htarget
  obtain ⟨hmem, hne⟩ := hs.mem_of_allotted hc hgroups hother
  exact hne (hc.eq_of_mem hmem (by simp [hgroups]) hname' hname)

/-- One more group is allotted a name. -/
theorem addGroup {next : Draft} {table : NamingTable} {policy : ConflictPolicy}
    (h : draft.addGroup definitions table policy group = .ok next) :
    ∃ canonical conflict, draft.assign? definitions policy group
      (Naming.choose table group.members) = .ok (canonical, conflict) ∧
        Sound definitions (done ++ [group]) next (allotted ++ [(group, canonical)]) := by
  obtain ⟨canonical, conflict, hassign, ha⟩ := exists_added (hs.key_ne hc hgroups) h
  have hfresh : ∀ other, (other, canonical) ∉ allotted := by
    intro other hother
    have hclaim := (hs.claims canonical _).2 ⟨other, hother, rfl⟩
    rw [ha.unclaimed] at hclaim
    cases hclaim
  have hnew := hs.get?_materialized_of_unclaimed ha.unclaimed
  have hstays := hs.get?_aliases_of_mem hc hgroups
  refine ⟨canonical, conflict, hassign, ⟨?_, ?_, ?_, ?_, ?_⟩, ?_⟩
  · rw [List.map_append, hs.drafted.groups]
    rfl
  · rw [List.map_append, List.map_singleton, ← List.concat_eq_append, List.nodup_concat]
    refine ⟨fun hmem => ?_, hs.drafted.distinct⟩
    obtain ⟨⟨other, name⟩, hpair, rfl⟩ := List.mem_map.1 hmem
    exact hfresh other hpair
  · intro other name hpair
    rcases List.mem_append.1 hpair with hpair | hpair
    · exact hs.drafted.owned other name hpair
    · cases List.mem_singleton.1 hpair
      exact ha.owned
  · intro name target
    rw [ha.aliases, exists_mem_concat, ← hs.drafted.aliases]
    by_cases hname : name ∈ group.members ∧ name ≠ canonical
    · rw [if_pos hname, hstays name hname.1]
      refine ⟨fun heq => .inr ?_, fun hor => ?_⟩
      · cases heq
        exact ⟨rfl, hname⟩
      · rcases hor with hnone | ⟨rfl, _⟩
        · cases hnone
        · rfl
    · rw [if_neg hname]
      refine ⟨.inl, fun hor => hor.resolve_right ?_⟩
      rintro ⟨rfl, hmem⟩
      exact hname hmem
  · intro name source
    rw [ha.materialized hnew, exists_mem_concat, ← hs.drafted.materialized]
    by_cases hname : name = canonical ∧ canonical ∉ group.members
    · obtain ⟨rfl, hout⟩ := hname
      rw [if_pos ⟨rfl, hout⟩, hnew]
      simp [hout, eq_comm]
    · rw [if_neg hname]
      refine ⟨.inl, fun hor => hor.resolve_right ?_⟩
      rintro ⟨rfl, hout, _⟩
      exact hname ⟨rfl, hout⟩
  · intro name found
    rw [ha.claims, exists_mem_concat, ← hs.claims]
    by_cases hname : name = canonical
    · subst hname
      rw [if_pos rfl, ha.unclaimed]
      simp [eq_comm]
    · rw [if_neg hname]
      simp [hname]

end Sound

end Draft

/-- Chains of one link are resolved as they are. -/
theorem resolveChains_eq_self {raw : NameMap String}
    (hstays : ∀ name target, raw.get? name = some target → raw.get? target = none) :
    resolveChains raw = .ok raw := by
  have hmoved : (raw.entries.filter fun entry => entry.1 ≠ entry.2) = raw.entries := by
    rw [List.filter_eq_self]
    rintro ⟨name, target⟩ hentry
    have hget := NameMap.get?_eq_some_iff.2 hentry
    refine decide_eq_true fun heq : name = target => ?_
    have hnone := hstays name target hget
    rw [← heq, hget] at hnone
    cases hnone
  have hends : raw.entries.mapM (fun entry => do
      return (entry.1, ← chainEnd raw [entry.1] entry.2 (raw.size + 1))) = .ok raw.entries := by
    rw [mapM_eq_ok, List.forall₂_same]
    rintro ⟨name, target⟩ hentry
    have hnone := hstays name target (NameMap.get?_eq_some_iff.2 hentry)
    simp only [chainEnd, hnone]
    rfl
  rw [resolveChains]
  simp only [hmoved, hends]
  exact congrArg Except.ok (NameMap.ofList_entries raw)

namespace Plan

variable {limit : UInt64} {tier : MergeTier} {groups : List MergeGroup} {document : Document}

/-- Drafted chains of renames have one link, so the drafted map is the map of the plan. -/
theorem resolveChains_of_sound {draft : Draft} {allotted : List (MergeGroup × String)}
    (hc : Classified limit tier document.definitions groups)
    (hs : draft.Sound document.definitions groups allotted) :
    resolveChains draft.aliases = .ok draft.aliases := by
  refine resolveChains_eq_self fun name target htarget => ?_
  obtain ⟨group, hgroup, _⟩ := (hs.drafted.aliases name target).1 htarget
  exact hs.drafted.canonical_stays hc hgroup

/-- A name that can be assigned to a group in some draft. -/
def Assignable (definitions : NameMap Json) (table : NamingTable) (policy : ConflictPolicy)
    (pair : MergeGroup × String) : Prop :=
  ∃ (draft : Draft) (conflict : Option NameConflict), draft.assign? definitions policy pair.1
    (Naming.choose table pair.1.members) = .ok (pair.2, conflict)

theorem exists_sound {table : NamingTable} {policy : ConflictPolicy} {draft : Draft}
    (hc : Classified limit tier document.definitions groups)
    (h : groups.foldlM (Draft.addGroup document.definitions table policy) {} = .ok draft) :
    ∃ allotted, draft.Sound document.definitions groups allotted ∧
      ∀ pair ∈ allotted, Assignable document.definitions table policy pair := by
  refine foldlM_invariant
    (fun done draft => ∃ allotted, Draft.Sound document.definitions done draft allotted ∧
      ∀ pair ∈ allotted, Assignable document.definitions table policy pair)
    ?_ ⟨[], Draft.sound_start _, by simp⟩ h
  rintro done group rest draft next hgroups ⟨allotted, hs, hassigned⟩ hnext
  obtain ⟨canonical, conflict, hassign, hs'⟩ := hs.addGroup hc hgroups hnext
  refine ⟨_, hs', fun pair hpair => ?_⟩
  rcases List.mem_append.1 hpair with hpair | hpair
  · exact hassigned pair hpair
  · cases List.mem_singleton.1 hpair
    exact ⟨draft, conflict, hassign⟩

/-- A plan for the groups of a classification allots every group a name that it was assigned. -/
theorem exists_allotted_assignable {table : NamingTable} {policy : ConflictPolicy} {plan : Plan}
    (hc : Classified limit tier document.definitions groups)
    (h : Plan.ofGroups? groups document table policy = .ok plan) :
    ∃ allotted, Allotted document.definitions groups plan.renameMap allotted ∧
      ∀ pair ∈ allotted, Assignable document.definitions table policy pair := by
  obtain ⟨draft, hdraft, hplan⟩ := bind_eq_ok.1 h
  obtain ⟨renameMap, hmap, hplan⟩ := bind_eq_ok.1 hplan
  obtain ⟨allotted, hs, hassigned⟩ := exists_sound hc hdraft
  rw [RenameMap.ofAliases?, resolveChains_of_sound hc hs] at hmap
  rw [pure_eq_ok] at hplan
  subst hplan
  cases hmap
  exact ⟨allotted, hs.drafted, hassigned⟩

/-- A plan for the groups of a classification allots every group a name. -/
theorem exists_allotted {table : NamingTable} {policy : ConflictPolicy} {plan : Plan}
    (hc : Classified limit tier document.definitions groups)
    (h : Plan.ofGroups? groups document table policy = .ok plan) :
    ∃ allotted, Allotted document.definitions groups plan.renameMap allotted := by
  obtain ⟨allotted, ha, _⟩ := exists_allotted_assignable hc h
  exact ⟨allotted, ha⟩

/-- When names that are taken get a number, there is always a plan. -/
theorem exists_ofGroups?_suffix (table : NamingTable)
    (hc : Classified limit tier document.definitions groups) :
    ∃ plan, Plan.ofGroups? groups document table .suffix = .ok plan := by
  have hdraft : ∀ (groups : List MergeGroup) (draft : Draft), ∃ final,
      groups.foldlM (Draft.addGroup document.definitions table .suffix) draft = .ok final := by
    intro groups
    induction groups with
    | nil => exact fun draft => ⟨draft, rfl⟩
    | cons group groups ih =>
        intro draft
        obtain ⟨assigned, hassigned⟩ : ∃ assigned, draft.assign? document.definitions .suffix group
            (Naming.choose table group.members) = .ok assigned := by
          unfold Draft.assign?
          dsimp only
          split <;> exact ⟨_, rfl⟩
        obtain ⟨final, hfinal⟩ := ih _
        exact ⟨final, bind_eq_ok.2 ⟨_, bind_eq_ok.2 ⟨assigned, hassigned, rfl⟩, hfinal⟩⟩
  obtain ⟨draft, hfinal⟩ := hdraft groups {}
  obtain ⟨allotted, hs, _⟩ := exists_sound hc hfinal
  refine ⟨_, bind_eq_ok.2 ⟨draft, hfinal,
    bind_eq_ok.2 ⟨⟨draft.aliases, draft.materialized⟩, ?_, rfl⟩⟩⟩
  rw [RenameMap.ofAliases?, resolveChains_of_sound hc hs]
  rfl

end Plan

end SchemaMerge
