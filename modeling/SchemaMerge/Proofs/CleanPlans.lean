import SchemaMerge.Proofs.Passes

/-!
Plans without conflicts. The groups of one classification can always be planned when names that are
taken get a number, and the plan then keeps the groups apart (`Plan.Clean`): each has one name of
its own, which no definition outside of the group has. What carries this through the planning is
that a draft knows which names have been allotted (`Draft.Sound`), that each of them was given in its
turn (`Draft.Given`), and that the counts agree with the map (`Draft.Tallied`).
-/

namespace SchemaMerge

/-- The name that a group has after a plan. -/
def Plan.nameOf (plan : Plan) (group : MergeGroup) : String :=
  plan.renameMap.target group.first

/-- A group cannot have a name that was given before, or that of a definition which is no member. -/
def MergeGroup.Barred (group : MergeGroup) (definitions : NameMap Json) (given : List String)
    (name : String) : Prop :=
  name ∈ given ∨ definitions.contains name ∧ name ∉ group.members

structure Plan.Clean (plan : Plan) (definitions : NameMap Json) (table : NamingTable)
    (groups : List MergeGroup) : Prop where
  /-- All members of a group have its name afterwards. -/
  merged : ∀ group ∈ groups, ∀ name ∈ group.members, plan.renameMap.target name = plan.nameOf group
  /-- The names that go are those of members that have another name than their group. -/
  renamed : ∀ name, (plan.renameMap.get? name).isSome ↔
    ∃ group ∈ groups, name ∈ group.members ∧ name ≠ plan.nameOf group
  /-- Different groups have different names. -/
  distinct : (groups.map plan.nameOf).Nodup
  /-- The name of a group is that of a member or of no definition. -/
  owned : ∀ group ∈ groups,
    plan.nameOf group ∈ group.members ∨ definitions.contains (plan.nameOf group) = false
  /-- The names of groups that no definition has are created. -/
  created : ∀ name, plan.renameMap.materialized.contains name ↔
    ∃ group ∈ groups, plan.nameOf group = name ∧ definitions.contains name = false
  /-- What is created is a copy of a member. -/
  source : ∀ group ∈ groups, ∀ source,
    plan.renameMap.materialized.get? (plan.nameOf group) = some source → source ∈ group.members
  /-- The groups are given their names one after the other. -/
  given : ∀ before group after, groups = before ++ group :: after →
    GivenName (group.Barred definitions (before.map plan.nameOf))
      (Naming.choose table group.members) (plan.nameOf group)
  groupsMerged : plan.stats.groupsMerged = groups.length
  schemasRemoved : plan.stats.schemasRemoved = plan.renameMap.size
  schemasAdded : plan.stats.schemasAdded = plan.renameMap.materialized.size

namespace Draft

variable {limit : UInt64} {tier : MergeTier} {definitions : NameMap Json} {table : NamingTable}
  {policy : ConflictPolicy} {groups done rest : List MergeGroup} {group : MergeGroup}
  {draft next : Draft} {canonical : String} {conflict : Option NameConflict}
  {allotted : List (MergeGroup × String)}

/-- What a draft counts is what it has. -/
structure Tallied (draft : Draft) (done : List MergeGroup) : Prop where
  groupsMerged : draft.stats.groupsMerged = done.length
  schemasRemoved : draft.stats.schemasRemoved = draft.aliases.size
  schemasAdded : draft.stats.schemasAdded = draft.materialized.size

theorem size_foldl_insert {merged : List String} (hnodup : merged.Nodup) {aliases : NameMap String}
    (hnew : ∀ name ∈ merged, aliases.get? name = none) (canonical : String) :
    (merged.foldl (fun aliases name => aliases.insert name canonical) aliases).size =
      aliases.size + merged.length := by
  induction merged generalizing aliases with
  | nil => rfl
  | cons head rest ih =>
      obtain ⟨hhead, hrest⟩ := List.nodup_cons.1 hnodup
      have hothers : ∀ name ∈ rest, (aliases.insert head canonical).get? name = none := by
        intro name hname
        have hne : name ≠ head := fun heq => hhead (heq ▸ hname)
        rw [NameMap.get?_insert, if_neg hne]
        exact hnew name (List.mem_cons_of_mem _ hname)
      rw [List.foldl_cons, ih hrest hothers, NameMap.size_insert _ (hnew head List.mem_cons_self),
        List.length_cons]
      omega

/-- What is counted as added is what is created. -/
theorem schemasAdded_create (h : draft.stats.schemasAdded = draft.materialized.size)
    (definitions : NameMap Json) (group : MergeGroup) (canonical : String) :
    (draft.create definitions group canonical).stats.schemasAdded =
      (draft.create definitions group canonical).materialized.size := by
  unfold Draft.create
  split
  case isTrue => exact h
  case isFalse hneeded =>
    have hnew : draft.materialized.get? canonical = none := by
      rw [not_or, Bool.not_eq_true, NameMap.not_contains_iff] at hneeded
      exact hneeded.2
    show draft.stats.schemasAdded + 1 = _
    rw [NameMap.size_insert _ hnew, h]

namespace Tallied

theorem create (h : draft.Tallied done) (definitions : NameMap Json) (group : MergeGroup)
    (canonical : String) : (draft.create definitions group canonical).Tallied done := by
  have hadded := schemasAdded_create h.schemasAdded definitions group canonical
  refine ⟨?_, ?_, hadded⟩
  · rw [Draft.create]
    split <;> exact h.groupsMerged
  · rw [Draft.create]
    split <;> exact h.schemasRemoved

theorem merge (h : draft.Tallied done) (definitions : NameMap Json) (hnodup : group.members.Nodup)
    (hstays : ∀ name ∈ group.members, draft.aliases.get? name = none) (canonical : String) :
    (draft.merge definitions group canonical).Tallied (done ++ [group]) := by
  have hmerged : ∀ name ∈ group.members.filter fun name => name ≠ canonical,
      draft.aliases.get? name = none :=
    fun name hname => hstays name (List.mem_filter.1 hname).1
  refine ⟨?_, ?_, h.schemasAdded⟩
  · rw [List.length_append, ← h.groupsMerged]
    rfl
  · rw [Draft.merge, size_foldl_insert (hnodup.filter _) hmerged, ← h.schemasRemoved]

theorem claim (h : draft.Tallied done) (group : MergeGroup) (canonical : String) :
    (draft.claim group canonical).Tallied done := by
  rw [Draft.claim]
  split <;> exact ⟨h.groupsMerged, h.schemasRemoved, h.schemasAdded⟩

/-- One more group is counted. -/
theorem addGroup (h : draft.Tallied done) (hnodup : group.members.Nodup)
    (hstays : ∀ name ∈ group.members, draft.aliases.get? name = none)
    (hnext : draft.addGroup definitions table policy group = .ok next) :
    next.Tallied (done ++ [group]) := by
  obtain ⟨⟨canonical, conflict⟩, _, hnext⟩ := bind_eq_ok.1 hnext
  rw [pure_eq_ok] at hnext
  subst hnext
  have hnoted : Tallied { draft with conflicts := draft.conflicts ++ conflict.toList } done :=
    ⟨h.groupsMerged, h.schemasRemoved, h.schemasAdded⟩
  have hcreated := hnoted.create definitions group canonical
  refine (hcreated.merge definitions hnodup (fun name hname => ?_) canonical).claim group canonical
  rw [Draft.create]
  split <;> exact hstays name hname

end Tallied

/-- What holds of each item of a list, given the items before it, holds of one more item if it does
so after all the others. -/
theorem forall_split_concat {α : Type} {p : List α → α → Prop} {items : List α} {last : α}
    (h : ∀ before item after, items = before ++ item :: after → p before item)
    (hlast : p items last) (before : List α) (item : α) (after : List α)
    (hsplit : items ++ [last] = before ++ item :: after) : p before item := by
  rcases after.eq_nil_or_concat with rfl | ⟨after, other, rfl⟩
  · obtain ⟨rfl, hitem⟩ := List.append_inj' hsplit rfl
    cases hitem
    exact hlast
  · rw [List.concat_eq_append, ← List.cons_append, ← List.append_assoc] at hsplit
    exact h before item after (List.append_inj' hsplit rfl).1

/-- Each group has been given its name in its turn. -/
def Given (definitions : NameMap Json) (table : NamingTable)
    (allotted : List (MergeGroup × String)) : Prop :=
  ∀ before group canonical after, allotted = before ++ (group, canonical) :: after →
    GivenName (group.Barred definitions (before.map (·.2)))
      (Naming.choose table group.members) canonical

theorem Given.concat (h : Given definitions table allotted)
    (hlast : GivenName (group.Barred definitions (allotted.map (·.2)))
      (Naming.choose table group.members) canonical) :
    Given definitions table (allotted ++ [(group, canonical)]) := by
  intro before other name after hsplit
  exact forall_split_concat
    (p := fun before (pair : MergeGroup × String) =>
      GivenName (pair.1.Barred definitions (before.map (·.2)))
        (Naming.choose table pair.1.members) pair.2)
    (fun before pair after => h before pair.1 pair.2 after) hlast before (other, name) after hsplit

/-- What a draft takes to be in use is what was given before or belongs to no member. -/
theorem Sound.taken_iff (hs : Sound definitions done draft allotted) (group : MergeGroup)
    (name : String) : draft.taken definitions group.members name ↔
      group.Barred definitions (allotted.map (·.2)) name := by
  have hclaimed : draft.claims.contains name ↔ name ∈ allotted.map (·.2) := by
    rw [NameMap.contains_iff, List.mem_map]
    constructor
    · rintro ⟨claim, hclaim⟩
      obtain ⟨other, hother, _⟩ := (hs.claims name claim).1 hclaim
      exact ⟨(other, name), hother, rfl⟩
    · rintro ⟨⟨other, _⟩, hother, rfl⟩
      exact ⟨_, (hs.claims _ _).2 ⟨other, hother, rfl⟩⟩
  rw [taken, MergeGroup.Barred, Bool.or_eq_true, Bool.and_eq_true, decide_eq_true_eq, hclaimed]

/-- Planning gives the groups their names in turn and counts what it does. -/
theorem exists_given (hc : Classified limit tier definitions groups)
    (h : groups.foldlM (Draft.addGroup definitions table policy) {} = .ok draft) :
    ∃ allotted, Sound definitions groups draft allotted ∧ Given definitions table allotted ∧
      draft.Tallied groups := by
  refine foldlM_invariant
    (fun done draft => ∃ allotted, Sound definitions done draft allotted ∧
      Given definitions table allotted ∧ draft.Tallied done)
    ?_ ⟨[], sound_start _, by simp [Given], ⟨rfl, rfl, rfl⟩⟩ h
  rintro done group rest draft next hgroups ⟨allotted, hs, hgiven, htallied⟩ hnext
  obtain ⟨canonical, conflict, hassign, hs'⟩ := hs.addGroup hc hgroups hnext
  have hlast := assign?_given (hs.key_ne hc hgroups) hassign
  simp only [hs.taken_iff] at hlast
  have hnodup := hc.nodup group (by simp [hgroups])
  exact ⟨_, hs', hgiven.concat hlast,
    htallied.addGroup hnodup (hs.get?_aliases_of_mem hc hgroups) hnext⟩

end Draft

namespace Allotted

variable {limit : UInt64} {tier : MergeTier} {definitions : NameMap Json} {table : NamingTable}
  {groups : List MergeGroup} {plan : Plan} {allotted : List (MergeGroup × String)}
  (ha : Allotted definitions groups plan.renameMap allotted)
  (hc : Classified limit tier definitions groups)

include ha hc

/-- What a group was allotted is its name after the plan. -/
theorem nameOf_eq {group : MergeGroup} {canonical : String}
    (hpair : (group, canonical) ∈ allotted) : plan.nameOf group = canonical :=
  ha.target_of_mem hc hpair group.first_mem

theorem mem_allotted {group : MergeGroup} (hgroup : group ∈ groups) :
    (group, plan.nameOf group) ∈ allotted := by
  obtain ⟨canonical, hpair⟩ := ha.exists_canonical hgroup
  rwa [ha.nameOf_eq hc hpair]

theorem map_nameOf {part : List (MergeGroup × String)} (hpart : ∀ pair ∈ part, pair ∈ allotted) :
    (part.map (·.1)).map plan.nameOf = part.map (·.2) := by
  rw [List.map_map]
  exact List.map_congr_left fun pair hpair => ha.nameOf_eq hc (hpart pair hpair)

/-- The plan is clean if besides the names were given in turn and the counts are right. -/
theorem clean (hgiven : Draft.Given definitions table allotted)
    (hmerged : plan.stats.groupsMerged = groups.length)
    (hremoved : plan.stats.schemasRemoved = plan.renameMap.size)
    (hadded : plan.stats.schemasAdded = plan.renameMap.materialized.size) :
    plan.Clean definitions table groups where
  merged group hgroup name hname := ha.target_of_mem hc (ha.mem_allotted hc hgroup) hname
  renamed name := by
    constructor
    · intro hname
      obtain ⟨canonical, hcanonical⟩ := Option.isSome_iff_exists.1 hname
      obtain ⟨group, hpair, hmember, hne⟩ := (ha.aliases name canonical).1 hcanonical
      rw [← ha.nameOf_eq hc hpair] at hne
      exact ⟨group, ha.mem_groups hpair, hmember, hne⟩
    · rintro ⟨group, hgroup, hmember, hne⟩
      have hcanonical := (ha.aliases name _).2 ⟨group, ha.mem_allotted hc hgroup, hmember, hne⟩
      exact Option.isSome_iff_exists.2 ⟨_, hcanonical⟩
  distinct := by
    rw [← ha.groups, ha.map_nameOf hc fun pair => id]
    exact ha.distinct
  owned group hgroup := ha.owned group _ (ha.mem_allotted hc hgroup)
  created name := by
    rw [NameMap.contains_iff]
    constructor
    · rintro ⟨source, hsource⟩
      obtain ⟨group, hpair, hforeign, _⟩ := (ha.materialized name source).1 hsource
      exact ⟨group, ha.mem_groups hpair, ha.nameOf_eq hc hpair,
        (ha.owned group name hpair).resolve_left hforeign⟩
    · rintro ⟨group, hgroup, rfl, hnew⟩
      refine ⟨group.first, (ha.materialized _ _).2
        ⟨group, ha.mem_allotted hc hgroup, fun hmember => ?_, rfl⟩⟩
      rw [hc.contains hgroup hmember] at hnew
      cases hnew
  source group hgroup source hsource := by
    obtain ⟨other, hother, _, rfl⟩ := (ha.materialized _ source).1 hsource
    rw [ha.group_eq hother (ha.mem_allotted hc hgroup)]
    exact group.first_mem
  given before group after hsplit := by
    rw [← ha.groups] at hsplit
    obtain ⟨earlier, rest, rfl, rfl, hrest⟩ := List.map_eq_append_iff.1 hsplit
    obtain ⟨⟨_, canonical⟩, later, rfl, rfl, _⟩ := List.map_eq_cons_iff.1 hrest
    rw [ha.map_nameOf hc fun pair hpair => List.mem_append_left _ hpair,
      ha.nameOf_eq hc (List.mem_append_right _ List.mem_cons_self)]
    exact hgiven earlier _ canonical later rfl
  groupsMerged := hmerged
  schemasRemoved := hremoved
  schemasAdded := hadded

end Allotted

namespace Plan

variable {limit : UInt64} {tier : MergeTier} {groups : List MergeGroup} {document : Document}

/-- The groups of one classification can be planned, and the plan is clean. -/
theorem exists_ofGroups?_clean {keepSeparate : List (List String)} (table : NamingTable)
    (h : classifyForMerge limit tier keepSeparate document.definitions = .ok groups) :
    ∃ plan, Plan.ofGroups? groups document table .suffix = .ok plan ∧
      plan.Clean document.definitions table groups := by
  have hc := Classified.of_classifyForMerge h
  obtain ⟨plan, hplan⟩ := exists_ofGroups?_suffix table hc
  refine ⟨plan, hplan, ?_⟩
  obtain ⟨draft, hdraft, hmade⟩ := bind_eq_ok.1 hplan
  obtain ⟨renameMap, hmap, hmade⟩ := bind_eq_ok.1 hmade
  obtain ⟨allotted, hs, hgiven, htallied⟩ := Draft.exists_given hc hdraft
  rw [RenameMap.ofAliases?, resolveChains_of_sound hc hs] at hmap
  rw [pure_eq_ok] at hmade
  subst hmade
  cases hmap
  exact hs.drafted.clean hc hgiven htallied.groupsMerged htallied.schemasRemoved
    htallied.schemasAdded

/-- Two groups that ask for one name, and a definition that has the first number. -/
def pairs : Document :=
  .ofSchemas [
    ("Pair2", .record [("type", .string "null")]),
    ("PairA", .record [("type", .string "string")]),
    ("PairB", .record [("type", .string "string")]),
    ("PairC", .record [("type", .string "number")]),
    ("PairD", .record [("type", .string "number")])]

def pairNames : NamingTable :=
  [.fixed "pairs" (Text.startsWith "Pair") "Pair"]

set_option maxRecDepth 100000 in
theorem exists_ofGroups?_clean_pairs : ∃ groups plan,
    classifyForMerge 64 .structural [] pairs.definitions = .ok groups ∧
    Plan.ofGroups? groups pairs pairNames .suffix = .ok plan ∧
    plan.Clean pairs.definitions pairNames groups ∧
    groups.map plan.nameOf = ["Pair", "Pair3"] := by
  obtain ⟨groups, hgroups, hnames⟩ : ∃ groups,
      classifyForMerge 64 .structural [] pairs.definitions = .ok groups ∧
        (Plan.ofGroups? groups pairs pairNames .suffix).toOption.map
          (fun plan => groups.map plan.nameOf) = some ["Pair", "Pair3"] :=
    exists_ok_of_bind (by decide +kernel)
  obtain ⟨plan, hplan, hclean⟩ := exists_ofGroups?_clean pairNames hgroups
  rw [hplan] at hnames
  exact ⟨groups, plan, hgroups, hplan, hclean, Option.some.inj hnames⟩

end Plan

end SchemaMerge
