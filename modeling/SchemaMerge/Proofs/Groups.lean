import Mathlib.Data.List.Pairwise
import SchemaMerge.Group
import SchemaMerge.Proofs.NameMaps
import SchemaMerge.Proofs.Outcome

/-!
What a classification promises. The members of a group are the definitions that have its key
(`mem_members_iff`), no name stands in a group twice, and two groups have two keys. What is left of
the groups when names are kept separate is still `Classified`: a definition has one key, so these
groups have no member in common (`Classified.eq_of_mem`).
-/

namespace SchemaMerge

section Gather

variable {κ α : Type} [DecidableEq κ]

/-- The items listed with a key are those that have it, in their order. -/
theorem eq_filter_of_mem_gather {items : List (κ × α)} {key : κ} {gathered : List α}
    (h : (key, gathered) ∈ gather items) :
    gathered = (items.filter fun item => item.1 = key).map (·.2) := by
  rw [← lookup_gather, lookup_of_mem_of_nodup (nodup_keys_gather items) h, Option.getD_some]

theorem mem_gathered_iff {items : List (κ × α)} {key : κ} {gathered : List α}
    (h : (key, gathered) ∈ gather items) {x : α} : x ∈ gathered ↔ (key, x) ∈ items := by
  rw [eq_filter_of_mem_gather h]
  simp

/-- The lists of several items are gathered under some key. -/
theorem mem_several_iff {items : List (κ × α)} {gathered : List α} :
    gathered ∈ ((gather items).map (·.2)).filter (fun gathered => 1 < gathered.length) ↔
      (∃ key, (key, gathered) ∈ gather items) ∧ 1 < gathered.length := by
  simp

theorem exists_mem_gather {items : List (κ × α)} {key : κ} {x : α} (h : (key, x) ∈ items) :
    ∃ gathered, (key, gathered) ∈ gather items := by
  have hmem : x ∈ ((gather items).lookup key).getD [] := by
    rw [lookup_gather]
    simpa using h
  cases hfound : (gather items).lookup key with
  | none => simp [hfound] at hmem
  | some gathered =>
      obtain ⟨before, after, hgathered, _⟩ := List.lookup_eq_some_iff.1 hfound
      exact ⟨gathered, by simp [hgathered]⟩

end Gather

/-- Where some items are left out and something of the others is kept, so is its list. -/
theorem map_filterMap_sublist {α β γ : Type} {f : α → Option β} {g : β → γ} {p : α → γ}
    (hf : ∀ item image, f item = some image → g image = p item) (items : List α) :
    ((items.filterMap f).map g).Sublist (items.map p) := by
  induction items with
  | nil => exact .slnil
  | cons head rest ih =>
      cases himage : f head with
      | none =>
          rw [List.filterMap_cons_none himage]
          exact ih.cons _
      | some image =>
          rw [List.filterMap_cons_some himage, List.map_cons, List.map_cons, hf head image himage]
          exact ih.cons_cons _

/-- Items that differ in something are known by it. -/
theorem eq_of_pairwise_ne {α β : Type} {items : List α} {f : α → β}
    (h : items.Pairwise fun a b => f a ≠ f b) {a b : α} (ha : a ∈ items) (hb : b ∈ items)
    (hf : f a = f b) : a = b :=
  List.inj_on_of_nodup_map (List.pairwise_map.2 h) ha hb hf

/-- Of two items or more, one is not the given one. -/
theorem exists_mem_ne {α : Type} {items : List α} (hnodup : items.Nodup) (htwo : 2 ≤ items.length)
    (item : α) : ∃ other ∈ items, other ≠ item := by
  by_contra hall
  push Not at hall
  have hsub : items ⊆ [item] := fun other hother => List.mem_singleton.2 (hall other hother)
  have hlen := (hnodup.subperm hsub).length_le
  rw [List.length_singleton] at hlen
  omega

theorem two_le_length {α : Type} {items : List α} {a b : α} (hne : a ≠ b) (ha : a ∈ items)
    (hb : b ∈ items) : 2 ≤ items.length := by
  have hpair : [a, b].Nodup := by simpa using hne
  have hsub : [a, b] ⊆ items := List.cons_subset.2 ⟨ha, List.cons_subset.2 ⟨hb, List.nil_subset _⟩⟩
  exact (hpair.subperm hsub).length_le

variable {limit : UInt64} {definitions : NameMap Json}

/-- At a tier whose groups can be merged, a definition is an alias or has a shape. -/
theorem Key.ofDefinition_toTier (limit : UInt64) (tier : MergeTier) (name : String)
    (schema : Json) :
    ofDefinition limit tier.toTier name schema =
      match aliasTarget? schema with
      | some target => .ok (.aliasOf target)
      | none => ofShape limit tier name schema := by
  cases tier <;> rfl

/-- The content of a definition at a tier whose groups can be merged. -/
theorem Key.ofDefinition_eq_content_iff {tier : MergeTier} {name text : String}
    {schema : Json} :
    ofDefinition limit tier.toTier name schema = .ok (.content text) ↔
      aliasTarget? schema = none ∧ tooDeep? limit (SchemaRef.ofName name) schema = none ∧
        (normalForm tier name schema).compact = text := by
  rw [ofDefinition_toTier]
  cases aliasTarget? schema with
  | some target => simp
  | none =>
      unfold ofShape
      cases tooDeep? limit (SchemaRef.ofName name) schema <;> simp

/-- A content is listed with a name iff it is the key of the definition of that name. -/
theorem mem_contents_iff {tier : Tier} {keyed : List (String × String)}
    (h : contents limit tier definitions = .ok keyed) {text name : String} :
    (text, name) ∈ keyed ↔ ∃ body, definitions.get? name = some body ∧
      Key.ofDefinition limit tier name body = .ok (.content text) := by
  obtain ⟨keys, hkeys, hkeyed⟩ := bind_eq_ok.1 h
  rw [pure_eq_ok] at hkeyed
  subst hkeyed
  have hall := mapM_eq_ok.1 hkeys
  constructor
  · intro hmem
    obtain ⟨⟨key, other⟩, hkey, hsome⟩ := List.mem_filterMap.1 hmem
    cases key with
    | aliasOf target => simp at hsome
    | content found =>
        obtain ⟨rfl, rfl⟩ : found = text ∧ other = name := by simpa using hsome
        obtain ⟨⟨entryName, body⟩, hentry, hof⟩ := exists_left_of_forall₂ hall hkey
        obtain ⟨key, hok, heq⟩ := bind_eq_ok.1 hof
        cases heq
        exact ⟨body, NameMap.get?_eq_some_iff.2 hentry, hok⟩
  · rintro ⟨body, hbody, hok⟩
    obtain ⟨pair, hpair, hof⟩ := exists_right_of_forall₂ hall (NameMap.get?_eq_some_iff.1 hbody)
    obtain ⟨key, hkey, heq⟩ := bind_eq_ok.1 hof
    cases heq
    rw [hok] at hkey
    cases hkey
    exact List.mem_filterMap.2 ⟨_, hpair, rfl⟩

/-- The contents come in the order of the definitions. -/
theorem names_contents_sublist {tier : Tier} {keyed : List (String × String)}
    (h : contents limit tier definitions = .ok keyed) :
    (keyed.map (·.2)).Sublist definitions.names := by
  obtain ⟨keys, hkeys, hkeyed⟩ := bind_eq_ok.1 h
  rw [pure_eq_ok] at hkeyed
  subst hkeyed
  have hnames : keys.map (·.2) = definitions.names := by
    refine (List.forall₂_eq_eq_eq ▸ ?_ : definitions.entries.map (·.1) = keys.map (·.2)).symm
    rw [List.forall₂_map_left_iff, List.forall₂_map_right_iff]
    refine (mapM_eq_ok.1 hkeys).imp fun entry pair hof => ?_
    obtain ⟨key, _, heq⟩ := bind_eq_ok.1 hof
    cases heq
    rfl
  refine hnames ▸ map_filterMap_sublist ?_ keys
  rintro ⟨key, name⟩ image himage
  cases key with
  | content text =>
      cases himage
      rfl
  | aliasOf target => cases himage

theorem nodup_contents {tier : Tier} {keyed : List (String × String)}
    (h : contents limit tier definitions = .ok keyed) : (keyed.map (·.2)).Nodup :=
  (names_contents_sublist h).nodup definitions.nodup_names

/-- Definitions can be classified iff each of them has a key. -/
theorem exists_classify_eq_ok {tier : Tier} :
    (∃ groups, classify limit tier definitions = .ok groups) ↔
      ∀ name body, definitions.get? name = some body →
        ∃ key, Key.ofDefinition limit tier name body = .ok key := by
  have hkeys : (∃ groups, classify limit tier definitions = .ok groups) ↔
      ∃ keys, definitions.entries.mapM (fun entry => do
        return (← Key.ofDefinition limit tier entry.1 entry.2, entry.1)) = .ok keys := by
    constructor
    · rintro ⟨groups, hgroups⟩
      obtain ⟨keyed, hkeyed, _⟩ := bind_eq_ok.1 hgroups
      obtain ⟨keys, hkeys, _⟩ := bind_eq_ok.1 hkeyed
      exact ⟨keys, hkeys⟩
    · rintro ⟨keys, hkeys⟩
      exact ⟨_, bind_eq_ok.2 ⟨_, bind_eq_ok.2 ⟨keys, hkeys, rfl⟩, rfl⟩⟩
  rw [hkeys, exists_mapM_eq_ok]
  constructor
  · intro hall name body hbody
    obtain ⟨pair, hpair⟩ := hall (name, body) (NameMap.get?_eq_some_iff.1 hbody)
    obtain ⟨key, hkey, _⟩ := bind_eq_ok.1 hpair
    exact ⟨key, hkey⟩
  · intro hall entry hentry
    obtain ⟨key, hkey⟩ := hall entry.1 entry.2 (NameMap.get?_eq_some_iff.2 hentry)
    exact ⟨_, bind_eq_ok.2 ⟨key, hkey, rfl⟩⟩

section Groups

variable {tier : Tier} {groups : List Group} (h : classify limit tier definitions = .ok groups)

include h

/-- The groups are what has been gathered under one key, where that is more than one name. -/
theorem exists_contents : ∃ keyed, contents limit tier definitions = .ok keyed ∧
    ∀ group, group ∈ groups ↔ group.tier = tier ∧ (group.key, group.members) ∈ gather keyed := by
  obtain ⟨keyed, hkeyed, hgroups⟩ := bind_eq_ok.1 h
  rw [pure_eq_ok] at hgroups
  subst hgroups
  refine ⟨keyed, hkeyed, fun group => ?_⟩
  rw [List.mem_filterMap]
  constructor
  · rintro ⟨entry, hentry, hsome⟩
    split at hsome
    case isFalse => cases hsome
    case isTrue =>
      cases hsome
      exact ⟨rfl, hentry⟩
  · rintro ⟨rfl, hentry⟩
    exact ⟨_, hentry, dif_pos group.two_le⟩

/-- The members of a group are the definitions that have its key. -/
theorem mem_members_iff {group : Group} (hgroup : group ∈ groups) {name : String} :
    name ∈ group.members ↔ ∃ body, definitions.get? name = some body ∧
      Key.ofDefinition limit tier name body = .ok (.content group.key) := by
  obtain ⟨keyed, hkeyed, hmem⟩ := exists_contents h
  rw [mem_gathered_iff ((hmem group).1 hgroup).2, mem_contents_iff hkeyed]

theorem nodup_members {group : Group} (hgroup : group ∈ groups) : group.members.Nodup := by
  obtain ⟨keyed, hkeyed, hmem⟩ := exists_contents h
  rw [eq_filter_of_mem_gather ((hmem group).1 hgroup).2]
  exact (List.filter_sublist.map _).nodup (nodup_contents hkeyed)

/-- The groups come in the order in which their keys are met. -/
theorem entries_sublist : ∃ keyed, contents limit tier definitions = .ok keyed ∧
    (groups.map fun group => (group.key, group.members)).Sublist (gather keyed) := by
  obtain ⟨keyed, hkeyed, hgroups⟩ := bind_eq_ok.1 h
  rw [pure_eq_ok] at hgroups
  subst hgroups
  refine ⟨keyed, hkeyed, ?_⟩
  conv_rhs => rw [← List.map_id (gather keyed)]
  refine map_filterMap_sublist (fun entry group hgroup => ?_) (gather keyed)
  split at hgroup
  case isFalse => cases hgroup
  case isTrue =>
    cases hgroup
    rfl

/-- Every group has a key of its own. -/
theorem pairwise_keys : groups.Pairwise fun a b => a.key ≠ b.key := by
  obtain ⟨keyed, _, hsublist⟩ := entries_sublist h
  have hkeys := (List.pairwise_map.1 (nodup_keys_gather keyed)).sublist hsublist
  rwa [List.pairwise_map] at hkeys

/-- A key that two definitions have is that of a group. -/
theorem exists_group {a b text : String} (hne : a ≠ b) {u v : Json}
    (hu : definitions.get? a = some u) (hv : definitions.get? b = some v)
    (ha : Key.ofDefinition limit tier a u = .ok (.content text))
    (hb : Key.ofDefinition limit tier b v = .ok (.content text)) :
    ∃ group ∈ groups, group.key = text := by
  obtain ⟨keyed, hkeyed, hmem⟩ := exists_contents h
  obtain ⟨names, hnames⟩ := exists_mem_gather ((mem_contents_iff hkeyed).2 ⟨u, hu, ha⟩)
  have htwo : 2 ≤ names.length :=
    two_le_length hne
      ((mem_gathered_iff hnames).2 ((mem_contents_iff hkeyed).2 ⟨u, hu, ha⟩))
      ((mem_gathered_iff hnames).2 ((mem_contents_iff hkeyed).2 ⟨v, hv, hb⟩))
  exact ⟨⟨tier, names, text, htwo⟩, (hmem _).2 ⟨rfl, hnames⟩, rfl⟩

end Groups

theorem setAside_sublist (members set : List String) : (setAside members set).Sublist members := by
  rw [setAside]
  split
  · exact List.filter_sublist
  · exact .refl _

theorem foldl_setAside_sublist (sets : List (List String)) (members : List String) :
    (sets.foldl setAside members).Sublist members := by
  induction sets generalizing members with
  | nil => exact .refl _
  | cons set sets ih => exact (ih _).trans (setAside_sublist members set)

/-- The groups come from one classification of the definitions, with members left out or not. -/
structure Classified (limit : UInt64) (tier : MergeTier) (definitions : NameMap Json)
    (groups : List MergeGroup) : Prop where
  keyed : ∀ group ∈ groups, ∀ name ∈ group.members, ∃ body, definitions.get? name = some body ∧
    Key.ofDefinition limit tier.toTier name body = .ok (.content group.key)
  nodup : ∀ group ∈ groups, group.members.Nodup
  keys : groups.Pairwise fun a b => a.key ≠ b.key

/-- What is to be merged of a group of which the given members are left. -/
def Group.left? (tier : MergeTier) (group : Group) (members : List String) : Option MergeGroup :=
  if h : 2 ≤ members.length then some ⟨tier, members, group.key, h⟩ else none

theorem Group.of_left? {tier : MergeTier} {group : Group} {members : List String}
    {left : MergeGroup} (h : group.left? tier members = some left) :
    left.key = group.key ∧ left.members = members := by
  unfold left? at h
  split at h
  case isFalse => cases h
  case isTrue =>
    cases h
    exact ⟨rfl, rfl⟩

theorem classifyForMerge_eq (limit : UInt64) (tier : MergeTier) (keepSeparate : List (List String))
    (definitions : NameMap Json) : classifyForMerge limit tier keepSeparate definitions =
      (classify limit tier.toTier definitions).map fun found =>
        found.filterMap fun group => group.left? tier (keepSeparate.foldl setAside group.members) := by
  unfold classifyForMerge
  cases classify limit tier.toTier definitions <;> rfl

/-- The groups that may be merged are what is left of those found. -/
theorem exists_found {tier : MergeTier} {keepSeparate : List (List String)}
    {groups : List MergeGroup}
    (h : classifyForMerge limit tier keepSeparate definitions = .ok groups) :
    ∃ found, classify limit tier.toTier definitions = .ok found ∧
      groups =
        found.filterMap fun group => group.left? tier (keepSeparate.foldl setAside group.members) := by
  rw [classifyForMerge_eq] at h
  cases hfound : classify limit tier.toTier definitions with
  | error e =>
      rw [hfound] at h
      cases h
  | ok found =>
      rw [hfound] at h
      cases h
      exact ⟨found, rfl, rfl⟩

theorem Classified.of_classifyForMerge {tier : MergeTier} {keepSeparate : List (List String)}
    {groups : List MergeGroup}
    (h : classifyForMerge limit tier keepSeparate definitions = .ok groups) :
    Classified limit tier definitions groups := by
  obtain ⟨found, hfound, rfl⟩ := exists_found h
  refine ⟨fun group hgroup name hname => ?_, fun group hgroup => ?_, ?_⟩
  · obtain ⟨whole, hwhole, hleft⟩ := List.mem_filterMap.1 hgroup
    obtain ⟨hkey, hmembers⟩ := Group.of_left? hleft
    rw [hmembers] at hname
    rw [hkey, ← mem_members_iff hfound hwhole]
    exact (foldl_setAside_sublist keepSeparate whole.members).subset hname
  · obtain ⟨whole, hwhole, hleft⟩ := List.mem_filterMap.1 hgroup
    rw [(Group.of_left? hleft).2]
    exact (foldl_setAside_sublist keepSeparate whole.members).nodup (nodup_members hfound hwhole)
  · rw [List.pairwise_filterMap]
    refine (pairwise_keys hfound).imp ?_
    intro a b hne group hgroup other hother
    rwa [(Group.of_left? hgroup).1, (Group.of_left? hother).1]

namespace Classified

variable {tier : MergeTier} {groups : List MergeGroup}

theorem contains (h : Classified limit tier definitions groups) {group : MergeGroup}
    (hgroup : group ∈ groups) {name : String} (hname : name ∈ group.members) :
    definitions.contains name := by
  obtain ⟨body, hbody, _⟩ := h.keyed group hgroup name hname
  exact NameMap.contains_iff.2 ⟨body, hbody⟩

theorem eq_of_key_eq (h : Classified limit tier definitions groups) {a b : MergeGroup}
    (ha : a ∈ groups) (hb : b ∈ groups) (hkey : a.key = b.key) : a = b :=
  eq_of_pairwise_ne h.keys ha hb hkey

/-- A definition is in one group only. -/
theorem eq_of_mem (h : Classified limit tier definitions groups) {a b : MergeGroup}
    (ha : a ∈ groups) (hb : b ∈ groups) {name : String} (hname : name ∈ a.members)
    (hname' : name ∈ b.members) : a = b := by
  obtain ⟨body, hbody, hkey⟩ := h.keyed a ha name hname
  obtain ⟨body', hbody', hkey'⟩ := h.keyed b hb name hname'
  rw [hbody] at hbody'
  cases hbody'
  rw [hkey] at hkey'
  exact h.eq_of_key_eq ha hb (by simpa using hkey')

end Classified

end SchemaMerge
