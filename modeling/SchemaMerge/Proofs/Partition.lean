import SchemaMerge.Proofs.TierRefinement

/-!
A classification as a partition. Two definitions are in one group exactly when neither is an alias
and they have one key, so the groups are the classes of equal keys that have more than one element.
What they look like follows from how they are gathered: the definitions come in the order of their
names, each key is met first at the first member of its group, and so the members of a group ascend
and the groups come in the order of their first members (`pairwise_gather`). The whole is
`classify_partitions`.
-/

namespace SchemaMerge

/-- The smallest member. -/
def Group.first (group : Group) : String :=
  group.members.head (List.ne_nil_of_length_pos (Nat.lt_of_lt_of_le Nat.zero_lt_two group.two_le))

/-- The groups partition the definitions that are no aliases and share their keys with others. -/
structure Partitions (limit : UInt64) (tier : Tier) (definitions : NameMap Json)
    (groups : List Group) : Prop where
  /-- Two definitions are in one group iff neither is an alias and they have one key. -/
  together : ∀ {a b : String} {u v : Json}, definitions.get? a = some u →
    definitions.get? b = some v → a ≠ b →
      ((∃ group ∈ groups, a ∈ group.members ∧ b ∈ group.members) ↔
        Key.aliasTarget? u = none ∧ Key.aliasTarget? v = none ∧
          Key.ofDefinition limit tier a u = Key.ofDefinition limit tier b v)
  defined : ∀ group ∈ groups, ∀ name ∈ group.members, definitions.contains name
  several : ∀ group ∈ groups, 2 ≤ group.members.length
  disjoint : groups.Pairwise fun a b => a.members.Disjoint b.members
  ascending : ∀ group ∈ groups, group.members.Pairwise (· < ·)
  ordered : groups.Pairwise fun a b => a.first < b.first

/-- Gathering keeps the order in which keys are met: if the items are in order, the first item of a
key comes before all items of a key that is met later. -/
theorem pairwise_gather {κ α : Type} [DecidableEq κ] {R : α → α → Prop} {items : List (κ × α)}
    (h : items.Pairwise fun a b => R a.2 b.2) :
    (gather items).Pairwise fun a b => ∀ first ∈ a.2.head?, ∀ item ∈ b.2, R first item := by
  induction items with
  | nil => exact .nil
  | cons head rest ih =>
      obtain ⟨key, item⟩ := head
      obtain ⟨hhead, hrest⟩ := List.pairwise_cons.1 h
      unfold gather
      refine .cons (fun entry hentry first hfirst other hother => ?_) ((ih hrest).filter _)
      obtain rfl : item = first := Option.some.inj hfirst
      exact hhead _ ((mem_gathered_iff (List.mem_filter.1 hentry).1).1 hother)

/-- A definition has a content unless it is an alias. -/
theorem Key.exists_content_iff {limit : UInt64} {tier : Tier} {name : String} {schema : Json}
    {key : Key} (h : ofDefinition limit tier name schema = .ok key) :
    (∃ text, key = .content text) ↔ aliasTarget? schema = none := by
  unfold ofDefinition at h
  cases halias : aliasTarget? schema with
  | some target =>
      rw [halias] at h
      cases h
      simp
  | none =>
      rw [halias] at h
      have hshape : ∀ tier, ofShape limit tier name schema = .ok key → ∃ text, key = .content text := by
        intro tier hkey
        unfold ofShape at hkey
        split at hkey
        · cases hkey
        · cases hkey
          exact ⟨_, rfl⟩
      refine iff_of_true ?_ rfl
      cases tier with
      | exact => exact hshape .exact h
      | structural => exact hshape .structural h
      | structuralLoose => exact hshape .structuralLoose h
      | attributes =>
          cases h
          exact ⟨_, rfl⟩

variable {limit : UInt64} {tier : Tier} {definitions : NameMap Json} {groups : List Group}
  (h : classify limit tier definitions = .ok groups)

include h

/-- What is classified together, and what is not. -/
theorem mem_common_iff {a b : String} {u v : Json} (hu : definitions.get? a = some u)
    (hv : definitions.get? b = some v) (hne : a ≠ b) :
    (∃ group ∈ groups, a ∈ group.members ∧ b ∈ group.members) ↔
      Key.aliasTarget? u = none ∧ Key.aliasTarget? v = none ∧
        Key.ofDefinition limit tier a u = Key.ofDefinition limit tier b v := by
  constructor
  · rintro ⟨group, hgroup, ha, hb⟩
    have hkeyed : ∀ {name schema}, definitions.get? name = some schema → name ∈ group.members →
        Key.ofDefinition limit tier name schema = .ok (.content group.key) := by
      intro name schema hschema hname
      obtain ⟨body, hbody, hkey⟩ := (mem_members_iff h hgroup).1 hname
      rw [hschema] at hbody
      cases hbody
      exact hkey
    have hkeyA := hkeyed hu ha
    have hkeyB := hkeyed hv hb
    exact ⟨(Key.exists_content_iff hkeyA).1 ⟨_, rfl⟩, (Key.exists_content_iff hkeyB).1 ⟨_, rfl⟩,
      hkeyA.trans hkeyB.symm⟩
  · rintro ⟨hplain, _, hkeys⟩
    obtain ⟨key, hkeyA⟩ := exists_classify_eq_ok.1 ⟨groups, h⟩ a u hu
    obtain ⟨text, rfl⟩ := (Key.exists_content_iff hkeyA).2 hplain
    have hkeyB := hkeys.symm.trans hkeyA
    obtain ⟨group, hgroup, rfl⟩ := exists_group h hne hu hv hkeyA hkeyB
    exact ⟨group, hgroup, (mem_members_iff h hgroup).2 ⟨u, hu, hkeyA⟩,
      (mem_members_iff h hgroup).2 ⟨v, hv, hkeyB⟩⟩

/-- Names do not count twice: a definition has one key, and so it is in one group at most. -/
theorem pairwise_disjoint_members :
    groups.Pairwise fun a b => a.members.Disjoint b.members := by
  refine (pairwise_keys h).imp_of_mem ?_
  intro a b ha hb hne name hnameA hnameB
  obtain ⟨u, hu, hkeyA⟩ := (mem_members_iff h ha).1 hnameA
  obtain ⟨v, hv, hkeyB⟩ := (mem_members_iff h hb).1 hnameB
  rw [hu] at hv
  cases hv
  rw [hkeyA] at hkeyB
  exact hne (by simpa using hkeyB)

/-- What is gathered of the definitions comes in the order of their names. -/
theorem exists_ordered_contents : ∃ keyed : List (String × String),
    (groups.map fun group => (group.key, group.members)).Sublist (gather keyed) ∧
      keyed.Pairwise fun a b => a.2 < b.2 := by
  obtain ⟨keyed, hkeyed, hsublist⟩ := entries_sublist h
  exact ⟨keyed, hsublist,
    List.pairwise_map.1 (definitions.pairwise_names.sublist (names_contents_sublist hkeyed))⟩

theorem ascending_members {group : Group} (hgroup : group ∈ groups) :
    group.members.Pairwise (· < ·) := by
  obtain ⟨keyed, hsublist, hordered⟩ := exists_ordered_contents h
  have hentry := hsublist.subset (List.mem_map_of_mem hgroup)
  rw [eq_filter_of_mem_gather hentry, List.pairwise_map]
  exact hordered.filter _

theorem ordered_groups : groups.Pairwise fun a b => a.first < b.first := by
  obtain ⟨keyed, hsublist, hordered⟩ := exists_ordered_contents h
  have hgathered := (pairwise_gather (R := (· < ·)) hordered).sublist hsublist
  rw [List.pairwise_map] at hgathered
  refine hgathered.imp fun {a b} hlt => ?_
  exact hlt a.first (List.head?_eq_some_head _) b.first (List.head_mem _)

/-- A classification that succeeds is the partition of the definitions by their keys, in order and
without aliases and definitions that stand alone. -/
theorem classify_partitions : Partitions limit tier definitions groups where
  together := mem_common_iff h
  defined group hgroup name hname := by
    obtain ⟨body, hbody, _⟩ := (mem_members_iff h hgroup).1 hname
    exact NameMap.contains_iff.2 ⟨body, hbody⟩
  several group _ := group.two_le
  disjoint := pairwise_disjoint_members h
  ascending _ := ascending_members h
  ordered := ordered_groups h

omit h

/-- Two pairs that alternate, an alias, and a definition that stands alone. -/
def alternating : NameMap Json :=
  .ofList [
    ("A", .record [("type", .string "integer")]),
    ("B", .record [("type", .string "string")]),
    ("C", .record [("description", .string "counts"), ("type", .string "integer")]),
    ("D", .record [("$ref", .string "#/components/schemas/A")]),
    ("E", .record [("title", .string "text"), ("type", .string "string")]),
    ("F", .record [("type", .string "boolean")])]

set_option maxRecDepth 100000 in
theorem classify_partitions_alternating : ∃ groups,
    classify 64 .structural alternating = .ok groups ∧
    groups.map Group.members = [["A", "C"], ["B", "E"]] ∧
    Partitions 64 .structural alternating groups := by
  obtain ⟨groups, hgroups, hmembers⟩ : ∃ groups, classify 64 .structural alternating = .ok groups ∧
      groups.map Group.members = [["A", "C"], ["B", "E"]] :=
    exists_ok_of_toOption (by decide +kernel)
  exact ⟨groups, hgroups, hmembers, classify_partitions hgroups⟩

end SchemaMerge
