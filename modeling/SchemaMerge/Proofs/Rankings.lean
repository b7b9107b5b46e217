import Mathlib.Data.List.Lex
import Mathlib.Data.String.Basic
import SchemaMerge.Consolidate
import SchemaMerge.Proofs.Partition

/-!
What the report on a document says of its groups. At each tier it lists the first groups in order of
their sizes and then of their members (`Group.Precedes`); since no two groups have one list of
members, this order is strict, and no group that is left out is larger than one that is listed. The
groups have no member in common, so the sum of their sizes counts definitions, and it grows from
tier to tier because every group is part of a looser one. For the same reason a group has the same
members as a group at a stricter tier iff no two of its members are apart there
(`splitAt_iff`), which is what makes comparing lists of members find the groups that are new. The
whole is `Document.analyze?_ranks`.
-/

namespace SchemaMerge

namespace Group

/-- A group comes before another one in a ranking: it is larger, or as large with a smaller list of
members. -/
def Precedes (a b : Group) : Prop :=
  b.size < a.size ∨ a.size = b.size ∧ a.members < b.members

/-- Two members of the group are in no common one of the given groups. -/
def SplitAt (strict : List Group) (group : Group) : Prop :=
  ∃ a ∈ group.members, ∃ b ∈ group.members, a ≠ b ∧
    ¬∃ other ∈ strict, a ∈ other.members ∧ b ∈ other.members

instance (strict : List Group) (group : Group) : Decidable (group.SplitAt strict) :=
  inferInstanceAs (Decidable (∃ a ∈ group.members, ∃ b ∈ group.members, a ≠ b ∧
    ¬∃ other ∈ strict, a ∈ other.members ∧ b ∈ other.members))

/-- What is listed of a group. -/
def summary (group : Group) : GroupSummary :=
  ⟨group.size, group.members⟩

end Group

namespace TierSummary

/-- The summary is that of the given groups. -/
structure Ranks (summary : TierSummary) (definitions : NameMap Json) (topN : UInt64)
    (groups : List Group) : Prop where
  groupCount : summary.groupCount = groups.length
  /-- What is listed are the first groups in order. -/
  topGroups : ∃ ranked : List Group, ranked.Perm groups ∧ ranked.Pairwise Group.Precedes ∧
    summary.topGroups = (ranked.take (min topN.toNat summary.groupCount)).map Group.summary
  /-- No group that is left out is larger than one that is listed. -/
  unlisted : ∀ group ∈ groups, group.summary ∉ summary.topGroups →
    ∀ listed ∈ summary.topGroups, group.size ≤ listed.size
  /-- So many definitions are in a group. -/
  schemaCount : summary.schemaCount = (definitions.names.filter fun name =>
    ∃ group ∈ groups, name ∈ group.members).length

theorem ranksBefore_iff {a b : Group} : ranksBefore a b ↔
    b.size < a.size ∨ a.size = b.size ∧ a.members ≤ b.members := by
  rw [ranksBefore, List.lex_eq_decide_lex]
  simp only [Bool.or_eq_true, Bool.and_eq_true, decide_eq_true_eq, Bool.not_eq_true',
    decide_eq_false_iff_not, ← not_lt]
  rfl

theorem ranksBefore_total (a b : Group) : ranksBefore a b ∨ ranksBefore b a := by
  rw [ranksBefore_iff, ranksBefore_iff]
  rcases lt_trichotomy a.size b.size with hlt | heq | hlt
  · exact .inr (.inl hlt)
  · exact (le_total a.members b.members).imp (fun hle => .inr ⟨heq, hle⟩)
      fun hle => .inr ⟨heq.symm, hle⟩
  · exact .inl (.inl hlt)

theorem ranksBefore_trans (a b c : Group) (hab : ranksBefore a b) (hbc : ranksBefore b c) :
    ranksBefore a c := by
  rw [ranksBefore_iff] at hab hbc ⊢
  rcases hab with hab | ⟨hab, hle⟩ <;> rcases hbc with hbc | ⟨hbc, hle'⟩
  · exact .inl (hbc.trans hab)
  · exact .inl (hbc ▸ hab)
  · exact .inl (hab ▸ hbc)
  · exact .inr ⟨hab.trans hbc, hle.trans hle'⟩

/-- Groups with different members come one before the other. -/
theorem precedes_of_ranksBefore {a b : Group} (h : ranksBefore a b) (hne : a.members ≠ b.members) :
    a.Precedes b := by
  refine (ranksBefore_iff.1 h).imp id fun hsame => ?_
  exact ⟨hsame.1, lt_of_le_of_ne hsame.2 hne⟩

end TierSummary

variable {limit : UInt64} {tier : Tier} {definitions : NameMap Json} {groups : List Group}

section Groups

variable (h : classify limit tier definitions = .ok groups)

include h

/-- A definition is in one group at most. -/
theorem group_unique {a b : Group} (ha : a ∈ groups) (hb : b ∈ groups) {name : String}
    (hname : name ∈ a.members) (hname' : name ∈ b.members) : a = b := by
  obtain ⟨body, hbody, hkey⟩ := (mem_members_iff h ha).1 hname
  obtain ⟨body', hbody', hkey'⟩ := (mem_members_iff h hb).1 hname'
  rw [hbody] at hbody'
  cases hbody'
  rw [hkey, Except.ok.injEq, Key.content.injEq] at hkey'
  exact eq_of_pairwise_ne (pairwise_keys h) ha hb hkey'

theorem pairwise_members_ne : groups.Pairwise fun a b => a.members ≠ b.members := by
  refine (pairwise_disjoint_members h).imp fun {a b} hdisjoint heq => ?_
  exact hdisjoint (List.head_mem _) (heq ▸ List.head_mem _ : a.first ∈ b.members)

/-- Sorted by `ranksBefore`, the groups come strictly one before the other. -/
theorem pairwise_precedes : (sortBy TierSummary.ranksBefore groups).Pairwise Group.Precedes := by
  have hsorted := sortBy_pairwise TierSummary.ranksBefore_total TierSummary.ranksBefore_trans groups
  have hne : (sortBy TierSummary.ranksBefore groups).Pairwise fun a b => a.members ≠ b.members :=
    (sortBy_perm _ groups).symm.pairwise (pairwise_members_ne h) Ne.symm
  exact hsorted.imp₂ (fun _ _ => TierSummary.precedes_of_ranksBefore) hne

/-- The sizes of the groups add up to the number of definitions in them. -/
theorem sum_size_groups : (groups.map Group.size).foldr (· + ·) 0 =
    (definitions.names.filter fun name => ∃ group ∈ groups, name ∈ group.members).length := by
  have hnodup : (groups.flatMap Group.members).Nodup :=
    List.nodup_flatMap.2 ⟨fun group hgroup => nodup_members h hgroup, pairwise_disjoint_members h⟩
  have hperm : (groups.flatMap Group.members).Perm
      (definitions.names.filter fun name => ∃ group ∈ groups, name ∈ group.members) := by
    rw [List.perm_ext_iff_of_nodup hnodup (definitions.nodup_names.filter _)]
    intro name
    rw [List.mem_flatMap, List.mem_filter, decide_eq_true_eq, NameMap.mem_names_iff]
    refine ⟨fun hgrouped => ⟨?_, hgrouped⟩, And.right⟩
    obtain ⟨group, hgroup, hname⟩ := hgrouped
    exact (classify_partitions h).defined group hgroup name hname
  rw [← hperm.length_eq, List.length_flatMap]
  rfl

/-- The summary of the groups of a tier ranks them. -/
theorem ranks_ofGroups (topN : UInt64) :
    (TierSummary.ofGroups topN groups).Ranks definitions topN groups where
  groupCount := rfl
  topGroups := by
    refine ⟨_, sortBy_perm _ groups, pairwise_precedes h, ?_⟩
    have hlength := (sortBy_perm TierSummary.ranksBefore groups).length_eq
    rw [TierSummary.ofGroups, ← hlength, ← List.take_eq_take_min]
    rfl
  unlisted group hgroup hout listed hlisted := by
    have hranked := pairwise_precedes h
    rw [← List.take_append_drop topN.toNat (sortBy TierSummary.ranksBefore groups),
      List.pairwise_append] at hranked
    obtain ⟨first, hfirst, rfl⟩ := List.mem_map.1 hlisted
    have hmem := (sortBy_perm TierSummary.ranksBefore groups).mem_iff.2 hgroup
    rw [← List.take_append_drop topN.toNat (sortBy TierSummary.ranksBefore groups)] at hmem
    rcases List.mem_append.1 hmem with hlisted | hrest
    · exact absurd (List.mem_map_of_mem hlisted) hout
    · rcases hranked.2.2 first hfirst group hrest with hlt | ⟨heq, _⟩
      · exact hlt.le
      · exact heq.ge
  schemaCount := sum_size_groups h

end Groups

section Tiers

variable {strict loose : Tier} {strictGroups looseGroups : List Group}
  (hle : strict.Refines loose) (hstrict : classify limit strict definitions = .ok strictGroups)
  (hloose : classify limit loose definitions = .ok looseGroups)

include hle hstrict hloose

/-- A group is part of a looser one. -/
theorem exists_looser {group : Group} (hgroup : group ∈ strictGroups) :
    ∃ whole ∈ looseGroups, group.members ⊆ whole.members := by
  obtain ⟨looser, hlooser, _, hwhole⟩ := classify_refines hle hstrict
  obtain rfl : looseGroups = looser := Except.ok.inj (hloose.symm.trans hlooser)
  obtain ⟨whole, ⟨hmem, hsub⟩, _⟩ := hwhole group hgroup
  exact ⟨whole, hmem, hsub⟩

/-- Two members of a group are apart at a stricter tier iff the group is none there. -/
theorem splitAt_iff {group : Group} (hgroup : group ∈ looseGroups) :
    group.SplitAt strictGroups ↔ group.members ∉ strictGroups.map Group.members := by
  rw [← not_iff_not, not_not]
  constructor
  · intro hwhole
    have hcommon : ∀ a ∈ group.members, ∀ b ∈ group.members, a ≠ b →
        ∃ other ∈ strictGroups, a ∈ other.members ∧ b ∈ other.members := by
      intro a ha b hb hne
      by_contra hapart
      exact hwhole ⟨a, ha, b, hb, hne, hapart⟩
    obtain ⟨b, hb, hne⟩ := exists_mem_ne (nodup_members hloose hgroup) group.two_le group.first
    obtain ⟨other, hother, hfirst, _⟩ := hcommon group.first (List.head_mem _) b hb hne.symm
    -- What is in a group with the first member is in that group, and the rest of that group is in
    -- the looser one.
    have hsub : group.members ⊆ other.members := by
      intro name hname
      by_cases heq : name = group.first
      · exact heq ▸ hfirst
      · obtain ⟨second, hsecond, hfirst', hname'⟩ :=
          hcommon group.first (List.head_mem _) name hname (Ne.symm heq)
        rwa [group_unique hstrict hother hsecond hfirst hfirst']
    obtain ⟨whole, hwhole, hother'⟩ := exists_looser hle hstrict hloose hother
    obtain rfl := group_unique hloose hgroup hwhole (List.head_mem _) (hother' hfirst)
    have hperm : other.members.Perm group.members := by
      rw [List.perm_ext_iff_of_nodup (nodup_members hstrict hother) (nodup_members hloose hgroup)]
      exact fun name => ⟨fun hname => hother' hname, fun hname => hsub hname⟩
    have hsame : other.members = group.members :=
      hperm.eq_of_pairwise (fun _ _ _ _ hlt hgt => absurd hgt (lt_asymm hlt))
        (ascending_members hstrict hother) (ascending_members hloose hgroup)
    exact List.mem_map.2 ⟨other, hother, hsame⟩
  · rintro hlisted ⟨a, ha, b, hb, _, hapart⟩
    obtain ⟨other, hother, hsame⟩ := List.mem_map.1 hlisted
    exact hapart ⟨other, hother, hsame ▸ ha, hsame ▸ hb⟩

/-- What is listed as new at a tier are the groups that are split at the stricter tier. -/
theorem onlyAt_eq {table : ByTier (List Group)} (hstrict' : table.get? strict = some strictGroups)
    (hloose' : table.get? loose = some looseGroups) :
    Report.onlyAt table loose strict =
      (looseGroups.filter fun group => group.SplitAt strictGroups).map Group.members := by
  rw [Report.onlyAt, hstrict', hloose', Option.getD_some, Option.getD_some, List.filter_map]
  refine congrArg _ (List.filter_congr fun group hgroup => ?_)
  rw [Function.comp_apply, decide_eq_decide, splitAt_iff hle hstrict hloose hgroup]

theorem length_grouped_le :
    (definitions.names.filter fun name => ∃ group ∈ strictGroups, name ∈ group.members).length ≤
      (definitions.names.filter fun name =>
        ∃ group ∈ looseGroups, name ∈ group.members).length := by
  rw [← List.countP_eq_length_filter, ← List.countP_eq_length_filter]
  refine List.countP_mono_left fun name _ hgrouped => ?_
  rw [decide_eq_true_eq] at hgrouped ⊢
  obtain ⟨group, hgroup, hname⟩ := hgrouped
  obtain ⟨whole, hwhole, hsub⟩ := exists_looser hle hstrict hloose hgroup
  exact ⟨whole, hwhole, hsub hname⟩

end Tiers

namespace Document

/-- A report on a document is one on its groups at every tier. -/
structure Reported (document : Document) (options : Options) (report : Report)
    (groups : Tier → List Group) (summaries : Tier → TierSummary) : Prop where
  classified : ∀ tier, classify options.maxDepth tier document.definitions = .ok (groups tier)
  summary : ∀ tier, report.tiers.get? tier = some (summaries tier)
  ranks : ∀ tier, (summaries tier).Ranks document.definitions options.topN (groups tier)
  /-- A looser tier groups no fewer definitions. -/
  schemaCount_le : ∀ {strict loose : Tier}, strict.Refines loose →
    (summaries strict).schemaCount ≤ (summaries loose).schemaCount
  /-- The structural groups that are split at the exact tier. -/
  nearDuplicates : report.nearDuplicates = ((groups .structural).filter fun group =>
    group.SplitAt (groups .exact)).map Group.members
  /-- The loose groups that are split at the structural tier. -/
  constraintOnly : report.constraintOnly = ((groups .structuralLoose).filter fun group =>
    group.SplitAt (groups .structural)).map Group.members

theorem exists_groups {document : Document} {table : ByTier (List Group)}
    (h : document.allGroups? limit = .ok table) : ∃ groups : Tier → List Group,
      (∀ tier, classify limit tier document.definitions = .ok (groups tier)) ∧
        ∀ tier, table.get? tier = some (groups tier) := by
  have hall : ∀ tier ∈ Tier.all, ∃ found, classify limit tier document.definitions = .ok found ∧
      table.get? tier = some found := by
    refine foldlM_invariant (fun done (table : ByTier (List Group)) => ∀ tier ∈ done, ∃ found,
      classify limit tier document.definitions = .ok found ∧ table.get? tier = some found)
      ?_ nofun h
    intro done tier rest table next _ hdone hnext other hother
    obtain ⟨found, hfound, hset⟩ := bind_eq_ok.1 hnext
    obtain rfl := pure_eq_ok.1 hset
    rw [ByTier.get?_set]
    by_cases heq : other = tier
    · rw [if_pos heq]
      exact ⟨found, heq ▸ hfound, rfl⟩
    · rw [if_neg heq]
      refine hdone other ((List.mem_append.1 hother).resolve_right fun hlast => ?_)
      exact heq (List.mem_singleton.1 hlast)
  choose groups hgroups using fun tier => hall tier (by cases tier <;> decide)
  exact ⟨groups, fun tier => (hgroups tier).1, fun tier => (hgroups tier).2⟩

/-- What is reported of a document are its groups at every tier, ranked. -/
theorem analyze?_ranks {document : Document} {options : Options} {report : Report}
    (h : document.analyze? options = .ok report) :
    ∃ groups summaries, document.Reported options report groups summaries := by
  obtain ⟨table, htable, hreport⟩ := bind_eq_ok.1 h
  obtain rfl := pure_eq_ok.1 hreport
  obtain ⟨groups, hclassified, hget⟩ := exists_groups htable
  have hranks := fun tier => ranks_ofGroups (hclassified tier) options.topN
  refine ⟨groups, fun tier => TierSummary.ofGroups options.topN (groups tier), hclassified,
    fun tier => ?_, hranks, fun {strict loose} hle => ?_, ?_, ?_⟩
  · rw [Report.ofGroups, ByTier.get?_map, hget]
    rfl
  · rw [(hranks strict).schemaCount, (hranks loose).schemaCount]
    exact length_grouped_le hle (hclassified strict) (hclassified loose)
  · exact onlyAt_eq (by decide) (hclassified _) (hclassified _) (hget _) (hget _)
  · exact onlyAt_eq (by decide) (hclassified _) (hclassified _) (hget _) (hget _)

/-- Two strings that are equal, one that is annotated and one that is bounded, and three numbers. -/
def measures : Document :=
  .ofParts (.ofList [
    ("A", .record [("type", .string "string")]),
    ("B", .record [("type", .string "string")]),
    ("C", .record [("description", .string "c"), ("type", .string "string")]),
    ("D", .record [("maxLength", .ofNat 4), ("type", .string "string")]),
    ("E", .record [("type", .string "integer")]),
    ("F", .record [("type", .string "integer")]),
    ("G", .record [("type", .string "integer")])]) .empty .empty

set_option maxRecDepth 100000 in
theorem analyze?_ranks_measures : ∃ report groups summaries,
    measures.analyze? { topN := 1 } = .ok report ∧
      (report.tiers.get? .exact).map (·.topGroups) = some [⟨3, ["E", "F", "G"]⟩] ∧
      (report.tiers.get? .structuralLoose).map (·.topGroups) = some [⟨4, ["A", "B", "C", "D"]⟩] ∧
      report.nearDuplicates = [["A", "B", "C"]] ∧
      measures.Reported { topN := 1 } report groups summaries := by
  obtain ⟨report, hreport, hlisted⟩ : ∃ report, measures.analyze? { topN := 1 } = .ok report ∧
      ((report.tiers.get? .exact).map (·.topGroups),
        (report.tiers.get? .structuralLoose).map (·.topGroups), report.nearDuplicates) =
          (some [⟨3, ["E", "F", "G"]⟩], some [⟨4, ["A", "B", "C", "D"]⟩], [["A", "B", "C"]]) :=
    exists_ok_of_toOption (by decide +kernel)
  simp only [Prod.mk.injEq] at hlisted
  obtain ⟨groups, summaries, hreports⟩ := analyze?_ranks hreport
  exact ⟨report, groups, summaries, hreport, hlisted.1, hlisted.2.1, hlisted.2.2, hreports⟩

end Document

end SchemaMerge
