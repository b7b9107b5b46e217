import SchemaMerge.Proofs.Groups

/-!
Sets to be kept separate that overlap. They are taken out of a group one after the other, so a set
that has lost a name to an earlier one is not whole any more when it is its turn, and its other names
stay. What is taken out in some order is a choice of protected sets without common names to which
none can be added, and every such choice is what is taken out in some order
(`forall_order_iff`). So the order does not matter, and no name of a protected set is left, exactly
when all these choices cover the same names or leave nothing to be merged (`Settled`,
`classifyForMerge_order_iff`).
-/

namespace SchemaMerge

/-- Two entries or more that are all members. -/
def Protects (members set : List String) : Prop :=
  1 < set.length ∧ ∀ name ∈ set, name ∈ members

instance (members set : List String) : Decidable (Protects members set) :=
  inferInstanceAs (Decidable (_ ∧ _))

/-- The members that are in none of the sets. -/
def outside (sets : List (List String)) (members : List String) : List String :=
  members.filter fun name => ∀ set ∈ sets, name ∉ set

/-- The members that are in no protected set. -/
def unprotected (sets : List (List String)) (members : List String) : List String :=
  outside (sets.filter fun set => Protects members set) members

/-- The sets that are still whole when it is their turn. -/
def takenOut (members : List String) : List (List String) → List (List String)
  | [] => []
  | set :: rest =>
      if Protects members set then set :: takenOut (setAside members set) rest
      else takenOut members rest

/-- Protected sets that have no name in common, and no other one is without names in common with
them. -/
structure Packing (members : List String) (sets chosen : List (List String)) : Prop where
  listed : ∀ set ∈ chosen, set ∈ sets
  protects : ∀ set ∈ chosen, Protects members set
  disjoint : chosen.Pairwise List.Disjoint
  maximal : ∀ set ∈ sets, Protects members set → ∃ other ∈ chosen, ¬other.Disjoint set

/-- Every name of a protected set is in one of the chosen sets. -/
def Covers (members : List String) (sets chosen : List (List String)) : Prop :=
  ∀ set ∈ sets, Protects members set → ∀ name ∈ set, ∃ other ∈ chosen, name ∈ other

/-- Whichever protected sets without common names are taken out, as many as can be: fewer than two
members are left then, or none that is in a protected set. -/
def Settled (members : List String) (sets : List (List String)) : Prop :=
  ∀ chosen, Packing members sets chosen → 2 ≤ (outside chosen members).length →
    Covers members sets chosen

section Sets

variable {members set other : List String} {sets chosen order : List (List String)}

theorem mem_outside_iff {name : String} :
    name ∈ outside sets members ↔ name ∈ members ∧ ∀ set ∈ sets, name ∉ set := by
  simp [outside]

theorem not_mem_outside_iff {name : String} (h : name ∈ members) :
    name ∉ outside sets members ↔ ∃ set ∈ sets, name ∈ set := by
  simp [mem_outside_iff, h]

theorem setAside_eq_outside (h : Protects members set) :
    setAside members set = outside [set] members := by
  unfold setAside outside
  rw [if_pos (show 1 < set.length ∧ ∀ name ∈ set, name ∈ members from h)]
  simp

theorem not_disjoint_self (h : Protects members set) : ¬set.Disjoint set := by
  obtain ⟨name, hname⟩ := List.exists_mem_of_length_pos (Nat.lt_of_succ_lt h.1)
  exact fun hdisjoint => hdisjoint hname hname

/-- A set is still whole if it was and has no name in common with what has been taken out. -/
theorem protects_outside_iff :
    Protects (outside chosen members) set ↔
      Protects members set ∧ ∀ other ∈ chosen, other.Disjoint set := by
  constructor
  · rintro ⟨htwo, hmem⟩
    refine ⟨⟨htwo, fun name hname => (mem_outside_iff.1 (hmem name hname)).1⟩, ?_⟩
    intro other hother name hname hset
    exact (mem_outside_iff.1 (hmem name hset)).2 other hother hname
  · rintro ⟨⟨htwo, hmem⟩, hdisjoint⟩
    refine ⟨htwo, fun name hname => mem_outside_iff.2 ⟨hmem name hname, ?_⟩⟩
    exact fun other hother hname' => hdisjoint other hother hname' hname

theorem protects_setAside_iff (h : Protects members set) :
    Protects (setAside members set) other ↔ Protects members other ∧ set.Disjoint other := by
  rw [setAside_eq_outside h, protects_outside_iff]
  simp

/-- What is left of a group are the members that are in none of the sets taken out. -/
theorem foldl_setAside_eq (sets : List (List String)) (members : List String) :
    sets.foldl setAside members = outside (takenOut members sets) members := by
  induction sets generalizing members with
  | nil => simp [takenOut, outside]
  | cons set rest ih =>
      rw [List.foldl_cons, ih, takenOut]
      by_cases h : Protects members set
      · rw [if_pos h]
        simp only [setAside_eq_outside h, outside, List.filter_filter]
        refine List.filter_congr fun name _ => ?_
        simpa using Bool.and_comm _ _
      · have hwhole : setAside members set = members := if_neg h
        rw [if_neg h, hwhole]

namespace Packing

/-- A protected set together with what is chosen when it has been taken out. -/
theorem cons (hset : Protects members set) (h : Packing (setAside members set) sets chosen) :
    Packing members (set :: sets) (set :: chosen) := by
  have hlater : ∀ other ∈ chosen, Protects members other ∧ set.Disjoint other :=
    fun other hother => (protects_setAside_iff hset).1 (h.protects other hother)
  refine ⟨?_, ?_, ?_, ?_⟩
  · intro other hother
    rcases List.mem_cons.1 hother with rfl | hother
    · exact List.mem_cons_self
    · exact List.mem_cons_of_mem _ (h.listed other hother)
  · intro other hother
    rcases List.mem_cons.1 hother with rfl | hother
    · exact hset
    · exact (hlater other hother).1
  · exact .cons (fun other hother => (hlater other hother).2) h.disjoint
  · intro other hother hprotects
    by_cases hdisjoint : set.Disjoint other
    · have hlisted : other ∈ sets := by
        refine (List.mem_cons.1 hother).resolve_left ?_
        rintro rfl
        exact not_disjoint_self hset hdisjoint
      obtain ⟨found, hfound, hmeets⟩ :=
        h.maximal other hlisted ((protects_setAside_iff hset).2 ⟨hprotects, hdisjoint⟩)
      exact ⟨found, List.mem_cons_of_mem _ hfound, hmeets⟩
    · exact ⟨set, List.mem_cons_self, hdisjoint⟩

/-- A set that is not protected does not matter. -/
theorem cons_of_not (hset : ¬Protects members set) (h : Packing members sets chosen) :
    Packing members (set :: sets) chosen where
  listed other hother := List.mem_cons_of_mem _ (h.listed other hother)
  protects := h.protects
  disjoint := h.disjoint
  maximal other hother hprotects := by
    refine h.maximal other ((List.mem_cons.1 hother).resolve_left ?_) hprotects
    rintro rfl
    exact hset hprotects

end Packing

theorem packing_takenOut (members : List String) (sets : List (List String)) :
    Packing members sets (takenOut members sets) := by
  induction sets generalizing members with
  | nil => exact ⟨by simp [takenOut], by simp [takenOut], .nil, by simp⟩
  | cons set rest ih =>
      unfold takenOut
      by_cases h : Protects members set
      · rw [if_pos h]
        exact (ih (setAside members set)).cons h
      · rw [if_neg h]
        exact (ih members).cons_of_not h

theorem takenOut_append (members : List String) (sets rest : List (List String)) :
    takenOut members (sets ++ rest) =
      takenOut members sets ++ takenOut (sets.foldl setAside members) rest := by
  induction sets generalizing members with
  | nil => rfl
  | cons set sets ih =>
      rw [List.cons_append, takenOut, takenOut, List.foldl_cons]
      by_cases h : Protects members set
      · rw [if_pos h, if_pos h, ih, List.cons_append]
      · have hwhole : setAside members set = members := if_neg h
        rw [if_neg h, if_neg h, ih, hwhole]

/-- Sets without common names are all taken out, in whatever order they come. -/
theorem takenOut_of_disjoint (hprotects : ∀ set ∈ chosen, Protects members set)
    (hdisjoint : chosen.Pairwise List.Disjoint) : takenOut members chosen = chosen := by
  induction chosen generalizing members with
  | nil => rfl
  | cons set rest ih =>
      have hset := hprotects set List.mem_cons_self
      obtain ⟨hhead, hrest⟩ := List.pairwise_cons.1 hdisjoint
      have hlater : ∀ other ∈ rest, Protects (setAside members set) other := fun other hother =>
        (protects_setAside_iff hset).2
          ⟨hprotects other (List.mem_cons_of_mem _ hother), hhead other hother⟩
      rw [takenOut, if_pos hset, ih hlater hrest]

theorem takenOut_eq_nil (h : ∀ set ∈ sets, ¬Protects members set) : takenOut members sets = [] := by
  induction sets with
  | nil => rfl
  | cons set rest ih =>
      rw [takenOut, if_neg (h set List.mem_cons_self)]
      exact ih fun other hother => h other (List.mem_cons_of_mem _ hother)

namespace Packing

theorem of_perm (h : Packing members order chosen) (hperm : order.Perm sets) :
    Packing members sets chosen where
  listed set hset := hperm.mem_iff.1 (h.listed set hset)
  protects := h.protects
  disjoint := h.disjoint
  maximal set hset := h.maximal set (hperm.mem_iff.2 hset)

theorem nodup (h : Packing members sets chosen) : chosen.Nodup := by
  refine h.disjoint.imp_of_mem ?_
  rintro set _ hset _ hdisjoint rfl
  exact not_disjoint_self (h.protects set hset) hdisjoint

/-- The chosen sets are those taken out if they come first: no other one is whole after them. -/
theorem exists_order (h : Packing members sets chosen) :
    ∃ order, order.Perm sets ∧ takenOut members order = chosen := by
  obtain ⟨same, hsame, hsublist⟩ := h.nodup.subperm h.listed
  obtain ⟨rest, hrest⟩ := hsublist.exists_perm_append
  have horder : (chosen ++ rest).Perm sets := (hsame.symm.append_right rest).trans hrest.symm
  have hchosen := takenOut_of_disjoint h.protects h.disjoint
  refine ⟨chosen ++ rest, horder, ?_⟩
  have hnone : takenOut (outside chosen members) rest = [] := by
    refine takenOut_eq_nil fun set hset hprotects => ?_
    obtain ⟨hwhole, hdisjoint⟩ := protects_outside_iff.1 hprotects
    obtain ⟨other, hother, hmeets⟩ :=
      h.maximal set (horder.subset (List.mem_append_right _ hset)) hwhole
    exact hmeets (hdisjoint other hother)
  rw [takenOut_append, foldl_setAside_eq, hchosen, hnone, List.append_nil]

end Packing

/-- What holds of all that can be left of a group, depending on the order of the sets. -/
theorem forall_order_iff {P : List String → Prop} :
    (∀ order : List (List String), order.Perm sets → P (order.foldl setAside members)) ↔
      ∀ chosen, Packing members sets chosen → P (outside chosen members) := by
  constructor
  · intro h chosen hchosen
    obtain ⟨order, hperm, rfl⟩ := hchosen.exists_order
    rw [← foldl_setAside_eq]
    exact h order hperm
  · intro h order hperm
    rw [foldl_setAside_eq]
    exact h _ ((packing_takenOut members order).of_perm hperm)

/-- A choice can contain any one of the protected sets: that one may come first. -/
theorem exists_packing (hset : set ∈ sets) (h : Protects members set) :
    ∃ chosen, Packing members sets chosen ∧ set ∈ chosen := by
  refine ⟨takenOut members (set :: sets.erase set), ?_, ?_⟩
  · exact (packing_takenOut _ _).of_perm (List.perm_cons_erase hset).symm
  · rw [takenOut, if_pos h]
    exact List.mem_cons_self

theorem mem_unprotected_iff {name : String} : name ∈ unprotected sets members ↔
    name ∈ members ∧ ∀ set ∈ sets, Protects members set → name ∉ set := by
  simp [unprotected, mem_outside_iff]

/-- A choice leaves at least the members that are in no protected set. -/
theorem Packing.unprotected_sublist (h : Packing members sets chosen) :
    (unprotected sets members).Sublist (outside chosen members) := by
  refine List.monotone_filter_right members fun name hname => ?_
  simp only [decide_eq_true_eq, List.mem_filter, and_imp] at hname ⊢
  exact fun set hset => hname set (h.listed set hset) (h.protects set hset)

/-- It leaves no more than these if it covers all protected sets. -/
theorem Packing.outside_eq_iff (h : Packing members sets chosen) :
    outside chosen members = unprotected sets members ↔ Covers members sets chosen := by
  constructor
  · intro heq set hset hprotects name hname
    rw [← not_mem_outside_iff (hprotects.2 name hname), heq, mem_unprotected_iff]
    exact fun hfree => hfree.2 set hset hprotects hname
  · intro hcovers
    refine (h.unprotected_sublist.antisymm ?_).symm
    refine List.monotone_filter_right members fun name hname => ?_
    simp only [decide_eq_true_eq, List.mem_filter, and_imp] at hname ⊢
    intro set hset hprotects hin
    obtain ⟨other, hother, hmem⟩ := hcovers set hset hprotects name hin
    exact hname other hother hmem

/-- Sets of which no two have a name in common are all taken out. -/
theorem settled_of_disjoint (h : sets.Pairwise List.Disjoint) : Settled members sets := by
  intro chosen hchosen _ set hset hprotects name hname
  obtain ⟨other, hother, hmeets⟩ := hchosen.maximal set hset hprotects
  have heq : other = set := by
    by_contra hne
    have : Std.Symm fun a b : List String => a.Disjoint b :=
      ⟨fun _ _ hd _ hb ha => hd ha hb⟩
    exact hmeets (h.forall (hchosen.listed other hother) hset hne)
  exact ⟨other, hother, heq ▸ hname⟩

end Sets

/-- The groups without the names of the sets that they wholly contain. -/
def withoutProtected (tier : MergeTier) (sets : List (List String)) (groups : List Group) :
    List MergeGroup :=
  groups.filterMap fun group => group.left? tier (unprotected sets group.members)

variable {limit : UInt64} {tier : MergeTier} {definitions : NameMap Json}
  {keep : List (List String)}

namespace Group

variable {group : Group}

theorem left?_eq_iff {a b : List String} :
    group.left? tier a = group.left? tier b ↔ a = b ∨ a.length < 2 ∧ b.length < 2 := by
  unfold left?
  by_cases ha : 2 ≤ a.length <;> by_cases hb : 2 ≤ b.length <;> grind

/-- A choice leaves to be merged what is in no protected set, unless it leaves more of the group
without covering these sets. -/
theorem left?_outside_eq_iff {chosen : List (List String)}
    (h : Packing group.members keep chosen) :
    group.left? tier (outside chosen group.members) =
        group.left? tier (unprotected keep group.members) ↔
      (2 ≤ (outside chosen group.members).length → Covers group.members keep chosen) := by
  have hle := h.unprotected_sublist.length_le
  rw [left?_eq_iff, h.outside_eq_iff]
  constructor
  · rintro (hcovers | ⟨hfew, _⟩) htwo
    · exact hcovers
    · omega
  · intro hcovers
    by_cases htwo : 2 ≤ (outside chosen group.members).length
    · exact .inl (hcovers htwo)
    · exact .inr (by omega)

/-- A group is settled iff it loses all names of protected sets, whatever the order. -/
theorem settled_iff_unprotected : Settled group.members keep ↔
    ∀ order : List (List String), order.Perm keep →
      group.left? tier (order.foldl setAside group.members) =
        group.left? tier (unprotected keep group.members) := by
  rw [forall_order_iff (P := fun left =>
    group.left? tier left = group.left? tier (unprotected keep group.members))]
  exact forall₂_congr fun _ hchosen => (left?_outside_eq_iff hchosen).symm

/-- A group is settled iff what is left of it does not depend on the order. -/
theorem settled_iff_order : Settled group.members keep ↔
    ∀ order : List (List String), order.Perm keep →
      group.left? tier (order.foldl setAside group.members) =
        group.left? tier (keep.foldl setAside group.members) := by
  constructor
  · intro h order hperm
    calc group.left? tier (order.foldl setAside group.members)
        = group.left? tier (unprotected keep group.members) :=
          settled_iff_unprotected.1 h order hperm
      _ = group.left? tier (keep.foldl setAside group.members) :=
          (settled_iff_unprotected.1 h keep (.refl _)).symm
  · intro h
    rw [forall_order_iff (P := fun left =>
      group.left? tier left = group.left? tier (keep.foldl setAside group.members))] at h
    intro chosen hchosen htwo set hset hprotects name hname
    -- Another choice has this set in it, and leaves the same.
    obtain ⟨other, hother, hin⟩ := exists_packing hset hprotects
    have hsame := (h chosen hchosen).trans (h other hother).symm
    rcases left?_eq_iff.1 hsame with heq | ⟨hfew, _⟩
    · rw [← not_mem_outside_iff (hprotects.2 name hname), heq]
      exact fun hleft => (mem_outside_iff.1 hleft).2 set hin hname
    · omega

/-- What is left of groups with keys of their own is known group by group. -/
theorem filterMap_left?_eq_iff {groups : List Group}
    (hkeys : groups.Pairwise fun a b => a.key ≠ b.key) {f g : Group → List String} :
    groups.filterMap (fun group => group.left? tier (f group)) =
        groups.filterMap (fun group => group.left? tier (g group)) ↔
      ∀ group ∈ groups, group.left? tier (f group) = group.left? tier (g group) := by
  constructor
  · have hsome : ∀ f g : Group → List String,
        groups.filterMap (fun group => group.left? tier (f group)) =
          groups.filterMap (fun group => group.left? tier (g group)) →
        ∀ group ∈ groups, ∀ left,
          group.left? tier (f group) = some left → group.left? tier (g group) = some left := by
      intro f g heq group hgroup left hleft
      have hmem := heq ▸ List.mem_filterMap.2 ⟨group, hgroup, hleft⟩
      obtain ⟨other, hother, hfound⟩ := List.mem_filterMap.1 hmem
      have hkey := (of_left? hfound).1.symm.trans (of_left? hleft).1
      rwa [eq_of_pairwise_ne hkeys hother hgroup hkey] at hfound
    intro heq group hgroup
    ext left
    exact ⟨hsome f g heq group hgroup left, hsome g f heq.symm group hgroup left⟩
  · intro h
    exact List.filterMap_congr h

end Group

/-- Sets without common names may come in any order. -/
theorem classifyForMerge_perm (hdisjoint : keep.Pairwise List.Disjoint)
    {order : List (List String)} (hperm : order.Perm keep) :
    classifyForMerge limit tier order definitions =
      classifyForMerge limit tier keep definitions := by
  rw [classifyForMerge_eq, classifyForMerge_eq]
  congr 1
  funext groups
  exact List.filterMap_congr fun group _ =>
    Group.settled_iff_order.1 (settled_of_disjoint hdisjoint) order hperm

/-- The order of the sets to be kept separate does not matter, and the groups lose all names of the
sets that they wholly contain, iff every group is settled. -/
theorem classifyForMerge_order_iff (limit : UInt64) (tier : MergeTier) (keep : List (List String))
    (definitions : NameMap Json) :
    ((∀ order : List (List String), order.Perm keep →
        classifyForMerge limit tier order definitions =
          classifyForMerge limit tier keep definitions) ↔
      ∀ found, classify limit tier.toTier definitions = .ok found →
        ∀ group ∈ found, Settled group.members keep) ∧
    ((∀ order : List (List String), order.Perm keep →
        classifyForMerge limit tier order definitions =
          (classify limit tier.toTier definitions).map (withoutProtected tier keep)) ↔
      ∀ found, classify limit tier.toTier definitions = .ok found →
        ∀ group ∈ found, Settled group.members keep) := by
  simp only [classifyForMerge_eq]
  cases hfound : classify limit tier.toTier definitions with
  | error e => simp [Except.map]
  | ok found =>
      have hkeys := pairwise_keys hfound
      simp only [Except.map, Except.ok.injEq, forall_eq', withoutProtected,
        Group.filterMap_left?_eq_iff hkeys]
      refine ⟨⟨?_, ?_⟩, ⟨?_, ?_⟩⟩
      · intro h group hgroup
        exact Group.settled_iff_order.2 fun order hperm => h order hperm group hgroup
      · intro h order hperm group hgroup
        exact Group.settled_iff_order.1 (h group hgroup) order hperm
      · intro h group hgroup
        exact Group.settled_iff_unprotected.2 fun order hperm => h order hperm group hgroup
      · intro h order hperm group hgroup
        exact Group.settled_iff_unprotected.1 (h group hgroup) order hperm

/-- Four definitions with one shape. -/
def fourAlike : NameMap Json :=
  .ofList (["A", "B", "C", "D"].map fun name => (name, .record [("type", .string "string")]))

set_option maxRecDepth 100000 in
/-- Two sets that share `B`: the one that comes first is taken out, and then the other one is not
whole any more. -/
theorem classifyForMerge_chained : ∃ found groups groups',
    [["B", "C"], ["A", "B"]].Perm [["A", "B"], ["B", "C"]] ∧
    classify 64 .exact fourAlike = .ok found ∧
    classifyForMerge 64 .exact [["A", "B"], ["B", "C"]] fourAlike = .ok groups ∧
    classifyForMerge 64 .exact [["B", "C"], ["A", "B"]] fourAlike = .ok groups' ∧
    groups.map MergeGroup.members = [["C", "D"]] ∧ groups'.map MergeGroup.members = [["A", "D"]] ∧
    withoutProtected .exact [["A", "B"], ["B", "C"]] found = [] := by
  have hrun : ((classify 64 .exact fourAlike).toOption.map
        (withoutProtected .exact [["A", "B"], ["B", "C"]]),
      (classifyForMerge 64 .exact [["A", "B"], ["B", "C"]] fourAlike).toOption.map
        (List.map MergeGroup.members),
      (classifyForMerge 64 .exact [["B", "C"], ["A", "B"]] fourAlike).toOption.map
        (List.map MergeGroup.members)) =
      (some [], some [["C", "D"]], some [["A", "D"]]) := by decide +kernel
  obtain ⟨hnone, hrest⟩ := Prod.mk.inj hrun
  obtain ⟨hgroups, hgroups'⟩ := Prod.mk.inj hrest
  obtain ⟨found, hfound, hnone⟩ := exists_ok_of_toOption hnone
  obtain ⟨groups, hgroups, hmembers⟩ := exists_ok_of_toOption hgroups
  obtain ⟨groups', hgroups', hmembers'⟩ := exists_ok_of_toOption hgroups'
  exact ⟨found, groups, groups', .swap _ _ _, hfound, hgroups, hgroups', hmembers, hmembers', hnone⟩

end SchemaMerge
