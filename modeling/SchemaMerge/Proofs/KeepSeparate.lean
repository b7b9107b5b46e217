import Mathlib.Data.List.Induction
import SchemaMerge.Proofs.Extracting
import SchemaMerge.Proofs.OverlappingSets
import SchemaMerge.Proofs.Tracking

/-!
Sets of names that are to be kept separate. No pass gives one name to all definitions of such a set
that it finds (`Pass.not_joined`), but it looks for them under the names that the set lists. Once an
earlier pass has renamed one of them, a later pass can bring the set together. That is the only way
in which a run does so (`Document.consolidate?_joins_iff`).
-/

namespace SchemaMerge

/-- A set of two names or more that is to be kept separate is in no group as a whole. -/
theorem not_subset_foldl_setAside {sets : List (List String)} {set : List String}
    (hset : set ∈ sets) (htwo : 1 < set.length) (members : List String) :
    ¬set ⊆ sets.foldl setAside members := by
  intro hsub
  rw [foldl_setAside_eq] at hsub
  obtain ⟨hwhole, hdisjoint⟩ := protects_outside_iff.1 ⟨htwo, fun _ hname => hsub hname⟩
  obtain ⟨other, hother, hmeets⟩ := (packing_takenOut members sets).maximal set hset hwhole
  exact hmeets (hdisjoint other hother)

/-- Passes lead the definitions with these names to one name. -/
def Joined (plans : List Plan) (set : List String) : Prop :=
  ∀ a ∈ set, ∀ b ∈ set, follow plans a = follow plans b

/-- The pass that brings the definitions together finds one of them under another name than the one
that it had at first. -/
def JoinedLate (plans : List Plan) (set : List String) : Prop :=
  ∃ before plan after, plans = before ++ plan :: after ∧ ¬Joined before set ∧
    Joined (before ++ [plan]) set ∧ ∃ name ∈ set, follow before name ≠ name

theorem Joined.append {before : List Plan} {set : List String} (h : Joined before set)
    (after : List Plan) : Joined (before ++ after) set := by
  intro a ha b hb
  rw [follow_append, follow_append, h a ha b hb]

/-- Definitions that are together in the end have been brought together by some plan. -/
theorem Joined.exists_join {plans : List Plan} {set : List String} (h : Joined plans set)
    (hstart : ¬Joined [] set) : ∃ before plan after, plans = before ++ plan :: after ∧
      ¬Joined before set ∧ Joined (before ++ [plan]) set := by
  induction plans using List.reverseRecOn with
  | nil => exact absurd h hstart
  | append_singleton before plan ih =>
      by_cases hbefore : Joined before set
      · obtain ⟨first, join, after, rfl, hnot, hjoined⟩ := ih hbefore
        exact ⟨first, join, after ++ [plan], by simp, hnot, hjoined⟩
      · exact ⟨before, plan, [], rfl, hbefore, h⟩

/-- Definitions that are given one name are members of one group. -/
theorem Allotted.exists_subset_members {definitions : NameMap Json} {groups : List MergeGroup}
    {map : RenameMap} {allotted : List (MergeGroup × String)}
    (h : Allotted definitions groups map allotted) {set : List String}
    (htwo : ∃ a ∈ set, ∃ b ∈ set, a ≠ b) (hdefined : ∀ name ∈ set, definitions.contains name)
    (hone : ∀ a ∈ set, ∀ b ∈ set, map.target a = map.target b) :
    ∃ group ∈ groups, set ⊆ group.members := by
  obtain ⟨moved, hmoved, hne⟩ : ∃ name ∈ set, map.target name ≠ name := by
    by_contra hall
    push Not at hall
    obtain ⟨a, ha, b, hb, hab⟩ := htwo
    apply hab
    calc a = map.target a := (hall a ha).symm
      _ = map.target b := hone a ha b hb
      _ = b := hall b hb
  cases halias : map.aliases.get? moved with
  | none =>
      refine absurd ?_ hne
      rw [RenameMap.target, RenameMap.get?, halias, Option.getD_none]
  | some canonical =>
      have hcanonical : map.target moved = canonical := by
        rw [RenameMap.target, RenameMap.get?, halias, Option.getD_some]
      obtain ⟨group, hpair, _, _⟩ := (h.aliases moved canonical).1 halias
      refine ⟨group, h.mem_groups hpair, fun name hname => ?_⟩
      have htarget : map.target name = canonical := (hone name hname moved hmoved).trans hcanonical
      rw [RenameMap.target, RenameMap.get?] at htarget
      cases hfound : map.aliases.get? name with
      | some other =>
          rw [hfound, Option.getD_some] at htarget
          subst htarget
          obtain ⟨group', hpair', hmem, _⟩ := (h.aliases name other).1 hfound
          exact h.group_eq hpair' hpair ▸ hmem
      | none =>
          -- A name that stays is that of a definition, so the group owns it as a member.
          rw [hfound, Option.getD_none] at htarget
          subst htarget
          refine (h.owned group name hpair).resolve_right fun hnew => ?_
          rw [hdefined name hname] at hnew
          cases hnew

/-- A pass does not give one name to all the definitions of a set that is to be kept separate. -/
theorem Pass.not_joined {options : Options} {table : NamingTable} {document next : Document}
    {groups : List MergeGroup} {plan : Plan} (h : Pass options table document groups plan next)
    {set : List String} (hset : set ∈ options.keepSeparate) (htwo : ∃ a ∈ set, ∃ b ∈ set, a ≠ b)
    (hdefined : ∀ name ∈ set, document.definitions.contains name) : ¬Joined [plan] set := by
  intro hjoined
  obtain ⟨allotted, ha⟩ := h.exists_allotted
  obtain ⟨group, hgroup, hsub⟩ := ha.exists_subset_members htwo hdefined hjoined
  obtain ⟨found, _, rfl⟩ := exists_found h.grouped
  obtain ⟨whole, _, hleft⟩ := List.mem_filterMap.1 hgroup
  rw [(Group.of_left? hleft).2] at hsub
  refine not_subset_foldl_setAside hset ?_ whole.members hsub
  obtain ⟨a, ha, b, hb, hab⟩ := htwo
  by_contra hlength
  obtain ⟨name, rfl⟩ : ∃ name, set = [name] :=
    List.length_eq_one_iff.1 (by have := List.length_pos_of_mem ha; omega)
  exact hab ((List.mem_singleton.1 ha).trans (List.mem_singleton.1 hb).symm)

namespace Passes

variable {options : Options} {table : NamingTable} {document final : Document}

/-- The passes bring together what is to be kept separate iff one of them does so after another one
has renamed a definition of the set. -/
theorem joined_iff {plans : List Plan} (h : Passes options table document plans final)
    {set : List String} (hset : set ∈ options.keepSeparate) (htwo : ∃ a ∈ set, ∃ b ∈ set, a ≠ b)
    (hdefined : ∀ name ∈ set, document.definitions.contains name) :
    Joined plans set ↔ JoinedLate plans set := by
  constructor
  · intro hjoined
    have hstart : ¬Joined [] set := by
      obtain ⟨a, ha, b, hb, hab⟩ := htwo
      exact fun hnil => hab (hnil a ha b hb)
    obtain ⟨before, plan, after, rfl, hnot, hjoin⟩ := hjoined.exists_join hstart
    refine ⟨before, plan, after, rfl, hnot, hjoin, ?_⟩
    by_contra hsame
    push Not at hsame
    obtain ⟨current, groups, next, hpass, _, hcontains⟩ := h.exists_pass
    refine hpass.not_joined hset htwo (fun name hname => ?_) fun a ha b hb => ?_
    · rw [← hsame name hname]
      exact hcontains name (hdefined name hname)
    · have hab := hjoin a ha b hb
      rwa [follow_append, follow_append, hsame a ha, hsame b hb] at hab
  · rintro ⟨before, plan, after, rfl, _, hjoin, _⟩
    have happend := hjoin.append after
    rwa [List.append_assoc] at happend

end Passes

namespace Document

variable {document start : Document} {options : Options} {result : Consolidation}

/-- What is extracted before the passes is added to the definitions. -/
theorem contains_start? {extracted : List ExtractedShape}
    (h : document.start? options = .ok (start, extracted)) {name : String}
    (hname : document.definitions.contains name) : start.definitions.contains name := by
  rw [start?] at h
  split at h
  · exact contains_extractInline? h hname
  · cases h
    exact hname

/-- A run gives one name to all definitions of a set that is to be kept separate iff a pass brings
them together after an earlier one has renamed one of them. (The map that it returns has to track
these definitions for that.) -/
theorem consolidate?_joins_iff (h : document.consolidate? options = .ok result) :
    ∃ final, document.progress? options = .ok final ∧
      ∀ set ∈ options.keepSeparate, (∃ a ∈ set, ∃ b ∈ set, a ≠ b) →
        (∀ name ∈ set, document.definitions.contains name) →
        (∀ name ∈ set, ¬Misled final.plans name) →
          ((∀ a ∈ set, ∀ b ∈ set, result.renameMap.target a = result.renameMap.target b) ↔
            JoinedLate final.plans set) := by
  obtain ⟨_, _, start, _, final, _, _, hstart, hpasses, hprogress, _, hmap⟩ := consolidate?_eq_ok h
  refine ⟨final, hprogress, fun set hset htwo hdefined htracked => ?_⟩
  rw [← hpasses.joined_iff hset htwo fun name hname => contains_start? hstart (hdefined name hname)]
  have htarget : ∀ name ∈ set, result.renameMap.target name = follow final.plans name := by
    intro name hname
    rw [hmap]
    exact (target_composed_eq_follow_iff final.plans name).2 (htracked name hname)
  constructor
  · intro hone a ha b hb
    rw [← htarget a ha, ← htarget b hb, hone a ha b hb]
  · intro hjoined a ha b hb
    rw [htarget a ha, htarget b hb, hjoined a ha b hb]

/-- Four definitions with one shape. -/
def quartet : Document :=
  ofSchemas [
    ("A", .record [("type", .string "string")]),
    ("B", .record [("type", .string "string")]),
    ("C", .record [("type", .string "string")]),
    ("D", .record [("type", .string "string")])]

set_option maxRecDepth 100000 in
theorem consolidate?_joins_iff_quartet : ∃ result final,
    quartet.consolidate? { keepSeparate := [["A", "B"]] } = .ok result ∧
    quartet.progress? { keepSeparate := [["A", "B"]] } = .ok final ∧
    (∃ a ∈ ["A", "B"], ∃ b ∈ ["A", "B"], a ≠ b) ∧
    (∀ name ∈ ["A", "B"], quartet.definitions.contains name) ∧
    (∀ name ∈ ["A", "B"], ¬Misled final.plans name) ∧ result.renameMap.target "D" = "C" ∧
    ((∀ a ∈ ["A", "B"], ∀ b ∈ ["A", "B"],
      result.renameMap.target a = result.renameMap.target b) ↔
        JoinedLate final.plans ["A", "B"]) := by
  have hrun : ((quartet.consolidate? { keepSeparate := [["A", "B"]] }).toOption.map fun result =>
        result.renameMap.target "D",
      (quartet.progress? { keepSeparate := [["A", "B"]] }).toOption.map fun final =>
        ["A", "B"].all fun name =>
          (composed .empty final.plans).target name = follow final.plans name) =
      (some "C", some true) := by decide +kernel
  obtain ⟨hmerged, htracks⟩ := Prod.mk.inj hrun
  obtain ⟨result, hresult, hmerged⟩ := exists_ok_of_toOption hmerged
  obtain ⟨final, hfinal, htracks⟩ := exists_ok_of_toOption htracks
  have htwo : ∃ a ∈ ["A", "B"], ∃ b ∈ ["A", "B"], a ≠ b := by decide
  have hdefined : ∀ name ∈ ["A", "B"], quartet.definitions.contains name := by decide +kernel
  have hsound : ∀ name ∈ ["A", "B"], ¬Misled final.plans name := fun name hname =>
    (target_composed_eq_follow_iff _ _).1 (of_decide_eq_true (List.all_eq_true.1 htracks name hname))
  obtain ⟨final', hfinal', hjoins⟩ := consolidate?_joins_iff hresult
  rw [hfinal, Except.ok.injEq] at hfinal'
  subst hfinal'
  exact ⟨result, final, hresult, hfinal, htwo, hdefined, hsound, hmerged,
    hjoins _ List.mem_cons_self htwo hdefined hsound⟩

/-- `Pa` becomes `P` in the first pass, in which `V` becomes `U` and so makes `Pb` equal to `P`. The
second pass finds `P` and `Pb`, and no `Pa`. -/
def relay : Document :=
  ofSchemas [
    ("P", .record [("allOf", .array [.refTo "#/components/schemas/U"])]),
    ("Pa", .record [("allOf", .array [.refTo "#/components/schemas/U"])]),
    ("Pb", .record [("allOf", .array [.refTo "#/components/schemas/V"])]),
    ("U", .record [("type", .string "string")]),
    ("V", .record [("type", .string "string")])]

set_option maxRecDepth 100000 in
theorem consolidate?_joins_relay : ∃ result,
    relay.consolidate? { keepSeparate := [["Pa", "Pb"]] } = .ok result ∧
    (∀ name ∈ ["Pa", "Pb"], relay.definitions.contains name) ∧
    result.renameMap.target "Pa" = "P" ∧ result.renameMap.target "Pb" = "P" := by
  obtain ⟨result, hresult, htargets⟩ : ∃ result,
      relay.consolidate? { keepSeparate := [["Pa", "Pb"]] } = .ok result ∧
        (result.renameMap.target "Pa", result.renameMap.target "Pb") = ("P", "P") :=
    exists_ok_of_toOption (by decide +kernel)
  obtain ⟨ha, hb⟩ := Prod.mk.inj htargets
  exact ⟨result, hresult, by decide +kernel, ha, hb⟩

end Document

end SchemaMerge
