import SchemaMerge.Proofs.Tracking

/-!
Names that come back. A pass can create a definition under a name that an earlier pass has given up.
The map of the run still lists such a name as one that is gone, although a definition has it again
(`Passes.renamed_and_contains_iff`). Every name of the map leads to a definition of the output all
the same. So the map is resolved, and no name of it leads to another one, iff no name has come back
for good (`Document.renameMap_resolved_iff`).
-/

namespace SchemaMerge

/-- One plan gives the name up, a later one creates a definition under it, and none after that gives
it up again. -/
def Revived (plans : List Plan) (name : String) : Prop :=
  ∃ before plan after, plans = before ++ plan :: after ∧
    (∃ earlier ∈ before, (earlier.renameMap.get? name).isSome) ∧
    plan.renameMap.materialized.contains name ∧
    ∀ later ∈ after, later.renameMap.get? name = none

/-- Every name that goes is that of no definition and is sent to that of one, which does not go. -/
def RenameMap.Resolved (map : RenameMap) (document : Document) : Prop :=
  ∀ name target, map.get? name = some target →
    map.get? target = none ∧ document.definitions.contains name = false ∧
      document.definitions.contains target

namespace Pass

variable {options : Options} {table : NamingTable} {document next : Document}
  {groups : List MergeGroup} {plan : Plan} {name : String}

/-- What a pass creates is a definition afterwards and was none before. -/
theorem contains_created (h : Pass options table document groups plan next)
    (hname : plan.renameMap.materialized.contains name) :
    document.definitions.contains name = false ∧ next.definitions.contains name := by
  obtain ⟨allotted, ha⟩ := h.exists_allotted
  obtain ⟨source, hsource⟩ := NameMap.contains_iff.1 hname
  obtain ⟨hnew, hold⟩ := ha.created_new h.classified hsource
  refine ⟨hnew, (ha.contains_definitions h.classified h.ne_nil h.repointed).2 ⟨?_, ?_⟩⟩
  · rw [Bool.eq_false_iff]
    intro halias
    obtain ⟨canonical, hcanonical⟩ := NameMap.contains_iff.1 halias
    rw [ha.contains_of_get? h.classified hcanonical] at hnew
    cases hnew
  · rw [RenameMap.source, hsource, Option.getD_some]
    exact hold

/-- What a pass renames is no definition afterwards. -/
theorem not_contains_renamed (h : Pass options table document groups plan next)
    (hname : (plan.renameMap.get? name).isSome) : next.definitions.contains name = false := by
  obtain ⟨allotted, ha⟩ := h.exists_allotted
  rw [Bool.eq_false_iff]
  intro hcontains
  have hkept := ((ha.contains_definitions h.classified h.ne_nil h.repointed).1 hcontains).1
  rw [RenameMap.get?, ← NameMap.contains, hkept] at hname
  cases hname

end Pass

namespace Passes

variable {options : Options} {table : NamingTable} {document final : Document} {plans : List Plan}
  {name : String}

/-- The name that the passes lead a definition to is that of a definition in the end. -/
theorem contains_follow (h : Passes options table document plans final)
    (hname : document.definitions.contains name) :
    final.definitions.contains (follow plans name) := by
  induction h generalizing name with
  | done => exact hname
  | pass hpass _ ih => exact ih (hpass.contains_target hname)

/-- A definition that no pass renames stays. -/
theorem contains_of_kept (h : Passes options table document plans final)
    (hname : document.definitions.contains name)
    (hkept : ∀ plan ∈ plans, plan.renameMap.get? name = none) : final.definitions.contains name := by
  rw [← follow_of_kept hkept]
  exact h.contains_follow hname

/-- A definition of the output that was none at first, and that is not renamed, has been created. -/
theorem exists_created (h : Passes options table document plans final)
    (hname : document.definitions.contains name = false)
    (hkept : ∀ plan ∈ plans, plan.renameMap.get? name = none)
    (hfinal : final.definitions.contains name) :
    ∃ before plan after, plans = before ++ plan :: after ∧
      plan.renameMap.materialized.contains name := by
  induction h with
  | done =>
      rw [hfinal] at hname
      cases hname
  | @pass _ next _ _ plan plans hpass _ ih =>
      cases hcreated : plan.renameMap.materialized.contains name with
      | true => exact ⟨[], plan, plans, rfl, hcreated⟩
      | false =>
          have hnext : next.definitions.contains name = false := by
            rw [Bool.eq_false_iff]
            intro hcontains
            have hstays := (hpass.contains_next name).2 (NameMap.not_contains_iff.1 hcreated)
            rw [(hstays.1 hcontains).2] at hname
            cases hname
          obtain ⟨before, creator, after, rfl, hcreator⟩ := ih hnext
            (fun later hlater => hkept later (List.mem_cons_of_mem _ hlater)) hfinal
          exact ⟨plan :: before, creator, after, rfl, hcreator⟩

/-- A name that some pass gives up is that of a definition in the end iff it has come back. -/
theorem renamed_and_contains_iff (h : Passes options table document plans final) :
    (∃ plan ∈ plans, (plan.renameMap.get? name).isSome) ∧ final.definitions.contains name ↔
      Revived plans name := by
  constructor
  · rintro ⟨⟨renamer, hrenamer, hrenamed⟩, hfinal⟩
    rcases exists_last_rename plans name with hnone | ⟨before, plan, after, rfl, hplan, hafter⟩
    · rw [hnone renamer hrenamer] at hrenamed
      cases hrenamed
    obtain ⟨_, _, next, hpass, hlater, _⟩ := h.exists_pass
    obtain ⟨between, creator, later, rfl, hcreator⟩ :=
      hlater.exists_created (hpass.not_contains_renamed hplan) hafter hfinal
    refine ⟨before ++ plan :: between, creator, later, by simp, ⟨plan, by simp, hplan⟩, hcreator, ?_⟩
    exact fun other hother => hafter other (by simp [hother])
  · rintro ⟨before, plan, after, rfl, ⟨earlier, hearlier, hrenamed⟩, hcreated, hkept⟩
    obtain ⟨_, _, next, hpass, hlater, _⟩ := h.exists_pass
    refine ⟨⟨earlier, by simp [hearlier], hrenamed⟩, ?_⟩
    exact hlater.contains_of_kept (hpass.contains_created hcreated).2 hkept

/-- The map of the passes sends every name to that of a definition of the output. -/
theorem contains_of_get?_composed (h : Passes options table document plans final) {target : String}
    (htarget : (composed .empty plans).get? name = some target) :
    final.definitions.contains target := by
  have hsome : ((composed .empty plans).get? name).isSome := by rw [htarget]; rfl
  obtain hempty | ⟨renamer, hrenamer, hrenamed⟩ := isSome_get?_composed.1 hsome
  · cases hempty
  rcases exists_last_rename plans name with hnone | ⟨before, plan, after, rfl, hplan, hafter⟩
  · rw [hnone renamer hrenamer] at hrenamed
    cases hrenamed
  have hlast : (composed .empty (before ++ plan :: after)).target name =
      follow (plan :: after) name := target_composed_of_renamed hplan hafter .empty
  rw [RenameMap.target, htarget, Option.getD_some] at hlast
  obtain ⟨_, _, next, hpass, hlater, _⟩ := h.exists_pass
  have hmember := (hpass.contains_next name).1 hplan
  rw [hlast]
  exact hlater.contains_follow (hpass.contains_target hmember)

/-- The map of the passes is resolved iff no name that it lists has come back. -/
theorem resolved_composed_iff (h : Passes options table document plans final) :
    (composed .empty plans).Resolved final ↔ ∀ name, ¬Revived plans name := by
  have hlisted : ∀ name, ((composed .empty plans).get? name).isSome ∧
      final.definitions.contains name ↔ Revived plans name := by
    intro name
    rw [← h.renamed_and_contains_iff, isSome_get?_composed]
    exact and_congr_left' (or_iff_right Bool.false_ne_true)
  constructor
  · intro hresolved name hrevived
    obtain ⟨hsome, hfinal⟩ := (hlisted name).2 hrevived
    obtain ⟨target, htarget⟩ := Option.isSome_iff_exists.1 hsome
    rw [(hresolved name target htarget).2.1] at hfinal
    cases hfinal
  · intro hnone name target htarget
    have hcontains := h.contains_of_get?_composed htarget
    refine ⟨?_, ?_, hcontains⟩
    · rw [← Option.not_isSome_iff_eq_none]
      exact fun hsome => hnone target ((hlisted target).1 ⟨hsome, hcontains⟩)
    · rw [Bool.eq_false_iff]
      exact fun hfinal => hnone name ((hlisted name).1 ⟨by rw [htarget]; rfl, hfinal⟩)

end Passes

namespace Document

/-- The map that a consolidation returns sends every name to that of a definition of the output. It
is resolved iff no name has come back. -/
theorem renameMap_resolved_iff {document : Document} {options : Options} {result : Consolidation}
    (h : document.consolidate? options = .ok result) :
    ∃ final, document.progress? options = .ok final ∧
      (∀ name target, result.renameMap.get? name = some target →
        result.document.definitions.contains target) ∧
      (result.renameMap.Resolved result.document ↔ ∀ name, ¬Revived final.plans name) := by
  obtain ⟨_, _, _, _, final, _, _, _, hpasses, hprogress, _, hmap⟩ := consolidate?_eq_ok h
  refine ⟨final, hprogress, ?_⟩
  rw [hmap]
  exact ⟨fun name target => hpasses.contains_of_get?_composed, hpasses.resolved_composed_iff⟩

set_option maxRecDepth 100000 in
/-- The twins become one definition. -/
theorem consolidate?_twins : ∃ result, twins.consolidate? {} = .ok result ∧
    result.renameMap.get? "B" = some "A" ∧ result.report.after.definitions = 1 := by
  obtain ⟨result, hresult, hrun⟩ : ∃ result, twins.consolidate? {} = .ok result ∧
      (result.renameMap.get? "B", result.report.after.definitions) = (some "A", 1) :=
    exists_ok_of_toOption (by decide +kernel)
  exact ⟨result, hresult, Prod.mk.inj hrun⟩

theorem renameMap_resolved_iff_twins : ∃ result, twins.consolidate? {} = .ok result ∧
    result.renameMap.get? "B" = some "A" ∧ ∃ final, twins.progress? {} = .ok final ∧
      (∀ name target, result.renameMap.get? name = some target →
        result.document.definitions.contains target) ∧
      (result.renameMap.Resolved result.document ↔ ∀ name, ¬Revived final.plans name) := by
  obtain ⟨result, hresult, hget, _⟩ := consolidate?_twins
  exact ⟨result, hresult, hget, renameMap_resolved_iff hresult⟩

/-- The first pass gives up `DeleteResponse` for `C`, which makes the two responses that are left
equal. The second one merges them under the name that has become free. -/
def successor : Document :=
  ofSchemas [
    ("C", .record [("type", .string "string")]),
    ("DeleteAResponse", .record [("allOf", .array [.refTo "#/components/schemas/C"])]),
    ("DeleteBResponse", .record [("allOf", .array [
      .refTo "#/components/schemas/DeleteResponse"])]),
    ("DeleteResponse", .record [("type", .string "string")])]

set_option maxRecDepth 100000 in
/-- The name that is given up comes back, and the report takes the definition that has it then for
the one that went. -/
theorem consolidate?_successor : ∃ result, successor.consolidate? {} = .ok result ∧
    (result.renameMap.get? "DeleteAResponse" = some "DeleteResponse" ∧
      result.renameMap.get? "DeleteResponse" = some "C" ∧
      result.document.definitions.contains "DeleteResponse") ∧
    result.report.plan.map (fun stats => (stats.schemasRemoved, stats.schemasAdded)) =
      some (3, 0) ∧ result.report.after.definitions = 2 := by
  obtain ⟨result, hresult, hrun⟩ : ∃ result, successor.consolidate? {} = .ok result ∧
      ((result.renameMap.get? "DeleteAResponse", result.renameMap.get? "DeleteResponse",
          result.document.definitions.contains "DeleteResponse"),
        result.report.plan.map fun stats => (stats.schemasRemoved, stats.schemasAdded),
        result.report.after.definitions) =
          ((some "DeleteResponse", some "C", true), some (3, 0), 2) :=
    exists_ok_of_toOption (by decide +kernel)
  obtain ⟨hmap, hreport⟩ := Prod.mk.inj hrun
  obtain ⟨hmember, hmap⟩ := Prod.mk.inj hmap
  exact ⟨result, hresult, ⟨hmember, Prod.mk.inj hmap⟩, Prod.mk.inj hreport⟩

theorem renameMap_unresolved_successor : ∃ result, successor.consolidate? {} = .ok result ∧
    result.renameMap.get? "DeleteAResponse" = some "DeleteResponse" ∧
    result.renameMap.get? "DeleteResponse" = some "C" ∧
    result.document.definitions.contains "DeleteResponse" ∧
    ¬result.renameMap.Resolved result.document := by
  obtain ⟨result, hresult, ⟨hmember, hname, hcontains⟩, _⟩ := consolidate?_successor
  refine ⟨result, hresult, hmember, hname, hcontains, fun hresolved => ?_⟩
  rw [(hresolved _ _ hname).2.1] at hcontains
  cases hcontains

end Document

end SchemaMerge
