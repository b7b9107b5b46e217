import SchemaMerge.Proofs.Extracting
import SchemaMerge.Proofs.Passes
import SchemaMerge.Proofs.TierRefinement
import SchemaMerge.Proofs.Tracking

/-!
Running a consolidation on its own output. The passes end with a document that has nothing left to
merge, so a second run merges nothing either. But shapes are extracted only before the passes, and
merging can make inline objects equal that were not: whether a second run changes anything depends
on what it would extract, and on nothing else (`Document.consolidate?_again_iff`).
-/

namespace SchemaMerge

namespace Passes

variable {options : Options} {table : NamingTable} {document final : Document} {plans : List Plan}

/-- The passes end with a document that has nothing left to merge. -/
theorem classified_final (h : Passes options table document plans final) :
    classifyForMerge options.maxDepth options.tier options.keepSeparate final.definitions =
      .ok [] := by
  induction h with
  | done hgroups => exact hgroups
  | pass _ _ ih => exact ih

end Passes

/-- A map of passes is empty only if there were none. -/
theorem Passes.eq_nil_of_composed {options : Options} {table : NamingTable}
    {document final : Document} {plans : List Plan}
    (h : Passes options table document plans final) (hempty : composed .empty plans = .empty) :
    plans = [] := by
  cases h with
  | done => rfl
  | @pass _ _ _ _ plan plans hpass _ =>
      obtain ⟨name, hname⟩ := hpass.exists_renamed
      have hsome : ((composed .empty (plan :: plans)).get? name).isSome :=
        isSome_get?_composed.2 (.inr ⟨plan, List.mem_cons_self, hname⟩)
      rw [hempty] at hsome
      cases hsome

namespace Document

variable {document : Document} {options : Options} {once : Consolidation}

/-- What has been analyzed once and has nothing left to merge can be analyzed again. -/
theorem analyze?_ok {groups : List MergeGroup}
    (h : classifyForMerge options.maxDepth options.tier options.keepSeparate
      document.definitions = .ok groups) :
    ∃ report, document.analyze? options = .ok report := by
  obtain ⟨found, hfound, _⟩ := bind_eq_ok.1 h
  have hall := classify_ok hfound
  obtain ⟨exact', h₁⟩ := hall .exact
  obtain ⟨structural, h₂⟩ := hall .structural
  obtain ⟨loose, h₃⟩ := hall .structuralLoose
  obtain ⟨attributes, h₄⟩ := hall .attributes
  have hgroups : ∃ table, document.allGroups? options.maxDepth = .ok table := by
    rw [allGroups?]
    simp only [Tier.all, List.foldlM_cons, List.foldlM_nil, h₁, h₂, h₃, h₄]
    exact ⟨_, rfl⟩
  obtain ⟨table, htable⟩ := hgroups
  exact ⟨_, bind_eq_ok.2 ⟨table, htable, rfl⟩⟩

/-- A second run changes nothing iff it extracts nothing. -/
theorem consolidate?_again_iff (h : document.consolidate? options = .ok once) :
    (∃ twice, once.document.consolidate? options = .ok twice ∧
      twice.document = once.document ∧ twice.renameMap = .empty) ↔
    (options.extractInline →
      once.document.extractInline? options.maxDepth = .ok (once.document, [])) := by
  obtain ⟨table, _, start, extracted, final, htable, _, hstart, hpasses, _, hdocument, _⟩ :=
    consolidate?_eq_ok h
  have hfinal := hpasses.classified_final
  constructor
  · rintro ⟨twice, htwice, hsame, hempty⟩ hextract
    obtain ⟨_, _, start', extracted', final', _, _, hstart', hpasses', _, _, hmap'⟩ :=
      consolidate?_eq_ok htwice
    rw [start?, if_pos hextract] at hstart'
    have hplans : final'.plans = [] := hpasses'.eq_nil_of_composed (hmap'.symm.trans hempty)
    rw [hplans, hsame] at hpasses'
    cases hpasses'
    obtain ⟨hcount, _⟩ := definitionCount_extractInline? hstart'
    have hnone : extracted' = [] := by
      rw [← List.length_eq_zero_iff]
      omega
    rw [hstart', hnone]
  · intro hextract
    have hstart' : once.document.start? options = .ok (once.document, []) := by
      rw [start?]
      split
      case isTrue hinline => exact hextract hinline
      case isFalse => rfl
    obtain ⟨report, hreport⟩ := analyze?_ok hfinal
    have hrun : Progress.run? { working := once.document } options table
        (once.document.definitionCount + 1) = .ok { working := once.document } :=
      (Progress.run?_eq_ok (Nat.lt_succ_self _)).2 ⟨[], rfl, .done hfinal⟩
    refine ⟨_, bind_eq_ok.2 ⟨table, htable, bind_eq_ok.2 ⟨report, hreport, bind_eq_ok.2
      ⟨(once.document, []), hstart', bind_eq_ok.2 ⟨_, hrun, rfl⟩⟩⟩⟩, rfl, rfl⟩

set_option maxRecDepth 100000 in
theorem consolidate?_again_iff_twins : ∃ once, twins.consolidate? {} = .ok once ∧
    ((∃ twice, once.document.consolidate? {} = .ok twice ∧
      twice.document = once.document ∧ twice.renameMap = .empty) ↔
    (Options.extractInline {} →
      once.document.extractInline? (Options.maxDepth {}) = .ok (once.document, []))) := by
  obtain ⟨once, honce, _⟩ : ∃ once, twins.consolidate? {} = .ok once ∧
      once.document.definitionCount = 1 :=
    exists_ok_of_toOption (by decide +kernel)
  exact ⟨once, honce, consolidate?_again_iff honce⟩

/-- The objects below `C` become equal only when `B` is merged into `A`. -/
def lateTwins : Document :=
  ofSchemas [
    ("A", .record [("type", .string "string")]),
    ("B", .record [("type", .string "string")]),
    ("C", .record [("properties", .record [
      ("p", .record [
        ("properties", .record [("x", .refTo "#/components/schemas/A")]),
        ("type", .string "object")]),
      ("q", .record [
        ("properties", .record [("x", .refTo "#/components/schemas/B")]),
        ("type", .string "object")])])])]

set_option maxRecDepth 100000 in
theorem consolidate?_again_lateTwins :
    ∃ once, lateTwins.consolidate? { extractInline := true } = .ok once ∧
      ¬∃ twice, once.document.consolidate? { extractInline := true } = .ok twice ∧
        twice.document = once.document ∧ twice.renameMap = .empty := by
  obtain ⟨once, honce, htwice⟩ : ∃ once,
      lateTwins.consolidate? { extractInline := true } = .ok once ∧
        (once.document.definitionCount, (once.document.consolidate?
          { extractInline := true }).toOption.map fun twice => twice.document.definitionCount) =
            (2, some 3) :=
    exists_ok_of_toOption (by decide +kernel)
  refine ⟨once, honce, ?_⟩
  rintro ⟨twice, hagain, hsame, _⟩
  rw [hagain, Prod.mk.injEq] at htwice
  obtain ⟨honceCount, htwiceCount⟩ := htwice
  have hcount : twice.document.definitionCount = 3 := Option.some.inj htwiceCount
  rw [hsame, honceCount] at hcount
  omega

end Document

end SchemaMerge
