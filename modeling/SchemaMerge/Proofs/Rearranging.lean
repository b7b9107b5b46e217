import SchemaMerge.Proofs.Mentions
import SchemaMerge.Proofs.RenameChains

/-!
What a rename map does to the references of a document, one by one. It does not matter whether the
map comes from a plan or from explicit renames (`Made`): it renames definitions, and what it creates
is new (`RenameMap.Fits`). So a mention is there afterwards unless it stands in a definition that
goes, and it was there before unless it stands in one that is created. On the way the repointing puts
`RenameMap.reference` in the place of each text that it reaches, except for bare names that come out
as something else (`Mention.target_retext_iff`).
-/

namespace SchemaMerge

/-- The map renames definitions only. Those that it creates are new, each the copy of one that is
there. -/
structure RenameMap.Fits (map : RenameMap) (document : Document) : Prop where
  renamed : ∀ name canonical, map.get? name = some canonical → document.definitions.contains name
  created : ∀ name source, map.materialized.get? name = some source →
    document.definitions.contains name = false ∧ document.definitions.contains source

/-- The map of a plan for the groups of one classification of a document, or that of explicit
renames of its definitions. -/
inductive Made (document : Document) : RenameMap → Prop where
  | planned {limit : UInt64} {tier : MergeTier} {groups : List MergeGroup} {table : NamingTable}
      {policy : ConflictPolicy} {plan : Plan}
      (hgroups : Classified limit tier document.definitions groups)
      (hplan : Plan.ofGroups? groups document table policy = .ok plan) :
      Made document plan.renameMap
  | told {renames : NameMap String} {map : RenameMap}
      (hmap : planRenames? renames document = .ok map) : Made document map

theorem fits_of_planRenames? {document : Document} {renames : NameMap String} {map : RenameMap}
    (h : planRenames? renames document = .ok map) : map.Fits document := by
  obtain ⟨hrenamable, haliases, hcreated⟩ := planRenames?_eq_ok_iff.1 h
  refine ⟨fun name canonical hname => ?_, fun name source hsource => ?_⟩
  · obtain ⟨next, hlink⟩ := ((get?_resolveChains_iff haliases).1 hname).exists_link
    exact hrenamable.known name hlink.contains
  · rw [hcreated] at hsource
    obtain ⟨hnew, hlink, _⟩ := least_of_createdTargets hsource
    exact ⟨hnew, hrenamable.known source hlink.contains⟩

theorem Made.fits {document : Document} {map : RenameMap} (h : Made document map) :
    map.Fits document := by
  cases h with
  | planned hgroups hplan =>
      obtain ⟨allotted, hallotted⟩ := Plan.exists_allotted hgroups hplan
      exact ⟨fun _ _ hname => hallotted.contains_of_get? hgroups hname,
        fun _ _ hsource => hallotted.created_new hgroups hsource⟩
  | told hmap => exact fits_of_planRenames? hmap

namespace RenameMap.Fits

variable {map : RenameMap} {document : Document} {created : NameMap Json}

/-- A definition that goes is one of the document, so it is not created. -/
theorem get?_materialized_of_contains (h : map.Fits document) {name : String}
    (hname : document.definitions.contains name) : map.materialized.get? name = none := by
  rw [Option.eq_none_iff_forall_ne_some]
  intro source hsource
  rw [(h.created name source hsource).1] at hname
  cases hname

theorem get?_rearranged (h : map.Fits document)
    (hcreated : map.withCreated? document.definitions = .ok created) (name : String) :
    (document.rearranged map created).definitions.get? name =
      if (map.get? name).isSome then none else document.definitions.get? (map.source name) := by
  have hname : (document.rearranged map created).definitions.get? name =
      (map.withoutAliases created).get? name := rfl
  rw [hname, map.get?_withoutAliases, RenameMap.get?_withCreated? h.created hcreated]
  rfl

theorem ordered_rearranged (h : map.Fits document)
    (hcreated : map.withCreated? document.definitions = .ok created)
    (hordered : document.toJson.Ordered) : (document.rearranged map created).toJson.Ordered := by
  rw [Document.ordered_toJson_iff] at hordered ⊢
  obtain ⟨hdefinitions, hsections, hrest⟩ := hordered
  refine ⟨fun name body hbody => ?_, hsections, hrest⟩
  rw [h.get?_rearranged hcreated] at hbody
  split at hbody
  · cases hbody
  · exact hdefinitions _ body hbody

/-- A mention stays unless it stands in a definition that goes. -/
theorem mention_stays (h : map.Fits document)
    (hcreated : map.withCreated? document.definitions = .ok created) {mention : Mention}
    (hmention : mention ∈ document.mentions) :
    mention ∈ (document.rearranged map created).mentions ∨
      ∃ inner : Mention, mention = inner.fromContainer ∧ (map.get? inner.owner).isSome := by
  rcases Document.mentions_cases hmention with ⟨inner, hinner, rfl⟩ | ⟨_, houter⟩
  · cases hname : map.get? inner.owner with
    | some canonical => exact .inr ⟨inner, rfl, by rw [hname]; rfl⟩
    | none =>
        left
        refine Document.fromContainer_mem (Mention.mem_all_of_get?_eq ?_ hinner)
        rw [h.get?_rearranged hcreated, hname, RenameMap.source,
          h.get?_materialized_of_contains (Mention.contains_owner hinner)]
        rfl
  · exact .inl (houter _)

/-- A mention was there before unless it stands in a definition that is created. -/
theorem mention_origin (h : map.Fits document)
    (hcreated : map.withCreated? document.definitions = .ok created) {mention : Mention}
    (hmention : mention ∈ (document.rearranged map created).mentions) :
    mention ∈ document.mentions ∨
      ∃ inner : Mention, mention = inner.fromContainer ∧ map.materialized.contains inner.owner := by
  rcases Document.mentions_cases hmention with ⟨inner, hinner, rfl⟩ | ⟨_, houter⟩
  · cases hname : map.materialized.get? inner.owner with
    | some source => exact .inr ⟨inner, rfl, NameMap.contains_iff.2 ⟨source, hname⟩⟩
    | none =>
        left
        refine Document.fromContainer_mem (Mention.mem_all_of_get?_eq ?_ hinner)
        have hkept : (map.get? inner.owner).isSome = false := by
          have hcontains := Mention.contains_owner hinner
          rw [NameMap.contains, h.get?_rearranged hcreated] at hcontains
          split at hcontains
          · cases hcontains
          · rwa [← Bool.not_eq_true]
        rw [h.get?_rearranged hcreated, hkept, RenameMap.source, hname]
        rfl
  · have hsame : (document.rearranged map created).withDefinitions document.definitions =
        document := rfl
    rw [← hsame]
    exact .inl (houter _)

end RenameMap.Fits

namespace Mention

variable {map : RenameMap} {mention : Mention}

/-- The mention is a bare name that is replaced, and not by one that the scan takes for a bare name
too. -/
def Misread (map : RenameMap) (mention : Mention) : Prop :=
  mention.IsBare ∧ map.target mention.text ≠ mention.text ∧
    (mention.entry → ¬SchemaRef.isBareName (map.target mention.text))

/-- The scan reads what is reached as the repointed reference, unless it misreads it. -/
theorem target_retext_iff (hreached : mention.Reached)
    (hscan : mention.place = .reference → mention.entry = false) :
    (mention.retext map.textAt).target = map.reference mention.target ↔ ¬mention.Misread map := by
  by_cases hbare : mention.IsBare
  · have htext := text_retext_of_isBare map hbare
    rw [Misread, and_iff_right hbare]
    by_cases hentry : mention.entry
    · have hnew : (mention.retext map.textAt).target =
          Site.mappingTarget (map.target mention.text) := by
        rw [← htext]
        exact if_pos hentry
      rw [hnew, reference_target_of_isBareName hentry hbare.2, Site.mappingTarget]
      by_cases hname : SchemaRef.isBareName (map.target mention.text)
      · rw [if_pos hname]
        exact iff_of_true rfl fun h => h.2 hentry hname
      · rw [if_neg hname]
        have hother : map.target mention.text ≠ mention.text := by
          intro heq
          rw [heq] at hname
          exact hname hbare.2
        exact iff_of_false (SchemaRef.ofName_ne _).symm fun h => h ⟨hother, fun _ => hname⟩
    · have hnew : (mention.retext map.textAt).target = map.target mention.text := by
        rw [← htext]
        exact target_of_not_entry hentry
      rw [hnew, target_of_not_entry hentry, map.reference_of_split_eq_none
        (SchemaRef.split?_of_isBareName hbare.2)]
      simp [hentry]
  · exact iff_of_true (target_retext_of_not_isBare map hreached hscan hbare) fun h => hbare h.1

end Mention

end SchemaMerge
