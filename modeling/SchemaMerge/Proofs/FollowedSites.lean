import SchemaMerge.Proofs.Dangling
import SchemaMerge.Proofs.Rearranging

/-!
Whether references follow their definitions. After a map has been applied, every site that is not in
a definition that went reports what it reported before, with the name of the definition replaced and
the rest of the reference kept (`RenameMap.reference`). There are two exceptions
(`Document.repoint?_follows_iff`): the scan misreads a bare name that was replaced by a name with a
`#`, a slash or a dot in it, and it no longer takes the container of the definitions for a reference
if a definition called `$ref` went.
-/

namespace SchemaMerge

namespace Document

/-- What the document reports at the path is the reference with this text, and nothing else. -/
def Reports (document : Document) (path target : String) : Prop :=
  ∀ other, ⟨path, other⟩ ∈ document.sites ↔ other = target

theorem reports_iff {document : Document} (h : document.toJson.Ordered) {site : Site}
    (hsite : site ∈ document.sites) {target : String} :
    document.Reports site.path target ↔ site.target = target := by
  constructor
  · exact fun hreports => (hreports site.target).1 hsite
  · rintro rfl other
    constructor
    · exact fun hother => congrArg Site.target (site_eq_of_path_eq h hother hsite rfl)
    · rintro rfl
      exact hsite

theorem mem_sites_repointed_iff {document : Document} {map : RenameMap} {created : NameMap Json}
    {site : Site} : site ∈ (document.repointed map created).sites ↔
      ∃ mention ∈ (document.rearranged map created).mentions,
        (mention.retext map.textAt).site "#" = site := by
  rw [mem_sites_iff, mentions_repointed]
  simp only [List.mem_map, exists_exists_and_eq_and]

theorem ordered_repointed {document : Document} {map : RenameMap} {created : NameMap Json}
    (h : map.Fits document) (hcreated : map.withCreated? document.definitions = .ok created)
    (hordered : document.toJson.Ordered) : (document.repointed map created).toJson.Ordered := by
  rw [toJson_repointed]
  exact (h.ordered_rearranged hcreated hordered).retext map.textAt .root

end Document

namespace RenameMap

variable {map : RenameMap} {document : Document} {created : NameMap Json}

theorem get?_eq_none_of_isEmpty (h : map.isEmpty) (name : String) : map.get? name = none := by
  rw [isEmpty, Bool.and_eq_true, NameMap.isEmpty, List.isEmpty_iff] at h
  rw [get?, NameMap.get?, h.1]
  rfl

/-- A reference that keeps its text although its definition goes points at nothing. -/
theorem dangles_repointed_of_kept {text : String} (hchanged : map.reference text ≠ text) :
    (document.repointed map created).dangles text := by
  cases hsplit : SchemaRef.split? text with
  | none => exact absurd (map.reference_of_split_eq_none hsplit) hchanged
  | some entered =>
      obtain ⟨name, tail⟩ := entered
      rw [Document.dangles, Bool.not_eq_true', Bool.eq_false_iff]
      intro hresolves
      have hcontains := Document.contains_of_resolves hsplit hresolves
      rw [NameMap.contains, Document.get?_repointed_definitions] at hcontains
      rw [reference_of_split hsplit] at hchanged
      cases hname : map.get? name with
      | none =>
          rw [hname] at hchanged
          exact hchanged rfl
      | some canonical =>
          have halias : map.aliases.contains name := NameMap.contains_iff.2 ⟨canonical, hname⟩
          rw [if_pos halias] at hcontains
          cases hcontains

/-- A mention that stays and resolved before is read as the repointed reference, unless the scan
misreads it. -/
theorem reports_repointed_iff (h : map.Fits document)
    (hcreated : map.withCreated? document.definitions = .ok created)
    (hordered : document.toJson.Ordered) (hmap : map.isEmpty = false)
    (hout : document.repoint? map = .ok (document.repointed map created))
    {mention : Mention} (hmention : mention ∈ (document.rearranged map created).mentions)
    (hresolves : document.resolves document.toJson mention.target) :
    (document.repointed map created).Reports (mention.site "#").path
      (map.reference mention.target) ↔ ¬mention.Misread map := by
  have hsite : (mention.retext map.textAt).site "#" ∈ (document.repointed map created).sites :=
    Document.mem_sites_repointed_iff.2 ⟨mention, hmention, rfl⟩
  refine (Document.reports_iff (Document.ordered_repointed h hcreated hordered) hsite).trans ?_
  by_cases hreached : mention.Reached
  · exact Mention.target_retext_iff hreached fun hplace =>
      Mention.entry_eq_false hmention hplace
  · -- A text that is not repointed has to stay right, or else the audit would have refused it.
    have hbare : ¬mention.Misread map := fun hmisread => hreached (.inr hmisread.1.1)
    refine iff_of_true ?_ hbare
    rw [Mention.retext_eq_self hreached] at hsite ⊢
    by_contra hchanged
    have hdangles : (document.repointed map created).dangles mention.target :=
      dangles_repointed_of_kept (Ne.symm hchanged)
    have hbefore : document.dangles mention.target := (Document.dangles_of_repoint? hmap hout
      (List.mem_map.2 ⟨_, hsite, rfl⟩) hdangles).2
    rw [Document.dangles, hresolves] at hbefore
    cases hbefore

end RenameMap

namespace Document

variable {document out : Document} {map : RenameMap} {site : Site}

/-- What the container itself says is gone with the definition that says it. -/
theorem not_reports_container (h : map.Fits document) {created : NameMap Json}
    (hcreated : map.withCreated? document.definitions = .ok created)
    (hname : (map.get? "$ref").isSome) (target : String) :
    ¬(document.repointed map created).Reports SchemaRef.container target := by
  intro hreports
  obtain ⟨mention, hmention, hsite⟩ := mem_sites_repointed_iff.1 ((hreports target).2 rfl)
  have hbelow : mention.below = ["components", "schemas"] :=
    Pointer.descend_injective ((congrArg Site.path hsite).trans SchemaRef.container_eq)
  have hcontains := contains_of_below hmention hbelow
  rw [List.headD_nil, NameMap.contains, h.get?_rearranged hcreated, if_pos hname] at hcontains
  cases hcontains

/-- A mention that is not in a definition that goes stays, or it is the `$ref` of the container. -/
theorem stays_or_container (h : map.Fits document) {created : NameMap Json}
    (hcreated : map.withCreated? document.definitions = .ok created) {mention : Mention}
    (hmention : mention ∈ document.mentions)
    (hkept : ∀ name, (map.get? name).isSome → ¬SchemaRef.Inside name (mention.site "#").path) :
    mention ∈ (document.rearranged map created).mentions ∨
      (mention.site "#").path = SchemaRef.container ∧ (map.get? "$ref").isSome := by
  rcases h.mention_stays hcreated hmention with hstays | ⟨inner, rfl, hname⟩
  · exact .inl hstays
  · rcases inner.inside_or_container with hinside | ⟨howner, hcontainer⟩
    · exact absurd hinside (hkept inner.owner hname)
    · rw [howner] at hname
      exact .inr ⟨hcontainer, hname⟩

/-- A reference that resolves, and that is not in a definition that goes, follows its definition, if
it is neither the `$ref` of the container nor misread. -/
theorem repoint?_follows_iff (hmade : Made document map) (hordered : document.toJson.Ordered)
    (hout : document.repoint? map = .ok out) (hsite : site ∈ document.sites)
    (hresolves : document.resolves document.toJson site.target)
    (hkept : ∀ name, (map.get? name).isSome → ¬SchemaRef.Inside name site.path) :
    out.Reports site.path (map.reference site.target) ↔
      ¬(site.path = SchemaRef.container ∧ (map.get? "$ref").isSome) ∧
        ∀ mention ∈ document.mentions, mention.site "#" = site → ¬mention.Misread map := by
  have hfits := hmade.fits
  obtain ⟨mention, hmention, rfl⟩ := mem_sites_iff.1 hsite
  cases hmap : map.isEmpty with
  | true =>
      have hnone := RenameMap.get?_eq_none_of_isEmpty hmap
      rw [repoint?, if_pos hmap, pure_eq_ok] at hout
      subst hout
      refine iff_of_true ((reports_iff hordered hsite).2 ?_) ⟨?_, ?_⟩
      · exact (RenameMap.reference_eq_self hnone _).symm
      · rintro ⟨_, hname⟩
        rw [hnone] at hname
        cases hname
      · rintro other _ _ ⟨_, hreplaced, _⟩
        rw [RenameMap.target, hnone] at hreplaced
        exact hreplaced rfl
  | false =>
      obtain ⟨created, hcreated, rfl, _⟩ := repoint?_eq_ok hmap hout
      constructor
      · intro hreports
        have hcontainer : ¬((mention.site "#").path = SchemaRef.container ∧
            (map.get? "$ref").isSome) := by
          rintro ⟨hpath, hname⟩
          rw [hpath] at hreports
          exact not_reports_container hfits hcreated hname _ hreports
        refine ⟨hcontainer, fun other hother hsame => ?_⟩
        rw [← hsame] at hreports hresolves hkept hcontainer
        have hstays := (stays_or_container hfits hcreated hother hkept).resolve_right hcontainer
        exact (RenameMap.reports_repointed_iff hfits hcreated hordered hmap hout hstays
          hresolves).1 hreports
      · rintro ⟨hcontainer, hmisread⟩
        have hstays := (stays_or_container hfits hcreated hmention hkept).resolve_right hcontainer
        exact (RenameMap.reports_repointed_iff hfits hcreated hordered hmap hout hstays
          hresolves).2 (hmisread mention hmention rfl)

theorem applyRenames?_eq_ok {renames : NameMap String}
    (h : document.applyRenames? renames = .ok (out, map)) :
    planRenames? renames document = .ok map ∧ document.repoint? map = .ok out := by
  obtain ⟨other, hmap, h⟩ := bind_eq_ok.1 h
  obtain ⟨result, hout, h⟩ := bind_eq_ok.1 h
  cases h
  exact ⟨hmap, hout⟩

/-- A definition whose bare name is in the mapping of a discriminator. -/
def mapped : Document :=
  ofSchemas [
    ("A", .record [("type", .string "string")]),
    ("C", .record [("discriminator", .record [("mapping", .record [("a", .string "A")])])])]

/-- The site of the bare name. -/
def mappedSite : Site :=
  ⟨"#/components/schemas/C/discriminator/mapping/a", "#/components/schemas/A"⟩

example : mapped.sites = [mappedSite] := by decide +kernel

theorem not_inside_mappedSite (hnames : map.aliases.names = ["A"]) {name : String}
    (hname : (map.get? name).isSome) : ¬SchemaRef.Inside name mappedSite.path := by
  have hmem : name ∈ map.aliases.names := NameMap.mem_names_iff.2 hname
  rw [hnames, List.mem_singleton] at hmem
  subst hmem
  have hpath : mappedSite.path = Pointer.descend "#"
      ["components", "schemas", "C", "discriminator", "mapping", "a"] := by decide +kernel
  rw [hpath, SchemaRef.inside_descend_iff]
  simp

set_option maxRecDepth 100000 in
theorem repoint?_follows_iff_mapped : ∃ map out,
    planRenames? (.ofList [("A", "B")]) mapped = .ok map ∧ mapped.repoint? map = .ok out ∧
      map.reference mappedSite.target = "#/components/schemas/B" ∧
      (out.Reports mappedSite.path (map.reference mappedSite.target) ↔
        ¬(mappedSite.path = SchemaRef.container ∧ (map.get? "$ref").isSome) ∧
          ∀ mention ∈ mapped.mentions, mention.site "#" = mappedSite → ¬mention.Misread map) := by
  obtain ⟨⟨out, map⟩, happly, hrun⟩ : ∃ result,
      mapped.applyRenames? (.ofList [("A", "B")]) = .ok result ∧
        (result.2.aliases.names, result.2.reference mappedSite.target) =
          (["A"], "#/components/schemas/B") :=
    exists_ok_of_toOption (by decide +kernel)
  obtain ⟨hmap, hout⟩ := applyRenames?_eq_ok happly
  obtain ⟨hnames, hreference⟩ := Prod.mk.inj hrun
  have hordered : mapped.toJson.Ordered :=
    ordered_ofSchemas (by simp [Json.record, Fields.Ascending])
  exact ⟨map, out, hmap, hout, hreference, repoint?_follows_iff (.told hmap) hordered hout
    (by decide +kernel) (by decide +kernel) fun _ => not_inside_mappedSite hnames⟩

set_option maxRecDepth 100000 in
theorem repoint?_misreads_mapped : ∃ map out,
    planRenames? (.ofList [("A", "v1.A")]) mapped = .ok map ∧ mapped.repoint? map = .ok out ∧
      mappedSite ∈ mapped.sites ∧ mapped.resolves mapped.toJson mappedSite.target ∧
      (∀ name, (map.get? name).isSome → ¬SchemaRef.Inside name mappedSite.path) ∧
      map.reference mappedSite.target = "#/components/schemas/v1.A" ∧
      out.sites = [⟨mappedSite.path, "v1.A"⟩] := by
  obtain ⟨⟨out, map⟩, happly, hrun⟩ : ∃ result,
      mapped.applyRenames? (.ofList [("A", "v1.A")]) = .ok result ∧
        (result.2.aliases.names, result.2.reference mappedSite.target, result.1.sites) =
          (["A"], "#/components/schemas/v1.A", [⟨mappedSite.path, "v1.A"⟩]) :=
    exists_ok_of_toOption (by decide +kernel)
  obtain ⟨hmap, hout⟩ := applyRenames?_eq_ok happly
  obtain ⟨hnames, hrun⟩ := Prod.mk.inj hrun
  obtain ⟨hreference, hsites⟩ := Prod.mk.inj hrun
  exact ⟨map, out, hmap, hout, by decide +kernel, by decide +kernel,
    fun _ => not_inside_mappedSite hnames, hreference, hsites⟩

end Document

end SchemaMerge
