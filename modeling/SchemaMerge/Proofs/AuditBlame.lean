import SchemaMerge.Proofs.FollowedSites

/-!
Whom the audit of a rename map blames. A map is refused with a list of the references that point at
nothing after it and whose text did not do so before. Most of them resolved before, or are in a
definition that is created: the map has broken them. But a reference into a part of a definition that
was missing all along gets a new text with the new name of the definition (`Document.Carried`), and
the audit knows the old ones by their text only. So the map can be refused for references that it
has not broken, and for nothing else (`Document.audit_blames_iff`).
-/

namespace SchemaMerge

namespace Document

/-- The map has to do with what is wrong at the site: the reference that stood there resolved, or the
site is in a definition that the map creates. -/
def Blames (document : Document) (map : RenameMap) (site : Site) : Prop :=
  (∃ old ∈ document.sites, old.path = site.path ∧
    document.resolves document.toJson old.target) ∨
  ∃ name, map.materialized.contains name ∧ SchemaRef.Inside name site.path

/-- The reference that stood at the site pointed at a missing part of a definition already, and has
been repointed with that definition. -/
def Carried (document : Document) (map : RenameMap) (site : Site) : Prop :=
  ∃ old ∈ document.danglingSites, old.path = site.path ∧ ∃ name below canonical,
    SchemaRef.split? old.target = some (name, below) ∧ below ≠ "" ∧
      map.get? name = some canonical ∧ site.target = SchemaRef.ofName canonical ++ below

variable {document : Document} {map : RenameMap} {listed : List Site} {site : Site}

/-- A map that is refused by the audit could be applied, and this is what the audit has found. -/
theorem repoint?_eq_dangling (h : map.Fits document)
    (hfail : document.repoint? map = .error (.dangling listed)) :
    ∃ created, map.withCreated? document.definitions = .ok created ∧
      ∀ site, site ∈ listed ↔ site ∈ (document.repointed map created).danglingSites ∧
        site.target ∉ document.danglingSites.map (·.target) := by
  obtain ⟨created, hcreated⟩ := RenameMap.exists_withCreated? fun name source hsource =>
    (h.created name source hsource).2
  refine ⟨created, hcreated, fun site => ?_⟩
  rw [repoint?] at hfail
  split at hfail
  case isTrue => cases hfail
  case isFalse =>
    rw [hcreated] at hfail
    dsimp only [bind, Except.bind] at hfail
    split at hfail
    case isTrue => cases hfail
    case isFalse =>
      cases hfail
      rw [List.mem_filter, decide_eq_true_iff]

/-- Where something is mentioned in a definition, there is that definition. -/
theorem contains_of_inside (hsite : site ∈ document.sites) {name : String}
    (hinside : SchemaRef.Inside name site.path) : document.definitions.contains name := by
  obtain ⟨mention, hmention, rfl⟩ := mem_sites_iff.1 hsite
  obtain ⟨more, hbelow⟩ := SchemaRef.inside_descend_iff.1 hinside
  exact contains_of_below hmention hbelow

theorem contains_of_container (hsite : site ∈ document.sites)
    (hpath : site.path = SchemaRef.container) : document.definitions.contains "$ref" := by
  obtain ⟨mention, hmention, rfl⟩ := mem_sites_iff.1 hsite
  exact contains_of_below hmention
    (Pointer.descend_injective (hpath.trans SchemaRef.container_eq))

/-- A bare name that is that of no definition is left alone. -/
theorem retext_eq_self_of_dangling (h : map.Fits document) {mention : Mention}
    (hbare : mention.IsBare)
    (hdangles : document.resolves document.toJson mention.target = false) :
    mention.retext map.textAt = mention := by
  by_cases hentry : mention.entry
  · have hsplit := Mention.split?_target_of_isBareName hentry hbare.2
    rw [resolves_of_split? hsplit] at hdangles
    have hname : map.get? mention.text = none := by
      rw [Option.eq_none_iff_forall_ne_some]
      intro canonical hcanonical
      rw [h.renamed _ canonical hcanonical] at hdangles
      cases hdangles
    have htext : map.textAt mention.place mention.text = mention.text := by
      refine (Mention.text_retext_of_isBare map hbare).trans ?_
      rw [RenameMap.target, hname, Option.getD_none]
    rw [Mention.retext, htext]
  · rw [Mention.target_of_not_entry hentry,
      resolves_of_split?_eq_none (SchemaRef.split?_of_isBareName hbare.2)] at hdangles
    cases hdangles

/-- A reference that pointed at nothing is listed only if it has been repointed with its
definition. -/
theorem carried_of_dangling (h : map.Fits document) {mention : Mention}
    (hmention : mention ∈ document.mentions)
    (hdangles : document.resolves document.toJson mention.target = false)
    (hnew : (mention.retext map.textAt).target ∉ document.danglingSites.map (·.target)) :
    document.Carried map ((mention.retext map.textAt).site "#") := by
  have hold : mention.site "#" ∈ document.danglingSites :=
    mem_danglingSites_iff.2 ⟨mem_sites_iff.2 ⟨mention, hmention, rfl⟩, hdangles⟩
  have hchanged : (mention.retext map.textAt).target ≠ mention.target := by
    intro hsame
    rw [hsame] at hnew
    exact hnew (List.mem_map.2 ⟨_, hold, rfl⟩)
  have hreached : mention.Reached := by
    by_contra hunreached
    rw [Mention.retext_eq_self hunreached] at hchanged
    exact hchanged rfl
  have hbare : ¬mention.IsBare := by
    intro hbare
    rw [retext_eq_self_of_dangling h hbare hdangles] at hchanged
    exact hchanged rfl
  have htarget := Mention.target_retext_of_not_isBare map hreached
    (fun hplace => Mention.entry_eq_false hmention hplace) hbare
  rw [htarget] at hchanged
  cases hsplit : SchemaRef.split? mention.target with
  | none => exact absurd (map.reference_of_split_eq_none hsplit) hchanged
  | some entered =>
      obtain ⟨name, below⟩ := entered
      rw [RenameMap.reference_of_split hsplit] at hchanged htarget
      cases hname : map.get? name with
      | none =>
          rw [hname] at hchanged
          exact absurd rfl hchanged
      | some canonical =>
          rw [hname] at htarget
          refine ⟨_, hold, rfl, name, below, canonical, hsplit, ?_, hname, htarget⟩
          rintro rfl
          rw [resolves_of_split? hsplit, h.renamed name canonical hname] at hdangles
          cases hdangles

/-- What is listed is to be blamed on the map, or it was carried along, or it is what a definition
that was created under the name `$ref` says at the container. -/
theorem listed_cases (h : map.Fits document)
    (hfail : document.repoint? map = .error (.dangling listed)) (hsite : site ∈ listed) :
    document.Blames map site ∨ document.Carried map site ∨
      site.path = SchemaRef.container ∧ map.materialized.contains "$ref" := by
  obtain ⟨created, hcreated, hlisted⟩ := repoint?_eq_dangling h hfail
  obtain ⟨hdangling, hnew⟩ := (hlisted site).1 hsite
  obtain ⟨mention, hmention, rfl⟩ :=
    mem_sites_repointed_iff.1 (mem_danglingSites_iff.1 hdangling).1
  rcases h.mention_origin hcreated hmention with hold | ⟨inner, rfl, hname⟩
  · cases hresolves : document.resolves document.toJson mention.target with
    | true => exact .inl (.inl ⟨_, mem_sites_iff.2 ⟨mention, hold, rfl⟩, rfl, hresolves⟩)
    | false => exact .inr (.inl (carried_of_dangling h hold hresolves hnew))
  · rcases inner.inside_or_container with hinside | ⟨howner, hcontainer⟩
    · exact .inl (.inr ⟨inner.owner, hname, hinside⟩)
    · rw [howner] at hname
      exact .inr (.inr ⟨hcontainer, hname⟩)

/-- A created definition is new, so nothing was mentioned in it before. -/
theorem not_inside_created (h : map.Fits document) (hsite : site ∈ document.sites) {name : String}
    (hname : map.materialized.contains name) : ¬SchemaRef.Inside name site.path := by
  intro hinside
  obtain ⟨source, hsource⟩ := NameMap.contains_iff.1 hname
  have hcontains := contains_of_inside hsite hinside
  rw [(h.created name source hsource).1] at hcontains
  cases hcontains

theorem not_blames_of_carried (h : map.Fits document) (hordered : document.toJson.Ordered)
    (hcarried : document.Carried map site) : ¬document.Blames map site := by
  obtain ⟨old, hold, hpath, _⟩ := hcarried
  obtain ⟨hsite, hdangles⟩ := mem_danglingSites_iff.1 hold
  rintro (⟨other, hother, hpath', hresolves⟩ | ⟨name, hname, hinside⟩)
  · rw [site_eq_of_path_eq hordered hother hsite (hpath'.trans hpath.symm), hdangles] at hresolves
    cases hresolves
  · rw [← hpath] at hinside
    exact not_inside_created h hsite hname hinside

theorem not_blames_container (h : map.Fits document) (hpath : site.path = SchemaRef.container)
    (hname : map.materialized.contains "$ref") : ¬document.Blames map site := by
  rintro (⟨old, hold, hsame, _⟩ | ⟨name, _, hinside⟩)
  · obtain ⟨source, hsource⟩ := NameMap.contains_iff.1 hname
    have hcontains := contains_of_container hold (hsame.trans hpath)
    rw [(h.created _ source hsource).1] at hcontains
    cases hcontains
  · rw [hpath, SchemaRef.container_eq, SchemaRef.inside_descend_iff] at hinside
    obtain ⟨more, hmore⟩ := hinside
    cases hmore

/-- The audit blames the map for something that it did, unless all that is listed was carried along
or is said at the container by a definition that was created under the name `$ref`. -/
theorem audit_blames_iff (hmade : Made document map) (hordered : document.toJson.Ordered)
    (hfail : document.repoint? map = .error (.dangling listed)) :
    (∃ site ∈ listed, document.Blames map site) ↔ ∃ site ∈ listed, ¬document.Carried map site ∧
      ¬(site.path = SchemaRef.container ∧ map.materialized.contains "$ref") := by
  have hfits := hmade.fits
  refine exists_congr fun site => and_congr_right fun hsite => ?_
  constructor
  · intro hblames
    exact ⟨fun hcarried => not_blames_of_carried hfits hordered hcarried hblames,
      fun hcontainer => not_blames_container hfits hcontainer.1 hcontainer.2 hblames⟩
  · rintro ⟨hcarried, hcontainer⟩
    rcases listed_cases hfits hfail hsite with hblames | hother | hother
    · exact hblames
    · exact absurd hother hcarried
    · exact absurd hother hcontainer

/-- Two definitions of which one has a part that the other has not, and a reference to the part. -/
def unequal : Document :=
  ofSchemas [
    ("A", .record [("type", .string "string")]),
    ("B", .record [("description", .string "b")]),
    ("C", .refTo "#/components/schemas/B/description")]

example : unequal.danglingSites = [] := by decide +kernel

set_option maxRecDepth 100000 in
theorem audit_blames_iff_unequal : ∃ map listed,
    planRenames? (.ofList [("A", "N"), ("B", "N")]) unequal = .ok map ∧
      unequal.repoint? map = .error (.dangling listed) ∧
      listed = [⟨"#/components/schemas/C", "#/components/schemas/N/description"⟩] ∧
      ((∃ site ∈ listed, unequal.Blames map site) ↔
        ∃ site ∈ listed, ¬unequal.Carried map site ∧
          ¬(site.path = SchemaRef.container ∧ map.materialized.contains "$ref")) := by
  obtain ⟨map, hmap, hrun⟩ : ∃ map,
      planRenames? (.ofList [("A", "N"), ("B", "N")]) unequal = .ok map ∧
        ((unequal.repoint? map).map fun _ => ()) = .error (.dangling
          [⟨"#/components/schemas/C", "#/components/schemas/N/description"⟩]) :=
    exists_ok_of_toOption (by decide +kernel)
  have hfail := eq_error_of_map hrun
  have hordered : unequal.toJson.Ordered :=
    ordered_ofSchemas (by simp [Json.record, Json.refTo, Fields.Ascending])
  exact ⟨map, _, hmap, hfail, rfl, audit_blames_iff (.told hmap) hordered hfail⟩

/-- A reference to a part that a definition has not. -/
def stray : Document :=
  ofSchemas [
    ("A", .record [("type", .string "string")]),
    ("C", .refTo "#/components/schemas/A/nope")]

set_option maxRecDepth 100000 in
theorem audit_blames_nothing_stray : ∃ map listed,
    planRenames? (.ofList [("A", "B")]) stray = .ok map ∧
      stray.repoint? map = .error (.dangling listed) ∧
      stray.danglingSites = [⟨"#/components/schemas/C", "#/components/schemas/A/nope"⟩] ∧
      listed = [⟨"#/components/schemas/C", "#/components/schemas/B/nope"⟩] ∧
      ¬∃ site ∈ listed, stray.Blames map site := by
  obtain ⟨map, hmap, hrun⟩ : ∃ map, planRenames? (.ofList [("A", "B")]) stray = .ok map ∧
      (map.get? "A", (stray.repoint? map).map fun _ => ()) =
        (some "B", .error (.dangling
          [⟨"#/components/schemas/C", "#/components/schemas/B/nope"⟩])) :=
    exists_ok_of_toOption (by decide +kernel)
  obtain ⟨hname, hrun⟩ := Prod.mk.inj hrun
  have hdangling : stray.danglingSites =
      [⟨"#/components/schemas/C", "#/components/schemas/A/nope"⟩] := by decide +kernel
  refine ⟨map, _, hmap, eq_error_of_map hrun, hdangling, rfl, ?_⟩
  rintro ⟨site, hsite, hblames⟩
  rw [List.mem_singleton] at hsite
  subst hsite
  have hold : ⟨"#/components/schemas/C", "#/components/schemas/A/nope"⟩ ∈ stray.danglingSites := by
    rw [hdangling]
    exact List.mem_cons_self
  have hordered : stray.toJson.Ordered :=
    ordered_ofSchemas (by simp [Json.record, Json.refTo, Fields.Ascending])
  refine not_blames_of_carried (Made.told hmap).fits hordered ?_ hblames
  exact ⟨_, hold, rfl, "A", "/nope", "B", by decide +kernel, by decide, hname, by decide +kernel⟩

end Document

end SchemaMerge
