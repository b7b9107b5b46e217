import SchemaMerge.Proofs.NormalForms
import SchemaMerge.Proofs.Passes

/-!
A merge pass keeps every shape. Definitions are merged because they have one key, each under its own
name. After the pass what is left of them stands under one name, and it has the key that each of the
merged bodies would have there once its references are repointed (`Document.repoint?_keeps_key`).
Definitions that are not merged keep their bodies, up to the references in them.
-/

namespace SchemaMerge

open Schema (edit editField roleUnder)

namespace Key

theorem kind_eq_reference_iff {fields : List (String × Json)} {target : String} :
    Schema.Kind.of (.object fields) = .reference target ↔
      fields.lookup "$ref" = some (.string target) := by
  have hnever : Schema.Kind.ofType fields ≠ .reference target := by
    unfold Schema.Kind.ofType
    split <;> try simp
    split_ifs <;> simp
  rw [Schema.Kind.of]
  split
  case h_1 found hfound =>
    rw [hfound, Schema.Kind.reference.injEq, Option.some.injEq, Json.string.injEq]
  case h_2 hnone =>
    refine ⟨fun h => ?_, fun h => absurd h (hnone target)⟩
    split at h
    · cases h
    · exact absurd h hnever

/-- A definition is an alias iff it has a reference and nothing but annotations beside it. -/
theorem aliasTarget?_object_eq_none_iff {fields : List (String × Json)} :
    aliasTarget? (.object fields) = none ↔
      ∀ target, fields.lookup "$ref" = some (.string target) →
        ∃ field ∈ fields, field.1 ≠ "$ref" ∧ field.1 ∉ Schema.metadataKeywords := by
  unfold aliasTarget?
  split
  case h_1 target other hkind hobject =>
    cases hobject
    rw [kind_eq_reference_iff] at hkind
    rw [hkind]
    simp
  case h_2 hnone =>
    refine ⟨fun _ target htarget => ?_, fun _ => rfl⟩
    exact absurd rfl (hnone target fields (kind_eq_reference_iff.2 htarget))

/-- Whether a definition is an alias does not depend on what its references point at. -/
theorem aliasTarget?_schema (map : RenameMap) (value : Json) :
    aliasTarget? (map.schema value) = none ↔ aliasTarget? value = none := by
  cases value with
  | object fields =>
      rw [map.schema_eq_edit, Schema.edit_node, Fields.mapValues_mapValues,
        aliasTarget?_object_eq_none_iff, aliasTarget?_object_eq_none_iff]
      have hlookup : (Fields.mapValues (fun keyword value => map.keyword keyword
          (editField (Fields.mapValues map.keyword) keyword value)) fields).lookup "$ref" =
            (fields.lookup "$ref").map (RenameMap.onString map.reference) := by
        rw [Fields.lookup_mapValues]
        refine congrArg (fun g => (fields.lookup "$ref").map g) (funext fun value => ?_)
        cases value <;> rfl
      rw [hlookup, Fields.mapValues]
      cases hfound : fields.lookup "$ref" with
      | none => simp
      | some value => cases value <;> simp [RenameMap.onString]
  | array items => rfl
  | _ => rfl

/-- Repointing leaves a definition as deep as it is, whatever it is called. -/
theorem tooDeep?_schema (map : RenameMap) {limit : UInt64} {path : String} {value : Json}
    (h : tooDeep? limit path value = none) (other : String) :
    tooDeep? limit other (map.schema value) = none := by
  rw [tooDeep?_eq_none_iff] at h ⊢
  rwa [map.schema_eq_edit, Schema.depths_edit map.isLocal_keyword]

/-- A definition that has a key has one after repointing, under any name. -/
theorem exists_key_schema (map : RenameMap) {limit : UInt64} {tier : MergeTier} {name : String}
    {value : Json} {key : Key} (h : ofDefinition limit tier.toTier name value = .ok key)
    (other : String) :
    ∃ key', ofDefinition limit tier.toTier other (map.schema value) = .ok key' := by
  rw [ofDefinition_toTier] at h ⊢
  cases halias : aliasTarget? (map.schema value) with
  | some target => exact ⟨_, rfl⟩
  | none =>
      rw [(aliasTarget?_schema map value).1 halias] at h
      unfold ofShape at h ⊢
      cases hdeep : tooDeep? limit (SchemaRef.ofName name) value with
      | some position =>
          rw [hdeep] at h
          cases h
      | none =>
          rw [tooDeep?_schema map hdeep (SchemaRef.ofName other)]
          exact ⟨_, rfl⟩

end Key

namespace RenameMap

/-- A map without aliases changes no schema. -/
theorem schema_eq_self {map : RenameMap} (h : ∀ name, map.get? name = none) (value : Json) :
    map.schema value = value := by
  have href : ∀ text, map.reference text = text := reference_eq_self h
  have hmapping : ∀ text, map.mappingText text = text := by
    intro text
    rw [mappingText, href, target, h, Option.getD_none, ite_self]
  have honString : ∀ (f : String → String), (∀ text, f text = text) → ∀ value,
      onString f value = value := by
    intro f hf value
    cases value with
    | string text => exact congrArg Json.string (hf text)
    | _ => rfl
  have hkeyword : ∀ keyword value, map.keyword keyword value = value := by
    intro keyword value
    rw [RenameMap.keyword]
    split
    · exact honString _ href value
    · split
      · cases value with
        | object fields =>
            refine congrArg Json.object (Fields.mapValues_eq_self fun field _ => ?_)
            split
            · cases field.2 with
              | object entries =>
                  exact congrArg Json.object (Fields.mapValues_eq_self fun entry _ =>
                    honString _ hmapping entry.2)
              | _ => rfl
            · rfl
        | _ => rfl
      · rfl
  rw [schema_eq_edit]
  refine Schema.edit_eq_self (fun fields => ?_) value .schema
  exact Fields.mapValues_eq_self fun field _ => hkeyword field.1 field.2

end RenameMap

namespace Allotted

variable {limit : UInt64} {tier : MergeTier} {document out : Document}
  {groups : List MergeGroup} {map : RenameMap} {allotted : List (MergeGroup × String)}

/-- What a pass over any groups, or none, leaves of the definitions. -/
theorem get?_repointed (h : Allotted document.definitions groups map allotted)
    (hc : Classified limit tier document.definitions groups)
    (hout : document.repoint? map = .ok out) (name : String) :
    out.definitions.get? name =
      if map.aliases.contains name then none
      else (document.definitions.get? (map.source name)).map map.schema := by
  by_cases hne : groups = []
  · subst hne
    have hnil : allotted = [] := List.map_eq_nil_iff.1 h.groups
    subst hnil
    have haliases : ∀ name, map.get? name = none := by
      intro name
      rw [Option.eq_none_iff_forall_ne_some]
      intro canonical hcanonical
      obtain ⟨_, hmem, _⟩ := (h.aliases name canonical).1 hcanonical
      cases hmem
    have hmaterialized : ∀ name, map.materialized.get? name = none := by
      intro name
      rw [Option.eq_none_iff_forall_ne_some]
      intro source hsource
      obtain ⟨_, hmem, _⟩ := (h.materialized name source).1 hsource
      cases hmem
    have hempty : map.isEmpty := by
      have ha : map.aliases = .empty := NameMap.ext_get? haliases
      have hm : map.materialized = .empty := NameMap.ext_get? hmaterialized
      rw [RenameMap.isEmpty, ha, hm]
      rfl
    rw [Document.repoint?, if_pos hempty, pure_eq_ok] at hout
    have hcontains : map.aliases.contains name = false :=
      NameMap.not_contains_iff.2 (haliases name)
    rw [← hout, hcontains, RenameMap.source, hmaterialized, if_neg Bool.false_ne_true,
      Option.getD_none, funext (RenameMap.schema_eq_self haliases), Option.map_id']
  · exact h.get?_definitions hc hne hout name

/-- The definition that a group becomes has the body of a member. -/
theorem source_mem (h : Allotted document.definitions groups map allotted) {group : MergeGroup}
    {canonical : String} (hpair : (group, canonical) ∈ allotted) :
    map.source canonical ∈ group.members := by
  rw [RenameMap.source]
  by_cases hmem : canonical ∈ group.members
  · have hnone : map.materialized.get? canonical = none := by
      rw [Option.eq_none_iff_forall_ne_some]
      intro source hsource
      obtain ⟨other, hother, hout, _⟩ := (h.materialized canonical source).1 hsource
      rw [h.group_eq hother hpair] at hout
      exact hout hmem
    rwa [hnone, Option.getD_none]
  · rw [(h.materialized canonical group.first).2 ⟨group, hpair, hmem, rfl⟩, Option.getD_some]
    exact group.first_mem

end Allotted

namespace Document

variable {limit : UInt64} {tier : MergeTier} {keepSeparate : List (List String)}
  {document : Document} {groups : List MergeGroup}

/-- A pass keeps the shape of every definition: what stands under the name that the definition has
after it is equal, at the tier of the pass, to its own body with the references repointed. -/
theorem repoint?_keeps_key (table : NamingTable)
    (hnames : document.definitions.contains "" = false)
    (hgroups : classifyForMerge limit tier keepSeparate document.definitions = .ok groups) :
    ∃ plan, Plan.ofGroups? groups document table .suffix = .ok plan ∧
      ∀ out, document.repoint? plan.renameMap = .ok out →
        ∀ name body, document.definitions.get? name = some body →
          ∃ merged key, out.definitions.get? (plan.renameMap.target name) = some merged ∧
            Key.ofDefinition limit tier.toTier (plan.renameMap.target name) merged = .ok key ∧
            Key.ofDefinition limit tier.toTier (plan.renameMap.target name)
              (plan.renameMap.schema body) = .ok key := by
  have hc := Classified.of_classifyForMerge hgroups
  obtain ⟨plan, hplan⟩ := Plan.exists_ofGroups?_suffix table hc
  refine ⟨plan, hplan, fun out hout name body hbody => ?_⟩
  set map := plan.renameMap with hmap
  obtain ⟨allotted, ha⟩ := Plan.exists_allotted hc hplan
  rw [← hmap] at ha
  have hget := ha.get?_repointed hc hout
  by_cases hmerged : ∃ group ∈ groups, name ∈ group.members
  · obtain ⟨group, hgroup, hname⟩ := hmerged
    obtain ⟨canonical, hpair⟩ := ha.exists_canonical hgroup
    have htarget : ∀ member ∈ group.members, map.target member = canonical := fun member hmember =>
      ha.target_of_mem hc hpair hmember
    have hsource := ha.source_mem hpair
    obtain ⟨body', hbody', hkey⟩ := hc.keyed group hgroup name hname
    obtain ⟨source, hsourceBody, hsourceKey⟩ := hc.keyed group hgroup (map.source canonical) hsource
    rw [hbody] at hbody'
    cases hbody'
    rw [Key.ofDefinition_eq_content_iff] at hkey hsourceKey
    obtain ⟨halias, hdeep, htext⟩ := hkey
    obtain ⟨halias', hdeep', htext'⟩ := hsourceKey
    have hself : ∀ member ∈ group.members,
        map.reference (SchemaRef.ofName member) = SchemaRef.ofName canonical := by
      intro member hmember
      rw [map.reference_ofName, htarget member hmember]
      rintro rfl
      rw [hc.contains hgroup hmember] at hnames
      cases hnames
    have hsame := Key.compact_normalForm_congr tier (hself _ hsource) (hself name hname)
      (htext'.trans htext.symm)
    have hstays : map.aliases.contains canonical = false :=
      NameMap.not_contains_iff.2 (ha.canonical_stays hc hpair)
    refine ⟨map.schema source, .content (Key.normalForm tier canonical (map.schema body)).compact,
      ?_, ?_, ?_⟩
    · rw [htarget name hname, hget, hstays, hsourceBody]
      rfl
    · rw [htarget name hname, Key.ofDefinition_eq_content_iff]
      exact ⟨(Key.aliasTarget?_schema map source).2 halias', Key.tooDeep?_schema map hdeep' _,
        hsame⟩
    · rw [htarget name hname, Key.ofDefinition_eq_content_iff]
      exact ⟨(Key.aliasTarget?_schema map body).2 halias, Key.tooDeep?_schema map hdeep _, rfl⟩
  · have hkept : map.aliases.get? name = none := by
      rw [Option.eq_none_iff_forall_ne_some]
      intro canonical hcanonical
      obtain ⟨group, hpair, hname, _⟩ := (ha.aliases name canonical).1 hcanonical
      exact hmerged ⟨group, ha.mem_groups hpair, hname⟩
    have hold : map.materialized.get? name = none := by
      rw [Option.eq_none_iff_forall_ne_some]
      intro source hsource
      have hnew := (ha.created_new hc hsource).1
      rw [NameMap.not_contains_iff, hbody] at hnew
      cases hnew
    have htarget : map.target name = name := by
      rw [RenameMap.target, RenameMap.get?, hkept, Option.getD_none]
    obtain ⟨found, hfound, _⟩ := bind_eq_ok.1 hgroups
    obtain ⟨key, hkey⟩ := exists_classify_eq_ok.1 ⟨found, hfound⟩ name body hbody
    obtain ⟨key', hkey'⟩ := Key.exists_key_schema map hkey name
    refine ⟨map.schema body, key', ?_, ?_, ?_⟩
    · rw [htarget, hget, NameMap.not_contains_iff.2 hkept, RenameMap.source, hold, Option.getD_none,
        hbody]
      rfl
    · rw [htarget, hkey']
    · rw [htarget, hkey']

/-- Two definitions that refer to themselves. -/
def cycles : Document :=
  ofSchemas [
    ("A", .record [("properties", .record [("next", .refTo "#/components/schemas/A")])]),
    ("B", .record [("properties", .record [("next", .refTo "#/components/schemas/B")])])]

set_option maxRecDepth 100000 in
theorem repoint?_keeps_key_cycles : ∃ groups plan out body merged key,
    cycles.definitions.contains "" = false ∧
    classifyForMerge 64 .structural [] cycles.definitions = .ok groups ∧
    Plan.ofGroups? groups cycles [] .suffix = .ok plan ∧
    cycles.repoint? plan.renameMap = .ok out ∧ cycles.definitions.get? "B" = some body ∧
    plan.renameMap.target "B" = "A" ∧
    out.definitions.get? (plan.renameMap.target "B") = some merged ∧
    Key.ofDefinition 64 .structural (plan.renameMap.target "B") merged = .ok key ∧
    Key.ofDefinition 64 .structural (plan.renameMap.target "B")
      (plan.renameMap.schema body) = .ok key := by
  have hnames : cycles.definitions.contains "" = false := by decide +kernel
  obtain ⟨groups, hgroups, hrest⟩ : ∃ groups,
      classifyForMerge 64 .structural [] cycles.definitions = .ok groups ∧
        ((Plan.ofGroups? groups cycles [] .suffix).toOption.map fun plan =>
          (plan.renameMap.target "B", ((cycles.repoint? plan.renameMap).toOption.map
            definitionCount))) = some ("A", some 1) :=
    exists_ok_of_toOption (by decide +kernel)
  obtain ⟨plan, hplan, hkeeps⟩ := repoint?_keeps_key [] hnames hgroups
  obtain ⟨plan', hplan', hrest⟩ := exists_ok_of_toOption hrest
  rw [hplan] at hplan'
  cases hplan'
  obtain ⟨htarget, hrest⟩ := Prod.mk.injEq .. ▸ hrest
  obtain ⟨out, hout, _⟩ := exists_ok_of_toOption hrest
  obtain ⟨body, hbody⟩ := NameMap.contains_iff.1
    (by decide +kernel : cycles.definitions.contains "B")
  obtain ⟨merged, key, hmerged, hkey, hkey'⟩ := hkeeps out hout "B" body hbody
  exact ⟨groups, plan, out, body, merged, key, hnames, hgroups, hplan, hout, hbody, htarget,
    hmerged, hkey, hkey'⟩

end Document

end SchemaMerge
