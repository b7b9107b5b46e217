import SchemaMerge.Proofs.Groups
import SchemaMerge.Proofs.NormalForms

/-!
The tiers refine each other. What a looser tier compares can be read off what a stricter one
compares: the normal form of a definition at the looser tier is that of its normal form at the
stricter tier (`Key.normalForm_loosened`), and its signature is the signature of its normal form
(`Key.signature_normalForm`). So definitions that have one key at a tier have one key at every
looser tier, and no group is torn apart (`classify_refines`).
-/

namespace SchemaMerge

open Schema (edit editField roleUnder selecting)

/-- The first tier is at least as strict as the second. -/
def Tier.Refines (strict loose : Tier) : Prop :=
  all.idxOf strict ≤ all.idxOf loose

instance (strict loose : Tier) : Decidable (strict.Refines loose) :=
  inferInstanceAs (Decidable (_ ≤ _))

/-- All tiers but the loosest have groups that can be merged. -/
theorem Tier.eq_attributes_or (tier : Tier) :
    tier = .attributes ∨ ∃ merging : MergeTier, tier = merging.toTier := by
  cases tier with
  | exact => exact .inr ⟨.exact, rfl⟩
  | structural => exact .inr ⟨.structural, rfl⟩
  | structuralLoose => exact .inr ⟨.structuralLoose, rfl⟩
  | attributes => exact .inl rfl

namespace Key

variable {strict loose : MergeTier}

section Loosening

variable (hle : strict.toTier.Refines loose.toTier)

include hle

theorem keeps_of_refines {keyword : String} (h : keeps loose keyword) : keeps strict keyword := by
  revert hle h
  cases strict <;> cases loose <;> simp [keeps] <;> first | decide | tauto

theorem ignoresOrder_of_refines {keyword : String} (h : ignoresOrder strict keyword) :
    ignoresOrder loose keyword := by
  revert hle h
  cases strict <;> cases loose <;> simp [ignoresOrder] <;> first | decide | tauto

/-- What a looser tier compares is in what a stricter tier compares. References to oneself are
marked already, so the looser tier marks the mark. -/
theorem normalForm_loosened (name : String) (schema : Json) :
    edit (normalFields loose selfMark) .schema (normalForm strict name schema).unified =
      (normalForm loose name schema).unified := by
  have hstring : ∀ keyword text, normalField loose selfMark keyword
      (normalField strict (SchemaRef.ofName name) keyword (.string text)) =
        normalField loose (SchemaRef.ofName name) keyword (.string text) := by
    intro keyword text
    have hmarked : ∀ text', normalField loose selfMark keyword (.string text') =
        .string text' := by
      intro text'
      rw [normalField]
      split
      case isTrue hmark => rw [hmark.2]
      case isFalse => rfl
    have hsame : normalField strict (SchemaRef.ofName name) keyword (.string text) =
        normalField loose (SchemaRef.ofName name) keyword (.string text) := rfl
    rw [hsame, normalField]
    split <;> exact hmarked _
  have hother : ∀ keyword value, value.string? = none →
      normalField loose selfMark keyword value =
        normalField loose (SchemaRef.ofName name) keyword value := by
    intro keyword value hvalue
    cases value with
    | string text => cases hvalue
    | _ => rfl
  rw [unified_normalForm, unified_normalForm]
  exact Schema.edit_absorbs (fun _ => keeps_of_refines hle)
    (normalField_absorbs (fun _ => ignoresOrder_of_refines hle) hstring hother
      (normalField_array loose _) (unified_normalFields loose _)) schema .schema

/-- Bodies that are alike at a tier are alike at every looser tier. -/
theorem compact_normalForm_loosened {a b : String} {u v : Json}
    (h : (normalForm strict a u).compact = (normalForm strict b v).compact) :
    (normalForm loose a u).compact = (normalForm loose b v).compact := by
  rw [Json.compact_eq_iff] at h ⊢
  rw [← normalForm_loosened hle a u, h, normalForm_loosened hle b v]

end Loosening

section Signature

/-- An edit that keeps a keyword acts on what stands under it. -/
theorem get?_edit {keep : String → Bool} {k : String → Json → Json} {keyword : String}
    (hkeep : keep keyword) (schema : Json) :
    (edit (selecting keep k) .schema schema).get? keyword =
      (schema.get? keyword).map fun value =>
        k keyword (editField (selecting keep k) keyword value) := by
  cases schema with
  | object fields =>
      rw [Schema.edit_node, Json.get?, Json.get?, selecting, Fields.lookup_mapValues,
        Fields.lookup_filter keep hkeep, Fields.lookup_mapValues, Option.map_map]
      rfl
  | _ => rfl

theorem get?_unified (schema : Json) (keyword : String) :
    schema.unified.get? keyword = (schema.get? keyword).map Json.unified := by
  cases schema with
  | object fields =>
      rw [Json.unified_object]
      exact Fields.lookup_mapValues ..
  | _ => rfl

/-- What a normal form keeps under a keyword that is kept. -/
theorem get?_normalForm {tier : MergeTier} {keyword : String} (hkeep : keeps tier keyword)
    (self : String) (schema : Json) :
    (edit (normalFields tier self) .schema schema).get? keyword =
      (schema.get? keyword).map fun value => normalField tier self keyword
        (editField (normalFields tier self) keyword value) :=
  get?_edit hkeep schema

/-- The declared type is no schema, and its order counts at every tier. -/
theorem get?_type_normalForm (tier : MergeTier) (self : String) (schema : Json) :
    (edit (normalFields tier self) .schema schema).get? "type" = schema.get? "type" := by
  have hkeep : keeps tier "type" := by cases tier <;> decide
  have hsame : ∀ value, normalField tier self "type"
      (editField (normalFields tier self) "type" value) = value := by
    intro value
    have hleaf : roleUnder "type" value = .leaf := by cases value <;> simp [roleUnder] <;> decide
    have horder : ignoresOrder tier "type" = false := by cases tier <;> decide
    rw [editField, hleaf, Schema.edit_leaf]
    cases value <;> simp [normalField, horder]
  rw [get?_normalForm hkeep, funext hsame, Option.map_id']

theorem typeLabel_normalForm (tier : MergeTier) (self : String) (schema : Json) :
    typeLabel (edit (normalFields tier self) .schema schema) = typeLabel schema := by
  have hkeep : keeps tier "$ref" := by cases tier <;> decide
  rw [typeLabel, get?_type_normalForm, get?_normalForm hkeep, Option.isSome_map, typeLabel]

theorem typeLabel_unified (schema : Json) : typeLabel schema.unified = typeLabel schema := by
  rw [typeLabel, typeLabel, get?_unified, get?_unified, Option.isSome_map]
  cases schema.get? "type" with
  | none => rfl
  | some declared =>
      cases declared with
      | array types =>
          have hstring : ∀ value : Json, value.unified.string? = value.string? := by
            intro value
            cases value <;> rfl
          rw [Option.map_some, Json.unified_array]
          simp only [List.filterMap_map, Function.comp_def, hstring]
      | _ => rfl

/-- The properties of a node, each with its schema. -/
def properties (schema : Json) : List (String × Json) :=
  ((schema.get? "properties").bind Json.object?).getD []

theorem signature_congr {u v : Json} (hlabel : typeLabel u = typeLabel v)
    (hproperties : Fields.mapValues (fun _ => typeLabel) (properties u) =
      Fields.mapValues (fun _ => typeLabel) (properties v)) : signature u = signature v := by
  have hsignature : ∀ schema, signature schema = "type=" ++ typeLabel schema ++ "|" ++
      Text.joined ";" (distinctSorted ((Fields.mapValues (fun _ => typeLabel)
        (properties schema)).map fun field => field.1 ++ ":" ++ field.2)) := by
    intro schema
    rw [Fields.mapValues, List.map_map]
    rfl
  rw [hsignature, hsignature, hlabel, hproperties]

theorem properties_normalForm (tier : MergeTier) (self : String) (schema : Json) :
    properties (edit (normalFields tier self) .schema schema) =
      Fields.mapValues (fun _ => edit (normalFields tier self) .schema) (properties schema) := by
  have hkeep : keeps tier "properties" := by cases tier <;> decide
  have hfields : ∀ value, (normalField tier self "properties"
      (editField (normalFields tier self) "properties" value)).object? =
        value.object?.map (Fields.mapValues fun _ => edit (normalFields tier self) .schema) := by
    intro value
    cases value with
    | object fields =>
        have hnamed : roleUnder "properties" (.object fields) = .named := by
          simp [roleUnder, Schema.mapKeywords]
        rw [editField, hnamed, Schema.edit_object _ (by decide)]
        rfl
    | array items =>
        rw [editField, Schema.edit_array, normalField_array]
        rfl
    | string text => rfl
    | _ => rfl
  rw [properties, get?_normalForm hkeep, properties]
  cases schema.get? "properties" with
  | none => rfl
  | some value =>
      rw [Option.map_some, Option.bind_some, hfields, Option.bind_some]
      cases value <;> rfl

theorem properties_unified (schema : Json) :
    properties schema.unified = Fields.mapValues (fun _ => Json.unified) (properties schema) := by
  rw [properties, get?_unified, properties]
  cases schema.get? "properties" with
  | none => rfl
  | some declared =>
      cases declared with
      | object fields =>
          rw [Option.map_some, Json.unified_object]
          rfl
      | _ => rfl

/-- A normal form has all that the signature looks at. -/
theorem signature_normalForm (tier : MergeTier) (name : String) (schema : Json) :
    signature (normalForm tier name schema).unified = signature schema := by
  have hlabel : ∀ value, typeLabel (normalForm tier name value).unified = typeLabel value := by
    intro value
    rw [typeLabel_unified, normalForm_eq_edit, typeLabel_normalForm]
  refine signature_congr (hlabel schema) ?_
  rw [properties_unified, Fields.mapValues_mapValues, normalForm_eq_edit, properties_normalForm,
    Fields.mapValues_mapValues]
  refine Fields.mapValues_congr fun field _ => ?_
  rw [typeLabel_unified, typeLabel_normalForm]

end Signature

/-- Definitions with one key at a tier have one key at every looser tier. -/
theorem ofDefinition_refines {limit : UInt64} {strict loose : Tier} (hle : strict.Refines loose)
    {a b text : String} {u v : Json} (ha : ofDefinition limit strict a u = .ok (.content text))
    (hb : ofDefinition limit strict b v = .ok (.content text)) :
    ∃ other, ofDefinition limit loose a u = .ok (.content other) ∧
      ofDefinition limit loose b v = .ok (.content other) := by
  rcases strict.eq_attributes_or with rfl | ⟨strict, rfl⟩
  · have hloose : loose = .attributes := by
      revert hle
      cases loose <;> decide
    subst hloose
    exact ⟨text, ha, hb⟩
  rw [ofDefinition_eq_content_iff] at ha hb
  obtain ⟨haliasA, hdeepA, hformA⟩ := ha
  obtain ⟨haliasB, hdeepB, hformB⟩ := hb
  have hform := hformA.trans hformB.symm
  rcases loose.eq_attributes_or with rfl | ⟨loose, rfl⟩
  · have hunified : (normalForm strict a u).unified = (normalForm strict b v).unified :=
      Json.compact_eq_iff.1 hform
    have hsignature : signature u = signature v := by
      rw [← signature_normalForm strict a u, hunified, signature_normalForm]
    exact ⟨signature v, by simp [ofDefinition, haliasA, hsignature], by simp [ofDefinition, haliasB]⟩
  · exact ⟨_, ofDefinition_eq_content_iff.2 ⟨haliasA, hdeepA, rfl⟩,
      ofDefinition_eq_content_iff.2
        ⟨haliasB, hdeepB, (compact_normalForm_loosened hle hform).symm⟩⟩

/-- Whether a definition is nested too deeply is the same at every tier that looks at it. -/
theorem ofDefinition_ok {limit : UInt64} {tier : MergeTier} {name : String} {schema : Json}
    {key : Key} (h : ofDefinition limit tier.toTier name schema = .ok key) (other : Tier) :
    ∃ key', ofDefinition limit other name schema = .ok key' := by
  rw [ofDefinition_toTier] at h
  unfold ofDefinition
  cases halias : aliasTarget? schema with
  | some target => exact ⟨_, rfl⟩
  | none =>
      rw [halias] at h
      have hshape : ∀ other, ∃ key', ofShape limit other name schema = .ok key' := by
        intro other
        unfold ofShape at h ⊢
        cases hdeep : tooDeep? limit (SchemaRef.ofName name) schema with
        | some position =>
            rw [hdeep] at h
            cases h
        | none => exact ⟨_, rfl⟩
      cases other with
      | exact => exact hshape .exact
      | structural => exact hshape .structural
      | structuralLoose => exact hshape .structuralLoose
      | attributes => exact ⟨_, rfl⟩

end Key

variable {limit : UInt64} {definitions : NameMap Json}

/-- If the definitions can be classified at one tier, they can be at every tier. -/
theorem classify_ok {tier : MergeTier} {groups : List Group}
    (h : classify limit tier.toTier definitions = .ok groups) (other : Tier) :
    ∃ groups', classify limit other definitions = .ok groups' := by
  refine exists_classify_eq_ok.2 fun name body hbody => ?_
  obtain ⟨key, hkey⟩ := exists_classify_eq_ok.1 ⟨groups, h⟩ name body hbody
  exact Key.ofDefinition_ok hkey other

/-- What can be classified at a tier can be at every looser tier, and each group is contained in
exactly one of the looser groups. -/
theorem classify_refines {strict loose : Tier} (hle : strict.Refines loose) {groups : List Group}
    (h : classify limit strict definitions = .ok groups) :
    ∃ looser, classify limit loose definitions = .ok looser ∧ looser.Nodup ∧
      ∀ group ∈ groups, ∃! whole, whole ∈ looser ∧ group.members ⊆ whole.members := by
  have hlooser : ∃ looser, classify limit loose definitions = .ok looser := by
    rcases strict.eq_attributes_or with rfl | ⟨strict, rfl⟩
    · have hloose : loose = .attributes := by
        revert hle
        cases loose <;> decide
      exact ⟨groups, hloose ▸ h⟩
    · exact classify_ok h loose
  obtain ⟨looser, hlooser⟩ := hlooser
  have hkeys := pairwise_keys hlooser
  refine ⟨looser, hlooser, hkeys.imp fun hne heq => hne (congrArg Group.key heq), ?_⟩
  intro group hgroup
  -- Two members of the group have one looser key, which is that of a looser group.
  obtain ⟨a, ha⟩ := List.exists_mem_of_length_pos (Nat.lt_of_lt_of_le Nat.zero_lt_two group.two_le)
  obtain ⟨b, hb, hne⟩ := exists_mem_ne (nodup_members h hgroup) group.two_le a
  obtain ⟨u, hu, hkeyU⟩ := (mem_members_iff h hgroup).1 ha
  obtain ⟨v, hv, hkeyV⟩ := (mem_members_iff h hgroup).1 hb
  obtain ⟨text, htextU, htextV⟩ := Key.ofDefinition_refines hle hkeyU hkeyV
  obtain ⟨whole, hwhole, rfl⟩ := exists_group hlooser hne.symm hu hv htextU htextV
  refine ⟨whole, ⟨hwhole, fun name hname => ?_⟩, ?_⟩
  · obtain ⟨body, hbody, hkey⟩ := (mem_members_iff h hgroup).1 hname
    obtain ⟨text, htext, htext'⟩ := Key.ofDefinition_refines hle hkey hkeyU
    rw [htextU, Except.ok.injEq, Key.content.injEq] at htext'
    exact (mem_members_iff hlooser hwhole).2 ⟨body, hbody, htext' ▸ htext⟩
  · rintro other ⟨hother, hsub⟩
    obtain ⟨body, hbody, hkey⟩ := (mem_members_iff hlooser hother).1 (hsub ha)
    rw [hu, Option.some.injEq] at hbody
    subst hbody
    rw [htextU, Except.ok.injEq, Key.content.injEq] at hkey
    exact eq_of_pairwise_ne hkeys hother hwhole hkey.symm

/-- Two strings, one of them with an annotation. -/
def annotated : NameMap Json :=
  .ofList [
    ("A", .record [("description", .string "first"), ("type", .string "string")]),
    ("B", .record [("type", .string "string")])]

set_option maxRecDepth 100000 in
theorem classify_refines_annotated : ∃ groups looser, Tier.Refines .structural .attributes ∧
    classify 64 .structural annotated = .ok groups ∧ groups.length = 1 ∧
    classify 64 .attributes annotated = .ok looser ∧ looser.Nodup ∧
    ∀ group ∈ groups, ∃! whole, whole ∈ looser ∧ group.members ⊆ whole.members := by
  have hle : Tier.Refines .structural .attributes := by decide
  obtain ⟨groups, hgroups, hlength⟩ : ∃ groups, classify 64 .structural annotated = .ok groups ∧
      groups.length = 1 :=
    exists_ok_of_toOption (by decide +kernel)
  obtain ⟨looser, hlooser, hnodup, hwhole⟩ := classify_refines hle hgroups
  exact ⟨groups, looser, hle, hgroups, hlength, hlooser, hnodup, hwhole⟩

end SchemaMerge
