import SchemaMerge.Proofs.ReferenceTexts
import SchemaMerge.Proofs.SchemaDepth

/-!
Normal forms of definitions whose references have been repointed. Let a map send `name` to
`canonical`. What stood for a reference to itself in the one definition does so in the other: the
normal form under `canonical` of a repointed body is got from the normal form under `name` of the
body itself (`normalForm_absorbs`). So bodies with one normal form each under its own name have one
normal form when they are repointed (`compact_normalForm_congr`).
-/

namespace SchemaMerge

open Schema (edit editField roleUnder selecting)

namespace RenameMap

/-- Repointing does not touch schemas below a keyword. -/
theorem isLocal_keyword (map : RenameMap) : Schema.IsLocal map.keyword := by
  intro keyword
  by_cases href : keyword = "$ref"
  · right
    intro value
    cases value <;> simp [roleUnder, href] <;> decide
  by_cases hdisc : keyword = "discriminator"
  · right
    intro value
    cases value <;> simp [roleUnder, hdisc] <;> decide
  · left
    intro value
    rw [RenameMap.keyword, if_neg href, if_neg hdisc]

theorem schema_eq_edit (map : RenameMap) (value : Json) :
    map.schema value = edit (Fields.mapValues map.keyword) .schema value :=
  Schema.fold_ofEdit _ _ _ _ _

theorem keyword_array (map : RenameMap) (keyword : String) (items : List Json) :
    map.keyword keyword (.array items) = .array items := by
  rw [RenameMap.keyword]
  split
  · rfl
  · split <;> rfl

theorem unified_keyword (map : RenameMap) (keyword : String) (value : Json) :
    (map.keyword keyword value).unified = map.keyword keyword value.unified := by
  have honString : ∀ (f : String → String) (value : Json),
      (onString f value).unified = onString f value.unified := by
    intro f value
    cases value <;> rfl
  have hmapping : ∀ value : Json, (map.mapping value).unified = map.mapping value.unified := by
    intro value
    cases value with
    | object entries =>
        simp only [mapping, Json.unified_object, Fields.mapValues_mapValues, honString]
    | _ => rfl
  rw [RenameMap.keyword, RenameMap.keyword]
  split
  case isTrue => exact honString _ value
  case isFalse =>
    split
    case isFalse => rfl
    case isTrue =>
      cases value with
      | object fields =>
          simp only [discriminator, Json.unified_object, Fields.mapValues_mapValues]
          refine congrArg Json.object (Fields.mapValues_congr fun field _ => ?_)
          split
          · exact hmapping field.2
          · rfl
      | _ => rfl

end RenameMap

namespace Key

theorem normalForm_eq_edit (tier : MergeTier) (name : String) (schema : Json) :
    normalForm tier name schema =
      edit (normalFields tier (SchemaRef.ofName name)) .schema schema :=
  Schema.fold_ofEdit _ _ _ _ _

/-- A reference that says the mark stays as it is. -/
theorem normalField_selfMark_string (tier : MergeTier) (keyword text : String) :
    normalField tier selfMark keyword (.string text) = .string text := by
  rw [normalField]
  split
  case isTrue hmark => rw [hmark.2]
  case isFalse => rfl

theorem unified_normalField (tier : MergeTier) (self keyword : String) (value : Json) :
    (normalField tier self keyword value).unified =
      normalField tier self keyword value.unified := by
  cases value with
  | string text =>
      rw [normalField]
      split
      case isTrue h => exact (if_pos h).symm
      case isFalse h => exact (if_neg h).symm
  | array items =>
      simp only [normalField, Json.unified_array]
      split
      · rw [Json.unified_array, sortOn_map Json.unified Json.compact_unified]
      · rw [Json.unified_array]
  | _ => rfl

/-- The mark that stands for a reference to oneself is no reference to be repointed. -/
theorem reference_selfMark (map : RenameMap) : map.reference selfMark = selfMark :=
  map.reference_of_split_eq_none (by decide +kernel)

/-- The normal form of what stands under a keyword, after its references have been repointed. -/
def mergedField (map : RenameMap) (tier : MergeTier) (canonical : String) (keyword : String)
    (value : Json) : Json :=
  normalField tier (SchemaRef.ofName canonical) keyword (map.keyword keyword value)

/-- The same for the members of a node. -/
def mergedFields (map : RenameMap) (tier : MergeTier) (canonical : String)
    (fields : List (String × Json)) : List (String × Json) :=
  Fields.mapValues (mergedField map tier canonical) (fields.filter fun field => keeps tier field.1)

theorem normalForm_schema (map : RenameMap) (tier : MergeTier) (canonical : String)
    (schema : Json) :
    normalForm tier canonical (map.schema schema) =
      edit (mergedFields map tier canonical) .schema schema := by
  have hfields : (fun fields => normalFields tier (SchemaRef.ofName canonical)
      (Fields.mapValues map.keyword fields)) = mergedFields map tier canonical := by
    funext fields
    rw [normalFields, Fields.filter_mapValues, Fields.mapValues_mapValues]
    rfl
  rw [normalForm_eq_edit, map.schema_eq_edit, Schema.edit_edit map.isLocal_keyword, hfields]

theorem unified_mergedFields (map : RenameMap) (tier : MergeTier) (canonical : String)
    (fields : List (String × Json)) :
    Fields.mapValues (fun _ => Json.unified) (mergedFields map tier canonical fields) =
      mergedFields map tier canonical (Fields.mapValues (fun _ => Json.unified) fields) := by
  rw [mergedFields, mergedFields, Fields.filter_mapValues, Fields.mapValues_mapValues,
    Fields.mapValues_mapValues]
  refine Fields.mapValues_congr fun field _ => ?_
  rw [mergedField, mergedField, unified_normalField, map.unified_keyword]

theorem unified_normalFields (tier : MergeTier) (self : String)
    (fields : List (String × Json)) :
    Fields.mapValues (fun _ => Json.unified) (normalFields tier self fields) =
      normalFields tier self (Fields.mapValues (fun _ => Json.unified) fields) := by
  rw [normalFields, normalFields, Fields.filter_mapValues, Fields.mapValues_mapValues,
    Fields.mapValues_mapValues]
  exact Fields.mapValues_congr fun field _ => unified_normalField tier self field.1 field.2

/-- Numbers that are written alike are not told apart by a normal form. -/
theorem unified_normalForm (tier : MergeTier) (name : String) (schema : Json) :
    (normalForm tier name schema).unified =
      edit (normalFields tier (SchemaRef.ofName name)) .schema schema.unified := by
  rw [normalForm_eq_edit]
  exact Schema.unified_edit (unified_normalFields tier _) schema .schema

section Absorption

variable {map : RenameMap} {name canonical : String} (tier : MergeTier)

/-- Items in the order in which a tier compares them. -/
def ordered (tier : MergeTier) (keyword : String) (items : List Json) : List Json :=
  if ignoresOrder tier keyword then sortOn Json.compact items else items

theorem normalField_array (tier : MergeTier) (self keyword : String) (items : List Json) :
    normalField tier self keyword (.array items) = .array (ordered tier keyword items) := by
  rw [normalField, ordered]
  split <;> rfl

/-- Items that have been ordered and are changed afterwards are ordered again, to the same list as
if they had not been ordered before. -/
theorem ordered_absorbs {tier loose : MergeTier} {keyword : String}
    (hle : ignoresOrder tier keyword → ignoresOrder loose keyword) {k l m : Json → Json}
    (hm : ∀ value, (m value).unified = m value.unified) {items : List Json}
    (hkl : ((items.map Json.unified).map k).map l = (items.map Json.unified).map m) :
    ordered loose keyword ((ordered tier keyword ((items.map Json.unified).map k)).map l) =
      ordered loose keyword ((items.map Json.unified).map m) := by
  by_cases hsorted : ignoresOrder tier keyword
  · rw [ordered, ordered, ordered, if_pos hsorted, if_pos (hle hsorted), if_pos (hle hsorted)]
    have hperm : ((sortOn Json.compact ((items.map Json.unified).map k)).map l).Perm
        ((items.map Json.unified).map m) :=
      ((sortOn_perm _ _).map l).trans (.of_eq hkl)
    -- Unified items with one text are equal, so the order is that of the texts.
    refine sortOn_eq_of_perm hperm fun a ha b hb htext => ?_
    have hmem : ∀ c ∈ (items.map Json.unified).map m, ∃ item : Json, c = (m item).unified := by
      intro c hc
      rw [List.map_map] at hc
      obtain ⟨item, _, rfl⟩ := List.mem_map.1 hc
      exact ⟨item, (hm item).symm⟩
    obtain ⟨u, rfl⟩ := hmem a (hperm.mem_iff.1 ha)
    obtain ⟨v, rfl⟩ := hmem b (hperm.mem_iff.1 hb)
    rwa [Json.compact_unified, Json.compact_unified, Json.compact_eq_iff] at htext
  · rw [ordered.eq_1 tier, if_neg hsorted, hkl]

theorem unified_edit_mergedFields (map : RenameMap) (tier : MergeTier) (canonical : String)
    (role : Schema.Role) (value : Json) :
    (edit (mergedFields map tier canonical) role value).unified =
      edit (mergedFields map tier canonical) role value.unified :=
  Schema.unified_edit (unified_mergedFields map tier canonical) value role

/-- A walk after the one into the normal form. What it makes of what stands under a keyword of the
normal form is what the walk with `m` makes of what stood there before, if that holds for texts, and
if it orders the items that have been ordered. -/
theorem normalField_absorbs {tier loose : MergeTier} {self : String} {keep : String → Bool}
    {l m : String → Json → Json} (hle : ∀ keyword, ignoresOrder tier keyword →
      ignoresOrder loose keyword)
    (hstring : ∀ keyword text, l keyword (normalField tier self keyword (.string text)) =
      m keyword (.string text))
    (hother : ∀ keyword value, value.string? = none → l keyword value = m keyword value)
    (harray : ∀ keyword items, m keyword (.array items) = .array (ordered loose keyword items))
    (hm : ∀ fields, Fields.mapValues (fun _ => Json.unified) (selecting keep m fields) =
      selecting keep m (Fields.mapValues (fun _ => Json.unified) fields))
    (keyword : String) (value : Json)
    (ih : ∀ role, edit (selecting keep l) role
      (edit (normalFields tier self) role value.unified) =
        edit (selecting keep m) role value.unified) :
    l keyword (editField (selecting keep l) keyword
      (normalField tier self keyword (editField (normalFields tier self) keyword value.unified))) =
        m keyword (editField (selecting keep m) keyword value.unified) := by
  cases value with
  | string text =>
      have htext : ∃ text', normalField tier self keyword (.string text) = .string text' := by
        rw [normalField]
        split <;> exact ⟨_, rfl⟩
      obtain ⟨text', htext⟩ := htext
      have hedit : ∀ (f : List (String × Json) → List (String × Json)) (text : String),
          editField f keyword (.string text) = .string text := fun _ _ => rfl
      have hunified : (Json.string text).unified = .string text := rfl
      rw [hunified, hedit, hedit, htext, hedit, ← htext, hstring]
  | array items =>
      have hedit : ∀ (f : List (String × Json) → List (String × Json)) (items : List Json),
          editField f keyword (.array items) =
            .array (items.map (edit f (roleUnder keyword (.array [])).item)) := fun f items =>
        Schema.edit_array f _ items
      have hitems := ih (roleUnder keyword (.array []))
      rw [Json.unified_array, Schema.edit_array, Schema.edit_array, Schema.edit_array,
        Json.array.injEq] at hitems
      rw [Json.unified_array, hedit, hedit, normalField_array, hedit, hother _ _ rfl, harray,
        harray, ordered_absorbs (hle keyword) (fun value => Schema.unified_edit hm value _) hitems]
  | object fields =>
      have hobject : ∀ (f : List (String × Json) → List (String × Json)) (role : Schema.Role),
          normalField tier self keyword (edit f role (Json.object fields).unified) =
            edit f role (Json.object fields).unified ∧
          (edit f role (Json.object fields).unified).string? = none := by
        intro f role
        cases role <;> exact ⟨rfl, rfl⟩
      simp only [editField, (hobject _ _).1, Schema.roleUnder_edit, ih]
      exact hother _ _ (hobject _ _).2
  | _ => exact hother _ _ rfl

/-- A normal form, repointed and brought into the normal form again, is what the schema itself would
become. -/
theorem normalForm_absorbs
    (hself : map.reference (SchemaRef.ofName name) = SchemaRef.ofName canonical) (value : Json)
    (role : Schema.Role) :
    edit (mergedFields map tier canonical) role
      (edit (normalFields tier (SchemaRef.ofName name)) role value.unified) =
        edit (mergedFields map tier canonical) role value.unified := by
  have hstring : ∀ keyword text, mergedField map tier canonical keyword
      (normalField tier (SchemaRef.ofName name) keyword (.string text)) =
        mergedField map tier canonical keyword (.string text) := by
    intro keyword text
    rw [normalField]
    split
    case isFalse => rfl
    case isTrue hmark =>
      obtain ⟨rfl, rfl⟩ := hmark
      have href : ∀ text, map.keyword "$ref" (.string text) = .string (map.reference text) :=
        fun _ => rfl
      rw [mergedField, mergedField, href, href, reference_selfMark, hself]
      simp [normalField]
  have harray : ∀ keyword items, mergedField map tier canonical keyword (.array items) =
      .array (ordered tier keyword items) := fun keyword items => by
    rw [mergedField, map.keyword_array, normalField_array]
  exact Schema.edit_absorbs (fun _ => id)
    (normalField_absorbs (fun _ => id) hstring (fun _ _ _ => rfl) harray
      (unified_mergedFields map tier canonical)) value role

/-- Two bodies that are alike, each under its own name, are alike under the name that both get. -/
theorem compact_normalForm_congr {a b : String} {u v : Json}
    (ha : map.reference (SchemaRef.ofName a) = SchemaRef.ofName canonical)
    (hb : map.reference (SchemaRef.ofName b) = SchemaRef.ofName canonical)
    (h : (normalForm tier a u).compact = (normalForm tier b v).compact) :
    (normalForm tier canonical (map.schema u)).compact =
      (normalForm tier canonical (map.schema v)).compact := by
  rw [Json.compact_eq_iff] at h ⊢
  rw [unified_normalForm, unified_normalForm] at h
  calc (normalForm tier canonical (map.schema u)).unified
      = edit (mergedFields map tier canonical) .schema u.unified := by
        rw [normalForm_schema, unified_edit_mergedFields]
    _ = edit (mergedFields map tier canonical) .schema v.unified := by
        rw [← normalForm_absorbs tier ha, h, normalForm_absorbs tier hb]
    _ = (normalForm tier canonical (map.schema v)).unified := by
        rw [normalForm_schema, unified_edit_mergedFields]

end Absorption

end Key

end SchemaMerge
