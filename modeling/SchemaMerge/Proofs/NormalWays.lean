import SchemaMerge.Proofs.InlineWays
import SchemaMerge.Proofs.NormalForms

/-!
Ways down a normal form. At the structural tier, and whatever counts as a reference to oneself, the
ways that the search for inline objects takes lead to objects in the normal form of a value exactly
where they do so in the value, and what they lead to is the normal form of what they lead to there
(`Key.follow?_form_iff`). An object can be seen to be an inline object by its normal form
(`Key.isInlineObject_form`). So two schemas with one normal form have inline objects at the same
places below them, with one normal form each.
-/

namespace SchemaMerge

open Schema (edit editField roleUnder)
open Extraction (Way isInlineObject)

namespace Key

variable {self : String} {role : Schema.Role} {depth : Nat} {way : List String} {value : Json}
  {shown : List (String × Json)}

/-- The normal form of a value at the structural tier where `self` is the reference to oneself, with
every number in its shortest spelling. -/
noncomputable def form (self : String) (role : Schema.Role) (value : Json) : Json :=
  edit (normalFields .structural self) role value.unified

/-- What the normal form of a node has under a keyword. -/
noncomputable def formField (self keyword : String) (value : Json) : Json :=
  normalField .structural self keyword (form self (roleUnder keyword value) value)

theorem unified_normalForm_eq_form (name : String) (schema : Json) :
    (normalForm .structural name schema).unified =
      form (SchemaRef.ofName name) .schema schema := by
  rw [normalForm_eq_edit]
  exact Schema.unified_edit (unified_normalFields .structural _) schema .schema

theorem form_node (fields : List (String × Json)) : form self .schema (.object fields) =
    .object (Fields.mapValues (formField self)
      (fields.filter fun field => keeps .structural field.1)) := by
  rw [form, Json.unified_object, Schema.edit_node, normalFields, Fields.mapValues_mapValues,
    Fields.filter_mapValues, Fields.mapValues_mapValues]
  refine congrArg Json.object (Fields.mapValues_congr fun field _ => ?_)
  rw [editField, Schema.roleUnder_unified]
  rfl

theorem form_object (h : role ≠ .schema) (fields : List (String × Json)) :
    form self role (.object fields) =
      .object (Fields.mapValues (fun _ => form self role.member) fields) := by
  rw [form, Json.unified_object, Schema.edit_object _ h, Fields.mapValues_mapValues]
  rfl

theorem form_named (fields : List (String × Json)) : form self .named (.object fields) =
    .object (Fields.mapValues (fun _ => form self .schema) fields) :=
  form_object (by decide) fields

theorem form_array (items : List Json) :
    form self role (.array items) = .array (items.map (form self role.item)) := by
  rw [form, Json.unified_array, Schema.edit_array, List.map_map]
  rfl

theorem isSome_object?_form (self : String) (role : Schema.Role) (value : Json) :
    (form self role value).object?.isSome = value.object?.isSome := by
  cases value with
  | object fields =>
      by_cases hrole : role = .schema
      · rw [hrole, form_node]
        rfl
      · rw [form_object hrole]
        rfl
  | array items =>
      rw [form_array]
      rfl
  | _ => cases role <;> rfl

theorem isSome_object?_formField (self keyword : String) (value : Json) :
    (formField self keyword value).object?.isSome = value.object?.isSome := by
  rw [formField, ← isSome_object?_form self (roleUnder keyword value) value]
  cases form self (roleUnder keyword value) value with
  | string text =>
      rw [normalField]
      split <;> rfl
  | array items =>
      rw [normalField_array]
      rfl
  | _ => rfl

/-- The objects under a keyword are in no order that the tier ignores. -/
theorem formField_object (keyword : String) (fields : List (String × Json)) :
    formField self keyword (.object fields) =
      form self (roleUnder keyword (.object fields)) (.object fields) := by
  have hobject := isSome_object?_form self (roleUnder keyword (.object fields)) (.object fields)
  rw [formField]
  cases hform : form self (roleUnder keyword (.object fields)) (.object fields) with
  | object members => rfl
  | _ =>
      rw [hform] at hobject
      cases hobject

theorem get?_form_node {keyword : String} (hkeep : keeps .structural keyword) (value : Json) :
    (form self .schema value).get? keyword = (value.get? keyword).map (formField self keyword) := by
  cases value with
  | object fields =>
      rw [form_node, Json.get?, Fields.lookup_mapValues, Fields.lookup_filter _ hkeep]
      rfl
  | array items =>
      rw [form_array]
      rfl
  | _ => rfl

theorem get?_form_named (name : String) (value : Json) :
    (form self .named value).get? name = (value.get? name).map (form self .schema) := by
  cases value with
  | object fields =>
      rw [form_named, Json.get?, Fields.lookup_mapValues]
      rfl
  | array items =>
      rw [form_array]
      rfl
  | _ => rfl

/-- What is a text stays the text that it is, and nothing else becomes one. -/
theorem string?_form (self : String) (role : Schema.Role) (value : Json) :
    (form self role value).string? = value.string? := by
  cases value with
  | object fields =>
      by_cases hrole : role = .schema
      · rw [hrole, form_node]
        rfl
      · rw [form_object hrole]
        rfl
  | array items =>
      rw [form_array]
      rfl
  | _ => cases role <;> rfl

/-- Only references are marked. -/
theorem string?_formField {keyword : String} (h : keyword ≠ "$ref") (value : Json) :
    (formField self keyword value).string? = value.string? := by
  rw [formField, ← string?_form self (roleUnder keyword value) value]
  cases form self (roleUnder keyword value) value with
  | string text => rw [normalField, if_neg fun hmark => h hmark.1]
  | array items =>
      rw [normalField_array]
      rfl
  | _ => rfl

section Ways

/-- What leads to an object is one. -/
theorem exists_object_of_follow? {fields : List (String × Json)}
    (h : value.follow? way = some (.object fields)) : ∃ members, value = .object members := by
  cases way with
  | nil => exact ⟨fields, Option.some.inj h⟩
  | cons segment way =>
      obtain ⟨members, inner, rfl, _, _⟩ := Json.follow?_cons_eq_some h
      exact ⟨members, rfl⟩

theorem exists_object_of_isSome (h : value.object?.isSome) : ∃ fields, value = .object fields := by
  cases value with
  | object fields => exact ⟨fields, rfl⟩
  | _ => cases h

theorem follow?_form_cons {keyword : String}
    (hunder : ∀ fields, roleUnder keyword (.object fields) = role)
    (hkeep : keeps .structural keyword)
    (hbelow : ∀ {inner : Json}, (form self role inner).follow? way = some (.object shown) ↔
      ∃ fields, inner.follow? way = some (.object fields) ∧
        form self .schema (.object fields) = .object shown) :
    (form self .schema value).follow? (keyword :: way) = some (.object shown) ↔
      ∃ fields, value.follow? (keyword :: way) = some (.object fields) ∧
        form self .schema (.object fields) = .object shown := by
  rw [Json.follow?_cons, Json.follow?_cons, get?_form_node hkeep]
  cases value.get? keyword with
  | none => simp
  | some inner =>
      rw [Option.map_some, Option.bind_some, Option.bind_some]
      by_cases hobject : inner.object?.isSome
      · obtain ⟨members, rfl⟩ := exists_object_of_isSome hobject
        rw [formField_object, hunder]
        exact hbelow
      · -- Nothing leads on to an object on either side.
        have hnone : ∀ {other : Json} {fields : List (String × Json)}, ¬other.object?.isSome →
            other.follow? way ≠ some (.object fields) := by
          rintro other fields hother hfound
          obtain ⟨members, rfl⟩ := exists_object_of_follow? hfound
          exact hother rfl
        refine iff_of_false (hnone ?_) ?_
        · rwa [isSome_object?_formField]
        · rintro ⟨fields, hfields, -⟩
          exact hnone hobject hfields

/-- The ways of the search lead to the same objects in the normal form as in the value. -/
theorem follow?_form_iff (h : Way role depth way) :
    (form self role value).follow? way = some (.object shown) ↔
      ∃ fields, value.follow? way = some (.object fields) ∧
        form self .schema (.object fields) = .object shown := by
  induction h generalizing value with
  | here =>
      simp only [Json.follow?_nil, Option.some.injEq]
      constructor
      · intro hform
        have hobject : value.object?.isSome := by
          rw [← isSome_object?_form self .schema, hform]
          rfl
        obtain ⟨fields, rfl⟩ := exists_object_of_isSome hobject
        exact ⟨fields, rfl, hform⟩
      · rintro ⟨fields, rfl, hform⟩
        exact hform
  | items _ ih => exact follow?_form_cons (fun _ => rfl) (by decide) ih
  | properties _ ih => exact follow?_form_cons (fun _ => rfl) (by decide) ih
  | name name _ ih =>
      rw [Json.follow?_cons, Json.follow?_cons, get?_form_named]
      cases value.get? name with
      | none => simp
      | some inner => exact ih

end Ways

/-- Whether a schema is an inline object can be seen by its normal form. -/
theorem isInlineObject_form (self : String) (value : Json) :
    isInlineObject (form self .schema value) = isInlineObject value := by
  have htype : ((form self .schema value).get? "type").bind Json.string? =
      (value.get? "type").bind Json.string? := by
    rw [get?_form_node (by decide), Option.bind_map]
    exact congrArg (Option.bind _) (funext (string?_formField (by decide)))
  unfold isInlineObject
  rw [htype, get?_form_node (by decide), get?_form_node (by decide), Option.isNone_map]
  congr 1
  cases value.get? "properties" with
  | none => rfl
  | some properties =>
      rw [Option.map_some, Option.bind_some, Option.bind_some]
      by_cases hobject : properties.object?.isSome
      · obtain ⟨members, rfl⟩ := exists_object_of_isSome hobject
        have hnamed : roleUnder "properties" (.object members) = .named := rfl
        rw [formField_object, hnamed, form_named]
        cases members <;> rfl
      · have hform := isSome_object?_formField self "properties" properties
        rw [Bool.not_eq_true, Option.isSome_eq_false_iff, Option.isNone_iff_eq_none] at hobject
        rw [hobject, Option.isSome_none, Option.isSome_eq_false_iff,
          Option.isNone_iff_eq_none] at hform
        rw [hobject, hform]

end Key

end SchemaMerge
