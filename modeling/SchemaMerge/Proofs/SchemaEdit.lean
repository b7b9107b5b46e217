import SchemaMerge.Proofs.JsonText
import SchemaMerge.Proofs.Sorting
import SchemaMerge.Schema.Walk

/-!
Walks that only edit the members of object nodes. Such a walk does not look at where a node stands,
so it is a plain recursion on the value (`Schema.fold_ofEdit`). Two of them one after the other are
one (`Schema.edit_edit`) if the first one only changes what holds no schemas, or if the second one
makes up for what the first one did under each keyword (`Schema.edit_absorbs`). A walk whose edit
does not tell numbers apart that are written alike does not tell such values apart.
-/

namespace SchemaMerge

namespace Schema

mutual

/-- A walk that edits the members of every object node once the schemas in it are done. -/
def edit (f : List (String × Json) → List (String × Json)) (role : Role) : Json → Json
  | .object fields =>
      match role with
      | .schema => .object (f (editFields f fields))
      | .named => .object (editNamed f fields)
      | _ => .object fields
  | .array items =>
      match role with
      | .listed => .array (editListed f items)
      | _ => .array items
  | value => value

def editFields (f : List (String × Json) → List (String × Json)) :
    List (String × Json) → List (String × Json)
  | [] => []
  | (keyword, value) :: rest =>
      (keyword, edit f (roleUnder keyword value) value) :: editFields f rest

def editNamed (f : List (String × Json) → List (String × Json)) :
    List (String × Json) → List (String × Json)
  | [] => []
  | (key, value) :: rest => (key, edit f .schema value) :: editNamed f rest

def editListed (f : List (String × Json) → List (String × Json)) : List Json → List Json
  | [] => []
  | value :: rest => edit f .schema value :: editListed f rest

end

variable (f : List (String × Json) → List (String × Json))

mutual

/-- What such a walk makes of a value does not depend on where the value stands. -/
theorem fold_ofEdit (role : Role) (path : String) (depth : Nat) :
    ∀ value : Json, fold (.ofEdit f) role path depth value = edit f role value
  | .object fields => by
      cases role <;> simp only [fold, edit, Visitor.ofEdit]
      · exact congrArg (fun fields => Json.object (f fields)) (foldFields_ofEdit path depth fields)
      · exact congrArg Json.object (foldNamed_ofEdit path depth fields)
  | .array items => by
      cases role <;> simp only [fold, edit, Visitor.ofEdit]
      exact congrArg Json.array (foldListed_ofEdit path depth 0 items)
  | .null => by cases role <;> rfl
  | .bool _ => by cases role <;> rfl
  | .number _ => by cases role <;> rfl
  | .string _ => by cases role <;> rfl

theorem foldFields_ofEdit (path : String) (depth : Nat) :
    ∀ fields, foldFields (.ofEdit f) path depth fields = editFields f fields
  | [] => rfl
  | (keyword, value) :: rest => by
      rw [foldFields, editFields, fold_ofEdit, foldFields_ofEdit]

theorem foldNamed_ofEdit (path : String) (depth : Nat) :
    ∀ fields, foldNamed (.ofEdit f) path depth fields = editNamed f fields
  | [] => rfl
  | (key, value) :: rest => by
      rw [foldNamed, editNamed, fold_ofEdit, foldNamed_ofEdit]

theorem foldListed_ofEdit (path : String) (depth index : Nat) :
    ∀ items, foldListed (.ofEdit f) path depth index items = editListed f items
  | [] => rfl
  | value :: rest => by
      rw [foldListed, editListed, fold_ofEdit, foldListed_ofEdit]

end

/-- What the members of an object that is no node stand for. -/
def Role.member : Role → Role
  | .named => .schema
  | _ => .leaf

/-- What the items of an array stand for. -/
def Role.item : Role → Role
  | .listed => .schema
  | _ => .leaf

/-- Edits what stands under a keyword of a node. -/
def editField (keyword : String) (value : Json) : Json :=
  edit f (roleUnder keyword value) value

theorem editFields_eq (fields : List (String × Json)) :
    editFields f fields = Fields.mapValues (editField f) fields := by
  induction fields with
  | nil => rfl
  | cons field rest ih =>
      rw [editFields, ih]
      rfl

theorem editNamed_eq (fields : List (String × Json)) :
    editNamed f fields = Fields.mapValues (fun _ value => edit f .schema value) fields := by
  induction fields with
  | nil => rfl
  | cons field rest ih =>
      rw [editNamed, ih]
      rfl

theorem editListed_eq (items : List Json) : editListed f items = items.map (edit f .schema) := by
  induction items with
  | nil => rfl
  | cons item rest ih => rw [editListed, ih, List.map_cons]

@[simp]
theorem edit_leaf (value : Json) : edit f .leaf value = value := by
  cases value <;> rfl

theorem edit_node (fields : List (String × Json)) :
    edit f .schema (.object fields) = .object (f (Fields.mapValues (editField f) fields)) := by
  rw [edit, editFields_eq]

theorem edit_object {role : Role} (h : role ≠ .schema) (fields : List (String × Json)) :
    edit f role (.object fields) =
      .object (Fields.mapValues (fun _ value => edit f role.member value) fields) := by
  have hleaf : Fields.mapValues (fun _ value => edit f .leaf value) fields = fields :=
    Fields.mapValues_eq_self fun field _ => edit_leaf f field.2
  cases role with
  | schema => exact absurd rfl h
  | named => rw [edit, editNamed_eq, Role.member]
  | listed => exact congrArg Json.object hleaf.symm
  | leaf => exact congrArg Json.object hleaf.symm

theorem edit_array (role : Role) (items : List Json) :
    edit f role (.array items) = .array (items.map (edit f role.item)) := by
  have hleaf : items.map (edit f .leaf) = items := by
    rw [List.map_congr_left (g := id) fun value _ => edit_leaf f value, List.map_id]
  cases role with
  | listed => rw [edit, editListed_eq, Role.item]
  | schema => exact congrArg Json.array hleaf.symm
  | named => exact congrArg Json.array hleaf.symm
  | leaf => exact congrArg Json.array hleaf.symm

/-- An edit leaves the kind of a value alone, and that is all a keyword looks at. -/
theorem roleUnder_edit (keyword : String) (role : Role) (value : Json) :
    roleUnder keyword (edit f role value) = roleUnder keyword value := by
  cases value <;> cases role <;> rfl

theorem roleUnder_unified (keyword : String) (value : Json) :
    roleUnder keyword value.unified = roleUnder keyword value := by
  cases value <;> rfl

variable {f}

/-- A walk that edits nothing changes nothing. -/
theorem edit_eq_self {f : List (String × Json) → List (String × Json)}
    (hf : ∀ fields, f fields = fields) (value : Json) (role : Role) : edit f role value = value := by
  induction value using Json.induction generalizing role with
  | array items ih =>
      rw [edit_array, List.map_congr_left fun item hitem => ih item hitem role.item, List.map_id']
  | object fields ih =>
      by_cases hrole : role = .schema
      · subst hrole
        rw [edit_node, hf]
        exact congrArg Json.object (Fields.mapValues_eq_self fun field hfield => ih field hfield _)
      · rw [edit_object f hrole]
        exact congrArg Json.object (Fields.mapValues_eq_self fun field hfield => ih field hfield _)
  | _ => rfl

/-- Only values are changed that hold no schemas. -/
def IsLocal (k : String → Json → Json) : Prop :=
  ∀ keyword, (∀ value, k keyword value = value) ∨ ∀ value, roleUnder keyword value = .leaf

/-- Two walks are one if the first of them is local. -/
theorem edit_edit {k : String → Json → Json} (hk : IsLocal k) (value : Json) (role : Role) :
    edit f role (edit (Fields.mapValues k) role value) =
      edit (fun fields => f (Fields.mapValues k fields)) role value := by
  induction value using Json.induction generalizing role with
  | array items ih =>
      rw [edit_array, edit_array, edit_array, List.map_map]
      exact congrArg Json.array (List.map_congr_left fun item hitem => ih item hitem role.item)
  | object fields ih =>
      by_cases hrole : role = .schema
      · subst hrole
        rw [edit_node, edit_node, edit_node, Fields.mapValues_mapValues, Fields.mapValues_mapValues,
          Fields.mapValues_mapValues]
        refine congrArg (fun fields => Json.object (f fields)) (Fields.mapValues_congr ?_)
        intro field hfield
        rcases hk field.1 with hsame | hleaf
        · rw [hsame, hsame, editField, editField, roleUnder_edit]
          exact ih field hfield _
        · simp only [editField, hleaf, edit_leaf]
      · rw [edit_object _ hrole, edit_object _ hrole, edit_object _ hrole,
          Fields.mapValues_mapValues]
        refine congrArg Json.object (Fields.mapValues_congr fun field hfield => ?_)
        exact ih field hfield role.member
  | _ => rfl

/-- A walk whose edit does not tell numbers apart that are written alike does not do so as a whole.
-/
theorem unified_edit
    (hf : ∀ fields, Fields.mapValues (fun _ => Json.unified) (f fields) =
      f (Fields.mapValues (fun _ => Json.unified) fields))
    (value : Json) (role : Role) : (edit f role value).unified = edit f role value.unified := by
  induction value using Json.induction generalizing role with
  | array items ih =>
      rw [edit_array, Json.unified_array, Json.unified_array, edit_array, List.map_map,
        List.map_map]
      exact congrArg Json.array (List.map_congr_left fun item hitem => ih item hitem role.item)
  | object fields ih =>
      by_cases hrole : role = .schema
      · subst hrole
        rw [edit_node, Json.unified_object, Json.unified_object, edit_node, hf,
          Fields.mapValues_mapValues, Fields.mapValues_mapValues]
        refine congrArg (fun fields => Json.object (f fields)) (Fields.mapValues_congr ?_)
        intro field hfield
        rw [editField, editField, roleUnder_unified]
        exact ih field hfield _
      · rw [edit_object f hrole, Json.unified_object, Json.unified_object, edit_object f hrole,
          Fields.mapValues_mapValues, Fields.mapValues_mapValues]
        refine congrArg Json.object (Fields.mapValues_congr fun field hfield => ?_)
        exact ih field hfield role.member
  | _ => rfl

/-- An edit that keeps some keywords and changes what stands under them. -/
def selecting (keep : String → Bool) (k : String → Json → Json) (fields : List (String × Json)) :
    List (String × Json) :=
  Fields.mapValues k (fields.filter fun field => keep field.1)

section Absorption

variable {keep keep' : String → Bool} {k l m : String → Json → Json}

/-- Two walks are one if the second one keeps no more keywords and under each of them the two come
to what the one walk comes to. That needs to hold only where the walks below are one already. -/
theorem edit_absorbs (hkeep : ∀ keyword, keep' keyword → keep keyword)
    (hfield : ∀ (keyword : String) (value : Json),
      (∀ role, edit (selecting keep' l) role (edit (selecting keep k) role value.unified) =
        edit (selecting keep' m) role value.unified) →
      l keyword (editField (selecting keep' l) keyword
        (k keyword (editField (selecting keep k) keyword value.unified))) =
          m keyword (editField (selecting keep' m) keyword value.unified))
    (value : Json) (role : Role) :
    edit (selecting keep' l) role (edit (selecting keep k) role value.unified) =
      edit (selecting keep' m) role value.unified := by
  induction value using Json.induction generalizing role with
  | array items ih =>
      rw [Json.unified_array, edit_array, edit_array, edit_array, List.map_map, List.map_map,
        List.map_map]
      exact congrArg Json.array (List.map_congr_left fun item hitem => ih item hitem role.item)
  | object fields ih =>
      by_cases hrole : role = .schema
      · subst hrole
        have hboth : ∀ field : String × Json,
            (keep' field.1 && keep field.1) = keep' field.1 := by
          intro field
          cases hkept : keep' field.1 with
          | false => rfl
          | true => rw [hkeep _ hkept, Bool.and_self]
        rw [Json.unified_object, edit_node, edit_node, edit_node, Fields.mapValues_mapValues]
        simp only [selecting, Fields.filter_mapValues, Fields.mapValues_mapValues,
          List.filter_filter, hboth]
        refine congrArg Json.object (Fields.mapValues_congr fun field hkept => ?_)
        exact hfield field.1 field.2 (ih field (List.mem_filter.1 hkept).1)
      · rw [Json.unified_object, edit_object _ hrole, edit_object _ hrole, edit_object _ hrole,
          Fields.mapValues_mapValues, Fields.mapValues_mapValues, Fields.mapValues_mapValues]
        refine congrArg Json.object (Fields.mapValues_congr fun field hfield => ?_)
        exact ih field hfield role.member
  | _ => rfl

end Absorption

end Schema

end SchemaMerge
