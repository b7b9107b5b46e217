import SchemaMerge.Proofs.NormalWays
import SchemaMerge.Proofs.SaidReferences
import SchemaMerge.Proofs.ShapePreservation
import SchemaMerge.Proofs.TierRefinement

/-!
What the structural tier compares of a value, before references to oneself are marked: its plain form
(`Key.plain`). Values with one plain form have one key under every name (`Key.ofDefinition_congr`).
Inline objects are compared under the empty name, which marks nothing if nothing refers to that name,
so objects with one such key have one plain form (`Key.plain_congr`). The ways that the search for
inline objects takes are ways in the plain form too, and what is replaced at the end of one is
replaced in the plain form (`Key.plain_replaceAt`).
-/

namespace SchemaMerge

open Schema (edit editField roleUnder selecting)
open Extraction (Way replaceAt)

namespace Json

/-- Below what is no object no way leads on. -/
theorem follow?_eq_none {value : Json} (h : value.object? = none) {way : List String}
    (hway : way ≠ []) : value.follow? way = none := by
  cases way with
  | nil => exact absurd rfl hway
  | cons segment way =>
      cases value with
      | object fields => cases h
      | _ => rfl

end Json

namespace Extraction

/-- Where no way leads there is nothing to replace. -/
theorem replaceAt_eq_self_of_object? {new value : Json} (h : value.object? = none)
    {way : List String} (hway : way ≠ []) : replaceAt new way value = value := by
  cases way with
  | nil => exact absurd rfl hway
  | cons segment way =>
      cases value with
      | object fields => cases h
      | _ => rfl

end Extraction

namespace Key

variable {role : Schema.Role} {depth d : Nat} {way : List String} {value found : Json}

/-- The normal form of a value at the structural tier in which no reference is one to oneself: the
mark itself is what is marked. -/
noncomputable def plain (role : Schema.Role) (value : Json) : Json :=
  edit (normalFields .structural selfMark) role value.unified

/-- What the plain form of a node has under a keyword. -/
noncomputable def plainField (keyword : String) (value : Json) : Json :=
  normalField .structural selfMark keyword (plain (roleUnder keyword value) value)

theorem plain_node (fields : List (String × Json)) : plain .schema (.object fields) =
    .object (Fields.mapValues plainField (fields.filter fun field => keeps .structural field.1)) :=
  form_node fields

theorem plain_object (h : role ≠ .schema) (fields : List (String × Json)) :
    plain role (.object fields) =
      .object (Fields.mapValues (fun _ => plain role.member) fields) :=
  form_object h fields

theorem plain_named (fields : List (String × Json)) : plain .named (.object fields) =
    .object (Fields.mapValues (fun _ => plain .schema) fields) :=
  form_named fields

theorem plain_array (items : List Json) :
    plain role (.array items) = .array (items.map (plain role.item)) :=
  form_array items

theorem isSome_object?_plain (role : Schema.Role) (value : Json) :
    (plain role value).object?.isSome = value.object?.isSome :=
  isSome_object?_form selfMark role value

theorem isSome_object?_plainField (keyword : String) (value : Json) :
    (plainField keyword value).object?.isSome = value.object?.isSome :=
  isSome_object?_formField selfMark keyword value

theorem plainField_object (keyword : String) (fields : List (String × Json)) :
    plainField keyword (.object fields) =
      plain (roleUnder keyword (.object fields)) (.object fields) :=
  formField_object keyword fields

theorem get?_plain_node {keyword : String} (hkeep : keeps .structural keyword) (value : Json) :
    (plain .schema value).get? keyword = (value.get? keyword).map (plainField keyword) :=
  get?_form_node hkeep value

theorem get?_plain_named (name : String) (value : Json) :
    (plain .named value).get? name = (value.get? name).map (plain .schema) :=
  get?_form_named name value

/-- The mark is what is marked, so every text stays the text that it is. -/
theorem string?_plainField (keyword : String) (value : Json) :
    (plainField keyword value).string? = value.string? := by
  rw [plainField, ← string?_form selfMark (roleUnder keyword value) value]
  change (normalField .structural selfMark keyword
    (form selfMark (roleUnder keyword value) value)).string? = _
  cases form selfMark (roleUnder keyword value) value with
  | string text => rw [normalField_selfMark_string]
  | array items =>
      rw [normalField_array]
      rfl
  | _ => rfl

section Keys

/-- A definition is an alias if it has a reference and nothing but annotations beside it. -/
theorem aliasTarget?_object (fields : List (String × Json)) : aliasTarget? (.object fields) =
    ((fields.lookup "$ref").bind Json.string?).bind fun target =>
      if fields.all fun field => field.1 = "$ref" || field.1 ∈ Schema.metadataKeywords then
        some ((SchemaRef.name? target).getD target)
      else none := by
  unfold aliasTarget?
  split
  case h_1 target other hkind hobject =>
    cases hobject
    rw [kind_eq_reference_iff.1 hkind]
    rfl
  case h_2 hnone =>
    have hstring : (fields.lookup "$ref").bind Json.string? = none := by
      rw [Option.eq_none_iff_forall_ne_some]
      intro target htarget
      obtain ⟨value, hvalue, hstring⟩ := Option.bind_eq_some_iff.1 htarget
      cases value with
      | string text => exact hnone text fields (kind_eq_reference_iff.2 hvalue) rfl
      | _ => cases hstring
    rw [hstring]
    rfl

/-- Annotations do not matter to whether a definition is an alias. -/
theorem aliasTarget?_plain (value : Json) :
    aliasTarget? (plain .schema value) = aliasTarget? value := by
  cases value with
  | object fields =>
      have hlookup : ((Fields.mapValues plainField
          (fields.filter fun field => keeps .structural field.1)).lookup "$ref").bind Json.string? =
            (fields.lookup "$ref").bind Json.string? := by
        rw [Fields.lookup_mapValues, Fields.lookup_filter _ (by decide), Option.bind_map]
        exact congrArg (Option.bind _) (funext (string?_plainField "$ref"))
      have hall : ((Fields.mapValues plainField
          (fields.filter fun field => keeps .structural field.1)).all fun field =>
            field.1 = "$ref" || field.1 ∈ Schema.metadataKeywords) =
              fields.all fun field => field.1 = "$ref" || field.1 ∈ Schema.metadataKeywords := by
        rw [Fields.mapValues, List.all_map, List.all_filter]
        refine congrArg (fields.all ·) (funext fun field => ?_)
        by_cases hmeta : field.1 ∈ Schema.metadataKeywords <;> simp [keeps, hmeta]
      rw [plain_node, aliasTarget?_object, aliasTarget?_object, hlookup, hall]
  | array items =>
      rw [plain_array]
      rfl
  | _ => rfl

/-- The order of items does not matter to how deeply they are nested. -/
theorem mem_depths_normalField {tier : MergeTier} {self keyword : String} :
    d ∈ Schema.depths role depth (normalField tier self keyword value) ↔
      d ∈ Schema.depths role depth value := by
  cases value with
  | string text =>
      have hsame : ∀ text : String, Schema.depths role depth (.string text) =
          if role = .schema then [depth] else [] := fun _ => by cases role <;> rfl
      rw [normalField]
      split
      · rw [hsame, hsame]
      · rfl
  | array items =>
      rw [normalField_array, ordered]
      split
      case isTrue =>
        cases role with
        | listed =>
            rw [Schema.mem_depths_listed, Schema.mem_depths_listed]
            exact exists_congr fun item => and_congr_left' (sortOn_perm _ _).mem_iff
        | _ => rfl
      case isFalse => rfl
  | _ => rfl

theorem roleUnder_plainField (keyword : String) (value : Json) (other : String) :
    roleUnder other (plainField keyword value) = roleUnder other value := by
  have hnormal : ∀ value : Json,
      roleUnder other (normalField .structural selfMark keyword value) = roleUnder other value := by
    intro value
    cases value with
    | string text => rw [normalField_selfMark_string]
    | array items =>
        rw [normalField_array]
        rfl
    | _ => rfl
  rw [plainField, hnormal, plain, Schema.roleUnder_edit, Schema.roleUnder_unified]

/-- A value is nested as deeply as its plain form. -/
theorem mem_depths_plain :
    d ∈ Schema.depths role depth (plain role value) ↔ d ∈ Schema.depths role depth value := by
  induction value using Json.induction generalizing role depth with
  | array items ih =>
      rw [plain_array]
      cases role with
      | listed =>
          simp only [Schema.mem_depths_listed, List.mem_map, exists_exists_and_eq_and]
          exact exists_congr fun item => and_congr_right fun hitem => ih item hitem
      | _ => rfl
  | object fields ih =>
      cases role with
      | schema =>
          rw [plain_node, Schema.mem_depths_node, Schema.mem_depths_node]
          refine or_congr_right (exists_congr fun keyword => and_congr_right fun hkeyword => ?_)
          have hkeep : ∀ keyword ∈ Schema.visitOrder, keeps .structural keyword := by decide
          rw [Fields.lookup_mapValues, Fields.lookup_filter _ (hkeep keyword hkeyword)]
          cases hfound : fields.lookup keyword with
          | none => simp
          | some value =>
              simp only [Option.map_some, Option.some.injEq, exists_eq_left']
              rw [roleUnder_plainField, plainField, mem_depths_normalField]
              exact ih _ (Fields.mem_of_lookup hfound)
      | named =>
          rw [plain_named]
          simp only [Schema.mem_depths_named, Fields.mapValues, List.mem_map,
            exists_exists_and_eq_and]
          exact exists_congr fun field => and_congr_right fun hfield => ih field hfield
      | _ => rfl
  | number n => cases role <;> rfl
  | _ => rfl

/-- The normal form under any name can be read off the plain form. -/
theorem normalForm_plain (self : String) (value : Json) :
    edit (normalFields .structural self) .schema (plain .schema value) =
      edit (normalFields .structural self) .schema value.unified := by
  have hstring : ∀ keyword text, normalField .structural self keyword
      (normalField .structural selfMark keyword (.string text)) =
        normalField .structural self keyword (.string text) := by
    intro keyword text
    rw [normalField_selfMark_string]
  exact Schema.edit_absorbs (fun _ => id) (normalField_absorbs (fun _ => id) hstring
    (fun _ _ _ => rfl) (normalField_array .structural self)
    (unified_normalFields .structural self)) value .schema

/-- Definitions with one plain form have one key, whatever they are called. -/
theorem ofDefinition_congr {u v : Json} (h : plain .schema u = plain .schema v) (limit : UInt64)
    (name : String) (key : Key) : ofDefinition limit .structural name u = .ok key ↔
      ofDefinition limit .structural name v = .ok key := by
  have halias : aliasTarget? u = aliasTarget? v := by
    rw [← aliasTarget?_plain u, h, aliasTarget?_plain]
  have hdeep : tooDeep? limit (SchemaRef.ofName name) u = none ↔
      tooDeep? limit (SchemaRef.ofName name) v = none := by
    rw [tooDeep?_eq_none_iff, tooDeep?_eq_none_iff]
    refine forall_congr' fun depth => imp_congr_left ?_
    have hdepth : ∀ w : Json, depth ∈ Schema.depths .schema 0 w ↔
        depth ∈ Schema.depths .schema 0 (plain .schema w) := fun _ => mem_depths_plain.symm
    rw [hdepth u, h, hdepth v]
  have htext : (normalForm .structural name u).compact =
      (normalForm .structural name v).compact := by
    rw [Json.compact_eq_iff, unified_normalForm, unified_normalForm, ← normalForm_plain, h,
      normalForm_plain]
  have hshape : ∀ w : Json, ofShape limit .structural name w = .ok key ↔
      tooDeep? limit (SchemaRef.ofName name) w = none ∧
        Key.content (normalForm .structural name w).compact = key := by
    intro w
    rw [ofShape]
    cases tooDeep? limit (SchemaRef.ofName name) w <;> simp
  change ofDefinition limit (MergeTier.toTier .structural) name u = .ok key ↔
    ofDefinition limit (MergeTier.toTier .structural) name v = .ok key
  rw [ofDefinition_toTier, ofDefinition_toTier, halias]
  cases aliasTarget? v with
  | some target => rfl
  | none => rw [hshape, hshape, hdeep, htext]

/-- A name that nothing refers to marks nothing. -/
theorem edit_normalFields_of_not_said {self : String} (hordered : value.Ordered)
    (h : ¬value.Says self) (role : Schema.Role) :
    edit (normalFields .structural self) role value =
      edit (normalFields .structural selfMark) role value := by
  induction value using Json.induction generalizing role with
  | array items ih =>
      rw [Json.ordered_array] at hordered
      rw [Schema.edit_array, Schema.edit_array]
      refine congrArg Json.array (List.map_congr_left fun item hitem => ?_)
      exact ih item hitem (hordered item hitem) (fun hsaid => h (.item hitem hsaid)) _
  | object fields ih =>
      rw [Json.ordered_object] at hordered
      have hbelow : ∀ field ∈ fields, ∀ role, edit (normalFields .structural self) role field.2 =
          edit (normalFields .structural selfMark) role field.2 := fun field hfield role =>
        ih field hfield (hordered.2 field hfield) (fun hsaid => h (.member hfield hsaid)) role
      by_cases hrole : role = .schema
      · subst hrole
        rw [Schema.edit_node, Schema.edit_node, normalFields, normalFields, Fields.filter_mapValues,
          Fields.filter_mapValues, Fields.mapValues_mapValues, Fields.mapValues_mapValues]
        refine congrArg Json.object (Fields.mapValues_congr fun field hkept => ?_)
        have hfield := (List.mem_filter.1 hkept).1
        obtain ⟨key, inner⟩ := field
        rw [editField, editField, hbelow _ hfield]
        cases inner with
        | string text =>
            have hnot : ¬(key = "$ref" ∧ text = self) := by
              rintro ⟨rfl, rfl⟩
              exact h (.reference (hordered.1.lookup_eq hfield))
            have hedit : edit (normalFields .structural selfMark) (roleUnder key (.string text))
                (.string text) = .string text := rfl
            rw [hedit, normalField_selfMark_string]
            exact if_neg hnot
        | array items =>
            rw [Schema.edit_array, normalField_array, normalField_array]
        | object members =>
            obtain ⟨members', hmembers⟩ : ∃ members', edit (normalFields .structural selfMark)
                (roleUnder key (.object members)) (.object members) = .object members' := by
              generalize roleUnder key (.object members) = role
              cases role <;> exact ⟨_, rfl⟩
            rw [hmembers]
            rfl
        | _ => rfl
      · rw [Schema.edit_object _ hrole, Schema.edit_object _ hrole]
        exact congrArg Json.object (Fields.mapValues_congr fun field hfield => hbelow field hfield _)
  | _ => rfl

/-- Schemas that have one key under the empty name, and are no aliases, have one plain form if nothing
in them refers to that name. -/
theorem plain_congr {u v : Json} {limit : UInt64} {key : Key} (hu : u.Ordered) (hv : v.Ordered)
    (hsaid : ¬u.Says SchemaRef.start) (hsaid' : ¬v.Says SchemaRef.start)
    (halias : aliasTarget? u = none)
    (hkey : ofDefinition limit .structural "" u = .ok key)
    (hkey' : ofDefinition limit .structural "" v = .ok key) :
    plain .schema u = plain .schema v := by
  have hname : SchemaRef.ofName "" = SchemaRef.start := by decide +kernel
  have hplain : ∀ w : Json, w.Ordered → ¬w.Says SchemaRef.start →
      (normalForm .structural "" w).unified = plain .schema w := by
    intro w hordered hnot
    rw [normalForm_eq_edit, hname, edit_normalFields_of_not_said hordered hnot]
    exact Schema.unified_edit (unified_normalFields .structural selfMark) w .schema
  have hcontent : ∃ text, key = .content text := by
    cases key with
    | content text => exact ⟨text, rfl⟩
    | aliasOf target =>
        have hshape := (ofDefinition_toTier limit .structural "" u).symm.trans hkey
        rw [halias] at hshape
        dsimp only at hshape
        rw [ofShape] at hshape
        split at hshape <;> cases hshape
  obtain ⟨text, rfl⟩ := hcontent
  have htext : ∀ w : Json, ofDefinition limit (MergeTier.toTier .structural) "" w =
      .ok (.content text) → (normalForm .structural "" w).compact = text := fun w hw =>
    (ofDefinition_eq_content_iff.1 hw).2.2
  rw [← hplain u hu hsaid, ← hplain v hv hsaid', ← Json.compact_eq_iff, htext u hkey,
    htext v hkey']

end Keys

/-- The plain form of a value in which every key stands for one value is such a value. -/
theorem ordered_plain (h : value.Ordered) (role : Schema.Role) : (plain role value).Ordered := by
  have hnormal : ∀ (keyword : String) (value : Json), value.Ordered →
      (normalField .structural selfMark keyword value).Ordered := by
    intro keyword value hvalue
    cases value with
    | string text =>
        rw [normalField_selfMark_string]
        exact hvalue
    | array items =>
        rw [Json.ordered_array] at hvalue
        rw [normalField_array, ordered, Json.ordered_array]
        split
        · exact fun item hitem => hvalue item ((sortOn_perm _ _).mem_iff.1 hitem)
        · exact hvalue
    | _ => exact hvalue
  induction value using Json.induction generalizing role with
  | array items ih =>
      rw [Json.ordered_array] at h
      rw [plain_array, Json.ordered_array, List.forall_mem_map]
      exact fun item hitem => ih item hitem (h item hitem) _
  | object fields ih =>
      rw [Json.ordered_object] at h
      by_cases hrole : role = .schema
      · subst hrole
        rw [plain_node, Json.ordered_object]
        refine ⟨Fields.Ascending.mapValues (List.Pairwise.filter _ h.1) _, ?_⟩
        intro field hfield
        obtain ⟨old, hold, rfl⟩ := List.mem_map.1 hfield
        have hmem := (List.mem_filter.1 hold).1
        exact hnormal _ _ (ih old hmem (h.2 old hmem) _)
      · rw [plain_object hrole, Json.ordered_object]
        refine ⟨h.1.mapValues _, fun field hfield => ?_⟩
        obtain ⟨old, hold, rfl⟩ := List.mem_map.1 hfield
        exact ih old hold (h.2 old hold) _
  | number n => cases role <;> trivial
  | _ => exact h

section Ways

theorem roleUnder_items (fields : List (String × Json)) :
    roleUnder "items" (.object fields) = .schema := rfl

theorem roleUnder_properties (fields : List (String × Json)) :
    roleUnder "properties" (.object fields) = .named := rfl

/-- Something leads on below what a node has under a keyword only if that is an object. -/
theorem exists_object_or_plainField (keyword : String) (value : Json) :
    (∃ members, value = .object members) ∨
      value.object? = none ∧ (plainField keyword value).object? = none := by
  cases hobject : value.object? with
  | some members =>
      cases value with
      | object fields => exact .inl ⟨fields, rfl⟩
      | _ => cases hobject
  | none =>
      have hsame := isSome_object?_plainField keyword value
      rw [hobject, Option.isSome_none, Option.isSome_eq_false_iff,
        Option.isNone_iff_eq_none] at hsame
      exact .inr ⟨rfl, hsame⟩

section Keyword

variable {keyword : String} (hunder : ∀ fields, roleUnder keyword (.object fields) = role)

include hunder

theorem exists_follow?_of_plain_cons (hkeep : keeps .structural keyword)
    (hbelow : ∀ {inner : Json}, (plain role inner).follow? way = some found →
      ∃ below, inner.follow? way = some below)
    (hfound : (plain .schema value).follow? (keyword :: way) = some found) :
    ∃ below, value.follow? (keyword :: way) = some below := by
  rw [Json.follow?_cons, get?_plain_node hkeep] at hfound
  obtain ⟨shown, hshown, hfound⟩ := Option.bind_eq_some_iff.1 hfound
  obtain ⟨inner, hinner, rfl⟩ := Option.map_eq_some_iff.1 hshown
  rw [Json.follow?_cons, hinner, Option.bind_some]
  rcases exists_object_or_plainField keyword inner with ⟨members, rfl⟩ | ⟨_, hnone⟩
  · rw [plainField_object, hunder] at hfound
    exact hbelow hfound
  · by_cases hway : way = []
    · exact ⟨inner, by rw [hway, Json.follow?_nil]⟩
    · rw [Json.follow?_eq_none hnone hway] at hfound
      cases hfound

theorem plain_replaceAt_cons {new : List (String × Json)} (hnil : way = [] → role = .schema)
    (hbelow : ∀ inner, plain role (replaceAt (.object new) way inner) =
      replaceAt (plain .schema (.object new)) way (plain role inner)) (value : Json) :
    plain .schema (replaceAt (.object new) (keyword :: way) value) =
      replaceAt (plain .schema (.object new)) (keyword :: way) (plain .schema value) := by
  have hfield : ∀ inner, plainField keyword (replaceAt (.object new) way inner) =
      replaceAt (plain .schema (.object new)) way (plainField keyword inner) := by
    intro inner
    by_cases hway : way = []
    · rw [hway, Extraction.replaceAt_nil, Extraction.replaceAt_nil, plainField_object, hunder,
        hnil hway]
    · rcases exists_object_or_plainField keyword inner with ⟨members, rfl⟩ | ⟨hinner, hplain⟩
      · obtain ⟨members', hmembers⟩ : ∃ members', replaceAt (.object new) way (.object members) =
            .object members' := by
          cases way with
          | nil => exact absurd rfl hway
          | cons segment way => exact ⟨_, Extraction.replaceAt_cons_object ..⟩
        rw [hmembers, plainField_object, plainField_object, hunder, hunder, ← hmembers]
        exact hbelow _
      · rw [Extraction.replaceAt_eq_self_of_object? hinner hway,
          Extraction.replaceAt_eq_self_of_object? hplain hway]
  cases value with
  | object fields =>
      rw [Extraction.replaceAt_cons_object, plain_node, plain_node fields,
        Extraction.replaceAt_cons_object, Fields.filter_mapValues, Fields.mapValues_mapValues,
        Fields.mapValues_mapValues]
      refine congrArg Json.object (Fields.mapValues_congr fun field _ => ?_)
      split
      case isTrue hkeyword => rw [hkeyword, hfield]
      case isFalse => rfl
  | array items =>
      have hself : ∀ new items, replaceAt new (keyword :: way) (.array items) = .array items :=
        fun _ _ => rfl
      rw [hself, plain_array, hself]
  | _ => rfl

end Keyword

/-- The object at the end of a way is there in the plain form. -/
theorem follow?_plain {fields : List (String × Json)} (h : Way role d way)
    (hfound : value.follow? way = some (.object fields)) :
    (plain role value).follow? way = some (plain .schema (.object fields)) := by
  rw [plain_node]
  exact (follow?_form_iff h).2 ⟨fields, hfound, form_node fields⟩

/-- A way in the plain form is one in the value. -/
theorem exists_follow?_of_plain (h : Way role d way)
    (hfound : (plain role value).follow? way = some found) :
    ∃ below, value.follow? way = some below := by
  induction h generalizing value with
  | here => exact ⟨value, rfl⟩
  | items _ ih => exact exists_follow?_of_plain_cons roleUnder_items (by decide) ih hfound
  | properties _ ih => exact exists_follow?_of_plain_cons roleUnder_properties (by decide) ih hfound
  | name name _ ih =>
      rw [Json.follow?_cons, get?_plain_named] at hfound
      obtain ⟨shown, hshown, hfound⟩ := Option.bind_eq_some_iff.1 hfound
      obtain ⟨inner, hinner, rfl⟩ := Option.map_eq_some_iff.1 hshown
      rw [Json.follow?_cons, hinner]
      exact ih hfound

/-- What is replaced at the end of a way is replaced in the plain form. -/
theorem plain_replaceAt {new : List (String × Json)} (h : Way role d way) (value : Json) :
    plain role (replaceAt (.object new) way value) =
      replaceAt (plain .schema (.object new)) way (plain role value) := by
  induction h generalizing value with
  | here => rw [Extraction.replaceAt_nil, Extraction.replaceAt_nil]
  | items _ ih => exact plain_replaceAt_cons roleUnder_items (fun _ => rfl) ih value
  | properties hway ih =>
      refine plain_replaceAt_cons roleUnder_properties ?_ ih value
      rintro rfl
      cases hway
  | name name _ ih =>
      cases value with
      | object fields =>
          rw [Extraction.replaceAt_cons_object, plain_named, plain_named,
            Extraction.replaceAt_cons_object, Fields.mapValues_mapValues,
            Fields.mapValues_mapValues]
          refine congrArg Json.object (Fields.mapValues_congr fun field _ => ?_)
          split
          case isTrue => exact ih field.2
          case isFalse => rfl
      | array items =>
          rw [plain_array]
          exact plain_array items
      | _ => rfl

end Ways

end Key

end SchemaMerge
