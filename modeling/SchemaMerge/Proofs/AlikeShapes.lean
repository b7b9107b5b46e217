import Mathlib.Data.List.Forall2
import SchemaMerge.Proofs.NormalForms

/-!
Shapes that a tier does not tell apart. Two schemas are alike if one becomes the other by changes
that the tier ignores (`Schema.Alike`): of the keywords that it leaves out, and of the order of
items where it sorts them. That is the case exactly when they have one normal form
(`Schema.alike_iff`). At the exact tier only equal values are alike (`Schema.alike_exact_iff`).
-/

namespace SchemaMerge

open Key (normalField normalFields keeps ignoresOrder selfMark)

namespace Schema

/-- What a tier does not tell apart. -/
inductive Alike (tier : MergeTier) : Role → Json → Json → Prop where
  | same {role : Role} {u v : Json} (h : u.unified = v.unified) : Alike tier role u v
  | symm {role : Role} {u v : Json} (h : Alike tier role u v) : Alike tier role v u
  | trans {role : Role} {u v w : Json} (huv : Alike tier role u v) (hvw : Alike tier role v w) :
      Alike tier role u w
  /-- Keywords of a schema that are ignored. -/
  | ignored {fields fields' : List (String × Json)}
      (h : (fields.filter fun field => keeps tier field.1) =
        fields'.filter fun field => keeps tier field.1) :
      Alike tier .schema (.object fields) (.object fields')
  /-- The order of items under a keyword where it is ignored. -/
  | reordered {before after : List (String × Json)} {keyword : String} {items items' : List Json}
      (hkeyword : ignoresOrder tier keyword) (hitems : items.Perm items') :
      Alike tier .schema (.object (before ++ (keyword, .array items) :: after))
        (.object (before ++ (keyword, .array items') :: after))
  /-- What stands under a keyword of a schema. -/
  | under {before after : List (String × Json)} {keyword : String} {role : Role} {u v : Json}
      (hu : roleUnder keyword u = role) (hv : roleUnder keyword v = role)
      (h : Alike tier role u v) :
      Alike tier .schema (.object (before ++ (keyword, u) :: after))
        (.object (before ++ (keyword, v) :: after))
  /-- A schema in an object of schemas. -/
  | named {before after : List (String × Json)} {key : String} {u v : Json}
      (h : Alike tier .schema u v) :
      Alike tier .named (.object (before ++ (key, u) :: after))
        (.object (before ++ (key, v) :: after))
  /-- A schema in an array of schemas. -/
  | listed {before after : List Json} {u v : Json} (h : Alike tier .schema u v) :
      Alike tier .listed (.array (before ++ u :: after)) (.array (before ++ v :: after))

variable {tier : MergeTier} {role : Role}

/-- Members may be changed one after the other. -/
theorem alike_of_members {fields fields' : List (String × Json)}
    (h : List.Forall₂ (fun field field' => ∀ before after, Alike tier role
      (.object (before ++ field :: after)) (.object (before ++ field' :: after))) fields fields') :
    Alike tier role (.object fields) (.object fields') := by
  suffices ∀ before, Alike tier role (.object (before ++ fields)) (.object (before ++ fields'))
    from this []
  induction h with
  | nil => exact fun before => .same rfl
  | @cons field field' rest rest' hfield _ ih =>
      intro before
      have hrest := ih (before ++ [field'])
      rw [List.append_assoc, List.append_assoc] at hrest
      exact .trans (hfield before rest) hrest

theorem alike_mapValues {k : String → Json → Json} {fields : List (String × Json)}
    (h : ∀ field ∈ fields, ∀ before after, Alike tier role (.object (before ++ field :: after))
      (.object (before ++ (field.1, k field.1 field.2) :: after))) :
    Alike tier role (.object fields) (.object (Fields.mapValues k fields)) := by
  refine alike_of_members (List.forall₂_map_right_iff.2 (List.forall₂_same.2 h))

/-- Schemas in an array may be changed one after the other. -/
theorem alike_map {k : Json → Json} {items : List Json}
    (h : ∀ item ∈ items, Alike tier .schema item (k item)) :
    Alike tier .listed (.array items) (.array (items.map k)) := by
  suffices ∀ before, Alike tier .listed (.array (before ++ items)) (.array (before ++ items.map k))
    from this []
  induction items with
  | nil => exact fun before => .same rfl
  | cons item rest ih =>
      intro before
      have hrest := ih (fun other hother => h other (List.mem_cons_of_mem _ hother))
        (before ++ [k item])
      rw [List.append_assoc, List.append_assoc] at hrest
      exact .trans (.listed (h item List.mem_cons_self)) hrest

/-- The normal form of a value in which no reference is one to oneself. -/
def normalized (tier : MergeTier) (role : Role) (value : Json) : Json :=
  edit (normalFields tier selfMark) role value

theorem normalized_node (tier : MergeTier) (fields : List (String × Json)) :
    normalized tier .schema (.object fields) =
      .object (Fields.mapValues (fun keyword value =>
        normalField tier selfMark keyword (normalized tier (roleUnder keyword value) value))
        (fields.filter fun field => keeps tier field.1)) := by
  rw [normalized, edit_node, normalFields, Fields.filter_mapValues, Fields.mapValues_mapValues]
  rfl

theorem unified_normalized (tier : MergeTier) (role : Role) (value : Json) :
    (normalized tier role value).unified = normalized tier role value.unified :=
  unified_edit (Key.unified_normalFields tier selfMark) value role

/-- The order in which a normal form has the items under a keyword is ignored. -/
theorem alike_normalField (keyword : String) (value : Json)
    (before after : List (String × Json)) :
    Alike tier .schema (.object (before ++ (keyword, value) :: after))
      (.object (before ++ (keyword, normalField tier selfMark keyword value) :: after)) := by
  cases value with
  | string text =>
      rw [Key.normalField_selfMark_string]
      exact .same rfl
  | array items =>
      rw [Key.normalField_array, Key.ordered]
      split
      case isTrue hkeyword => exact .reordered hkeyword (sortOn_perm _ items).symm
      case isFalse => exact .same rfl
  | _ => exact .same rfl

/-- A tier ignores what it does to bring a value into the normal form. -/
theorem alike_normalized (value : Json) (role : Role) :
    Alike tier role value (normalized tier role value) := by
  induction value using Json.induction generalizing role with
  | array items ih =>
      cases role with
      | listed =>
          rw [normalized, edit_array]
          exact alike_map fun item hitem => ih item hitem .schema
      | _ => exact .same rfl
  | object fields ih =>
      cases role with
      | schema =>
          let below := Fields.mapValues
            (fun keyword value => normalized tier (roleUnder keyword value) value) fields
          have hbelow : Alike tier .schema (.object fields) (.object below) :=
            alike_mapValues fun field hfield before after =>
              .under rfl (roleUnder_edit _ _ _ _) (ih field hfield _)
          have hordered : Alike tier .schema (.object below)
              (.object (Fields.mapValues (normalField tier selfMark) below)) :=
            alike_mapValues fun field _ => alike_normalField field.1 field.2
          refine hbelow.trans (hordered.trans ?_)
          rw [normalized_node]
          refine .ignored ?_
          simp only [below, Fields.mapValues_mapValues, Fields.filter_mapValues, List.filter_filter,
            Bool.and_self]
      | named =>
          rw [normalized, edit_object _ (by decide)]
          exact alike_mapValues fun field hfield before after => .named (ih field hfield .schema)
      | _ => exact .same rfl
  | _ => exact .same rfl

/-- What stands under a keyword of a normal form. -/
noncomputable def normalizedField (tier : MergeTier) (keyword : String) (value : Json) : Json :=
  (normalField tier selfMark keyword (normalized tier (roleUnder keyword value) value)).unified

theorem unified_normalized_node (fields : List (String × Json)) :
    (normalized tier .schema (.object fields)).unified =
      .object (Fields.mapValues (normalizedField tier)
        (fields.filter fun field => keeps tier field.1)) := by
  rw [normalized_node, Json.unified_object, Fields.mapValues_mapValues]
  rfl

/-- A normal form does not depend on the order of items where it is ignored. -/
theorem normalizedField_of_perm {keyword : String} {items items' : List Json}
    (hkeyword : ignoresOrder tier keyword) (hitems : items.Perm items') :
    normalizedField tier keyword (.array items) = normalizedField tier keyword (.array items') := by
  have hfield : ∀ items : List Json, normalizedField tier keyword (.array items) =
      .array (sortOn Json.compact (items.map fun item =>
        (normalized tier (roleUnder keyword (.array [])).item item).unified)) := by
    intro items
    have hnormal : normalized tier (roleUnder keyword (.array items)) (.array items) =
        .array (items.map (normalized tier (roleUnder keyword (.array [])).item)) :=
      edit_array _ _ items
    rw [normalizedField, hnormal, Key.normalField_array, Key.ordered, if_pos hkeyword,
      Json.unified_array, ← sortOn_map Json.unified Json.compact_unified, List.map_map]
    rfl
  rw [hfield, hfield]
  refine congrArg Json.array (sortOn_eq_of_perm (hitems.map _) fun a ha b hb htext => ?_)
  -- Unified items with one text are equal.
  obtain ⟨u, _, rfl⟩ := List.mem_map.1 ha
  obtain ⟨v, _, rfl⟩ := List.mem_map.1 hb
  rwa [Json.compact_unified, Json.compact_unified, Json.compact_eq_iff] at htext

/-- What a tier does not tell apart has one normal form. -/
theorem Alike.unified_normalized_eq {u v : Json} (h : Alike tier role u v) :
    (normalized tier role u).unified = (normalized tier role v).unified := by
  -- Where one member of a schema is replaced, only its own normal form can change.
  have hmember : ∀ {before after : List (String × Json)} {keyword : String} {u v : Json},
      normalizedField tier keyword u = normalizedField tier keyword v →
        (normalized tier .schema (.object (before ++ (keyword, u) :: after))).unified =
          (normalized tier .schema (.object (before ++ (keyword, v) :: after))).unified := by
    intro before after keyword u v hfield
    rw [unified_normalized_node, unified_normalized_node]
    simp only [List.filter_append, List.filter_cons, Fields.mapValues, List.map_append]
    split <;> simp [hfield]
  induction h with
  | same h => rw [unified_normalized, unified_normalized, h]
  | symm _ ih => exact ih.symm
  | trans _ _ ihuv ihvw => exact ihuv.trans ihvw
  | ignored h => rw [unified_normalized_node, unified_normalized_node, h]
  | reordered hkeyword hitems => exact hmember (normalizedField_of_perm hkeyword hitems)
  | under hu hv _ ih =>
      refine hmember ?_
      rw [normalizedField, normalizedField, Key.unified_normalField, Key.unified_normalField, hu,
        hv, ih]
  | named _ ih =>
      have hnamed : ∀ fields, (normalized tier .named (.object fields)).unified =
          .object (Fields.mapValues (fun _ value => (normalized tier .schema value).unified)
            fields) := by
        intro fields
        rw [normalized, edit_object _ (by decide), Json.unified_object, Fields.mapValues_mapValues]
        rfl
      simp [hnamed, Fields.mapValues, ih]
  | listed _ ih =>
      have hlisted : ∀ items : List Json, (normalized tier .listed (.array items)).unified =
          .array (items.map fun item => (normalized tier .schema item).unified) := by
        intro items
        rw [normalized, edit_array, Json.unified_array, List.map_map]
        rfl
      simp [hlisted, ih]

/-- Values are alike iff they have one normal form. -/
theorem alike_iff {u v : Json} : Alike tier role u v ↔
    (normalized tier role u).unified = (normalized tier role v).unified :=
  ⟨Alike.unified_normalized_eq, fun h =>
    (alike_normalized u role).trans ((Alike.same h).trans (alike_normalized v role).symm)⟩

/-- Nothing is ignored at the exact tier. -/
theorem alike_exact_iff {u v : Json} : Alike .exact role u v ↔ u.unified = v.unified := by
  have hself : ∀ value : Json, normalized .exact role value = value := by
    intro value
    refine edit_eq_self (fun fields => ?_) value role
    have hkept : (fields.filter fun field => keeps .exact field.1) = fields :=
      List.filter_eq_self.2 fun _ _ => rfl
    rw [normalFields, hkept]
    refine Fields.mapValues_eq_self fun field _ => ?_
    cases field.2 with
    | string text => exact Key.normalField_selfMark_string .exact field.1 text
    | array items =>
        rw [Key.normalField_array, Key.ordered, if_neg (by simp [ignoresOrder])]
    | _ => rfl
  rw [alike_iff, hself, hself]

end Schema

end SchemaMerge
