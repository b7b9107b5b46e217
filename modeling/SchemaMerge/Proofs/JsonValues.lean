import Mathlib.Data.List.Basic
import SchemaMerge.Json.Basic

/-!
Values as trees. What is to be shown of every value is shown of the scalars and handed up through
arrays and objects (`Json.induction`). What replaces scalars only keeps the shape of a value
(`Json.mapScalars`).
-/

namespace SchemaMerge

namespace Fields

variable {α β γ : Type}

theorem mapValues_cons (f : String → α → β) (key : String) (value : α)
    (rest : List (String × α)) :
    mapValues f ((key, value) :: rest) = (key, f key value) :: mapValues f rest := rfl

theorem mapValues_mapValues (f : String → β → γ) (g : String → α → β)
    (fields : List (String × α)) :
    mapValues f (mapValues g fields) = mapValues (fun key value => f key (g key value)) fields :=
  List.map_map ..

theorem mapValues_congr {f g : String → α → β} {fields : List (String × α)}
    (h : ∀ field ∈ fields, f field.1 field.2 = g field.1 field.2) :
    mapValues f fields = mapValues g fields :=
  List.map_congr_left fun field hfield => Prod.ext rfl (h field hfield)

theorem mapValues_eq_self {f : String → α → α} {fields : List (String × α)}
    (h : ∀ field ∈ fields, f field.1 field.2 = field.2) : mapValues f fields = fields := by
  induction fields with
  | nil => rfl
  | cons field rest ih =>
      have hrest := ih fun other hother => h other (List.mem_cons_of_mem _ hother)
      exact List.cons_eq_cons.2 ⟨Prod.ext rfl (h field List.mem_cons_self), hrest⟩

/-- Members are left out by their keys, before their values are changed or after. -/
theorem filter_mapValues (keep : String → Bool) (f : String → α → β)
    (fields : List (String × α)) :
    (mapValues f fields).filter (fun field => keep field.1) =
      mapValues f (fields.filter fun field => keep field.1) :=
  List.filter_map

/-- Leaving out other members does not change what stands under a key. -/
theorem lookup_filter (keep : String → Bool) {key : String} (hkeep : keep key)
    (fields : List (String × α)) :
    (fields.filter fun field => keep field.1).lookup key = fields.lookup key := by
  induction fields with
  | nil => rfl
  | cons field rest ih =>
      obtain ⟨other, value⟩ := field
      rw [List.filter_cons, lookup_cons]
      split
      case isTrue => rw [lookup_cons, ih]
      case isFalse hother =>
        have hne : key ≠ other := fun heq => hother (heq ▸ hkeep)
        rw [if_neg hne, ih]

end Fields

namespace Json

/-- Induction over the items of arrays and the members of objects. -/
theorem induction {p : Json → Prop} (null : p .null) (bool : ∀ value, p (.bool value))
    (number : ∀ value, p (.number value)) (string : ∀ value, p (.string value))
    (array : ∀ items, (∀ item ∈ items, p item) → p (.array items))
    (object : ∀ fields, (∀ field ∈ fields, p field.2) → p (.object fields)) (value : Json) :
    p value := by
  induction hsize : sizeOf value using Nat.strongRecOn generalizing value with
  | ind size ih =>
      cases value with
      | null => exact null
      | bool value => exact bool value
      | number value => exact number value
      | string value => exact string value
      | array items =>
          refine array items fun item hitem => ih _ ?_ item rfl
          have hlt := List.sizeOf_lt_of_mem hitem
          simp only [Json.array.sizeOf_spec] at hsize
          omega
      | object fields =>
          refine object fields fun field hfield => ih _ ?_ field.2 rfl
          have hlt := List.sizeOf_lt_of_mem hfield
          have hpair : sizeOf field.2 < sizeOf field := by
            cases field
            simp only [Prod.mk.sizeOf_spec]
            omega
          simp only [Json.object.sizeOf_spec] at hsize
          omega

@[simp]
theorem ordered_null : Json.null.Ordered := trivial

@[simp]
theorem ordered_number (value : Number) : (Json.number value).Ordered := trivial

@[simp]
theorem ordered_string (text : String) : (Json.string text).Ordered := trivial

@[simp]
theorem ordered_bool (flag : Bool) : (Json.bool flag).Ordered := trivial

@[simp]
theorem ordered_object {fields : List (String × Json)} :
    (Json.object fields).Ordered ↔
      Fields.Ascending fields ∧ ∀ field ∈ fields, field.2.Ordered := by
  rw [Ordered]
  refine and_congr_right' ?_
  induction fields with
  | nil => simp [OrderedFields]
  | cons field rest ih => rw [OrderedFields, ih, List.forall_mem_cons]

@[simp]
theorem ordered_array {items : List Json} :
    (Json.array items).Ordered ↔ ∀ item ∈ items, item.Ordered := by
  rw [Ordered]
  induction items with
  | nil => simp [OrderedItems]
  | cons item rest ih => rw [OrderedItems, ih, List.forall_mem_cons]

mutual

/-- A value with other scalars. What `f` makes of arrays and objects does not matter. -/
def mapScalars (f : Json → Json) : Json → Json
  | .array items => .array (mapItems f items)
  | .object fields => .object (mapFields f fields)
  | value => f value

def mapItems (f : Json → Json) : List Json → List Json
  | [] => []
  | item :: rest => mapScalars f item :: mapItems f rest

def mapFields (f : Json → Json) : List (String × Json) → List (String × Json)
  | [] => []
  | (key, value) :: rest => (key, mapScalars f value) :: mapFields f rest

end

theorem mapScalars_array (f : Json → Json) (items : List Json) :
    mapScalars f (.array items) = .array (items.map (mapScalars f)) := by
  rw [mapScalars]
  refine congrArg Json.array ?_
  induction items with
  | nil => rfl
  | cons item rest ih => rw [mapItems, ih, List.map_cons]

theorem mapScalars_object (f : Json → Json) (fields : List (String × Json)) :
    mapScalars f (.object fields) = .object (Fields.mapValues (fun _ => mapScalars f) fields) := by
  rw [mapScalars]
  refine congrArg Json.object ?_
  induction fields with
  | nil => rfl
  | cons field rest ih =>
      rw [mapFields, ih]
      rfl

end Json

end SchemaMerge
