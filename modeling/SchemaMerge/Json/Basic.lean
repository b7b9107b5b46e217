import SchemaMerge.Fields
import SchemaMerge.Json.Number

/-!
JSON values. An object lists its members; `Json.Ordered` says that in every object of a value the
keys ascend, which the reader establishes and every operation of this library keeps.
-/

namespace SchemaMerge

open Json (Number)

inductive Json where
  | null
  | bool (value : Bool)
  | number (value : Number)
  | string (value : String)
  | array (items : List Json)
  | object (fields : List (String × Json))
  deriving Inhabited

namespace Json

mutual

/-- The keys of every object ascend. -/
def Ordered : Json → Prop
  | .array items => OrderedItems items
  | .object fields => Fields.Ascending fields ∧ OrderedFields fields
  | _ => True

def OrderedItems : List Json → Prop
  | [] => True
  | item :: rest => Ordered item ∧ OrderedItems rest

def OrderedFields : List (String × Json) → Prop
  | [] => True
  | (_, value) :: rest => Ordered value ∧ OrderedFields rest

end

theorem OrderedFields.lookup {fields : List (String × Json)} (h : OrderedFields fields)
    {key : String} {value : Json} (hl : fields.lookup key = some value) : value.Ordered := by
  induction fields with
  | nil => simp at hl
  | cons head rest ih =>
      obtain ⟨k, other⟩ := head
      rw [Fields.lookup_cons] at hl
      split at hl
      · cases hl
        exact h.1
      · exact ih h.2 hl

/-- What stands under `key`, if the value is an object that has it. -/
def get? (value : Json) (key : String) : Option Json :=
  match value with
  | .object fields => fields.lookup key
  | _ => none

/-- What stands at an index, if the value is an array that long. -/
def item? (value : Json) (index : Nat) : Option Json :=
  match value with
  | .array items => items[index]?
  | _ => none

def string? : Json → Option String
  | .string value => some value
  | _ => none

def array? : Json → Option (List Json)
  | .array items => some items
  | _ => none

def object? : Json → Option (List (String × Json))
  | .object fields => some fields
  | _ => none

def bool? : Json → Option Bool
  | .bool value => some value
  | _ => none

def uint64? : Json → Option UInt64
  | .number value => value.toUInt64?
  | _ => none

/-- The name of the kind of a value. -/
def kindName : Json → String
  | .null => "null"
  | .bool _ => "boolean"
  | .number _ => "number"
  | .string _ => "string"
  | .array _ => "array"
  | .object _ => "object"

/-- An object with the given members in the given order. -/
def record (fields : List (String × Json)) : Json :=
  .object fields

def ofNat (n : Nat) : Json :=
  .number (.integer n)

def ofInt (n : Int) : Json :=
  .number (.integer n)

def ofStrings (strings : List String) : Json :=
  .array (strings.map .string)

/-- A missing value is `null`. -/
def ofOption (value : Option Json) : Json :=
  value.getD .null

end Json

end SchemaMerge
