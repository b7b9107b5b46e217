import SchemaMerge.Json.Basic
import SchemaMerge.NameMap

/-!
Readings of JSON values as lists, maps and records. A record is an object whose members are looked
up by name, unknown ones being ignored, or an array of its fields in their order.
-/

namespace SchemaMerge.Json

/-- An array whose items can all be read. -/
def list? {α : Type} (read : Json → Option α) (value : Json) : Option (List α) :=
  value.array?.bind fun items => items.mapM read

def strings? : Json → Option (List String) :=
  list? string?

/-- Lists of strings. -/
def stringLists? : Json → Option (List (List String)) :=
  list? strings?

/-- An object whose values can all be read. -/
def map? {α : Type} (read : Json → Option α) (value : Json) : Option (NameMap α) := do
  let fields ← value.object?
  let bindings ← fields.mapM fun field => (read field.2).map fun x => (field.1, x)
  return .ofList bindings

def stringMap? : Json → Option (NameMap String) :=
  map? string?

/-- The members of a record with the given fields. -/
def recordFields? (names : List String) : Json → Option (List (String × Json))
  | .object fields => some fields
  | .array items => if items.length ≤ names.length then some (names.zip items) else none
  | _ => none

/-- A field that has to be there. -/
def field? {α : Type} (fields : List (String × Json)) (name : String)
    (read : Json → Option α) : Option α :=
  (fields.lookup name).bind read

/-- A field that may be missing, but is read if it is there. -/
def fieldOr? {α : Type} (fields : List (String × Json)) (name : String) (default : α)
    (read : Json → Option α) : Option α :=
  match fields.lookup name with
  | none => some default
  | some value => read value

/-- The name of a choice: a string, or an object with that name alone, which holds `null`. -/
def choiceName? : Json → Option String
  | .string name => some name
  | .object [(name, .null)] => some name
  | _ => none

/-- An integer literal from `-2 ^ 63` to `2 ^ 63 - 1`. -/
def int64? : Json → Option Int
  | .number (.integer value) =>
      if -(Nat.pow 2 63 : Int) ≤ value ∧ value < Nat.pow 2 63 then some value else none
  | _ => none

/-- A count below `2 ^ 64`. -/
def count? (value : Json) : Option Nat :=
  value.uint64?.map UInt64.toNat

end SchemaMerge.Json
