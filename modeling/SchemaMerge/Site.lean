import SchemaMerge.SchemaRef

/-!
The reference sites of a value: every object with a `$ref`, and every entry of the mapping of a
`discriminator`. The scan knows nothing of the shape of a document and goes through every object and
array.
-/

namespace SchemaMerge

/-- A place that refers to something, and the text of the reference. -/
structure Site where
  path : String
  target : String
  deriving DecidableEq, Repr

namespace Site

/-- The `$ref` of an object. -/
def ofRef (path : String) (fields : List (String × Json)) : List Site :=
  match fields.lookup "$ref" with
  | some (.string target) => [⟨path, target⟩]
  | _ => []

/-- The discriminator mapping of an object. -/
def mapping? (fields : List (String × Json)) : Option (List (String × Json)) :=
  (fields.lookup "discriminator").bind fun discriminator =>
    (discriminator.get? "mapping").bind Json.object?

/-- The pointer form of what a mapping entry says. -/
def mappingTarget (text : String) : String :=
  if SchemaRef.isBareName text then SchemaRef.ofName text else text

/-- The mapping entries of an object. A bare name counts as the reference to the definition. -/
def ofMapping (path : String) (fields : List (String × Json)) : List Site :=
  ((mapping? fields).getD []).filterMap fun entry =>
    match entry.2 with
    | .string text =>
        some ⟨Pointer.descend path ["discriminator", "mapping", entry.1], mappingTarget text⟩
    | _ => none

mutual

/-- The sites of a value whose pointer is `path`: those of an object itself, then those below it. -/
def all (path : String) : Json → List Site
  | .object fields => ofRef path fields ++ ofMapping path fields ++ allFields path fields
  | .array items => allItems path 0 items
  | _ => []

def allFields (path : String) : List (String × Json) → List Site
  | [] => []
  | (key, value) :: rest => all (Pointer.child path key) value ++ allFields path rest

def allItems (path : String) (index : Nat) : List Json → List Site
  | [] => []
  | item :: rest =>
      all (Pointer.child path (toString index)) item ++ allItems path (index + 1) rest

end

def toJson (site : Site) : Json :=
  .record [("path", .string site.path), ("reference", .string site.target)]

end Site

end SchemaMerge
