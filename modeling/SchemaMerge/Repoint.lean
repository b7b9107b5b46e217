import SchemaMerge.Part
import SchemaMerge.RenameMap
import SchemaMerge.Schema.Walk

/-!
Applying a rename map to a document: the new definitions are created, references are repointed at
every schema that the document grammar and the walk over schemas reach, and the definitions that
have another name now are removed. The result is refused if it has a reference that points at
nothing and that the input did not have as such.
-/

namespace SchemaMerge

namespace RenameMap

/-- The new text of a reference into a definition that is renamed. What lies below the definition is
kept. -/
def reference? (map : RenameMap) (reference : String) : Option String := do
  let (name, tail) ← SchemaRef.split? reference
  let canonical ← map.get? name
  return SchemaRef.ofName canonical ++ tail

/-- The text of a reference after the renames. -/
def reference (map : RenameMap) (text : String) : String :=
  (map.reference? text).getD text

/-- The text of a discriminator mapping entry after the renames. A bare name stays one. -/
def mappingText (map : RenameMap) (text : String) : String :=
  if SchemaRef.isBareName text then map.target text else map.reference text

/-- Applies `f` to a string and leaves any other value alone. -/
def onString (f : String → String) : Json → Json
  | .string text => .string (f text)
  | value => value

/-- Repoints the entries of a discriminator mapping. -/
def mapping (map : RenameMap) : Json → Json
  | .object entries => .object (Fields.mapValues (fun _ => onString map.mappingText) entries)
  | value => value

/-- Repoints the mapping of a discriminator. -/
def discriminator (map : RenameMap) : Json → Json
  | .object fields =>
      .object (Fields.mapValues
        (fun key value => if key = "mapping" then map.mapping value else value) fields)
  | value => value

/-- Repoints what stands under a keyword of a schema node. -/
def keyword (map : RenameMap) (keyword : String) (value : Json) : Json :=
  if keyword = "$ref" then onString map.reference value
  else if keyword = "discriminator" then map.discriminator value
  else value

/-- Repoints a schema. -/
def schema (map : RenameMap) (value : Json) : Json :=
  Schema.fold (.ofEdit (Fields.mapValues map.keyword)) .schema "#" 0 value

/-- The definitions with the new ones, each a copy of its source as it stands then. -/
def withCreated? (map : RenameMap) (definitions : NameMap Json) : Except Error (NameMap Json) :=
  map.materialized.entries.foldlM (fun definitions entry =>
    match definitions.get? entry.2 with
    | some body => .ok (definitions.insert entry.1 body)
    | none => .error (.missingSource entry.1 entry.2)) definitions

/-- The definitions without those that have another name now. -/
def withoutAliases (map : RenameMap) (definitions : NameMap Json) : NameMap Json :=
  definitions.filter fun name _ => !map.aliases.contains name

end RenameMap

namespace Document

/-- The document with the given definitions and all references repointed. -/
def repointed (document : Document) (map : RenameMap) (definitions : NameMap Json) : Document where
  definitions := map.withoutAliases (definitions.map fun _ schema => map.schema schema)
  sections := document.sections.map fun name => (Part.ofSection name).mapSchemas map.schema
  rest := document.rest.map fun name => (Part.ofRoot name).mapSchemas map.schema
  sections_schemas := by simp [NameMap.get?_map, document.sections_schemas]
  rest_components := by simp [NameMap.get?_map, document.rest_components]

/-- Applies a rename map. -/
def repoint? (document : Document) (map : RenameMap) : Except Error Document := do
  if map.isEmpty then return document
  let forgiven := document.danglingSites.map (·.target)
  let definitions ← map.withCreated? document.definitions
  let result := document.repointed map definitions
  let dangling := result.danglingSites.filter fun site => site.target ∉ forgiven
  if dangling.isEmpty then return result else throw (.dangling dangling)

end Document

end SchemaMerge
