import SchemaMerge.Site
import SchemaMerge.Text.Affix
import SchemaMerge.Text.Quoted

/-!
Why an operation fails. Each constructor is one cause; `code`, `message`, `path` and `details` are
what is reported of it.
-/

namespace SchemaMerge

inductive Error where
  /-- The text is not JSON. -/
  | malformedJson
  /-- The document has no object of definitions. -/
  | missingContainer (path : String)
  /-- A part of the document, or a definition that was asked for, is not as it has to be. -/
  | schema (path message : String)
  /-- A schema is nested more deeply than allowed. -/
  | tooDeep (path : String) (limit : UInt64)
  /-- The pattern of a naming rule is no pattern. -/
  | invalidRule (pattern message : String)
  /-- A canonical name is taken by another group. -/
  | nameTaken (canonical : String) (groups : List (List String))
  /-- A chain of renames comes back to a name. -/
  | cyclicRename (names : List String)
  /-- A rename would put a definition in the place of one that stays. -/
  | targetExists (source target : String)
  /-- References that do not resolve once names are replaced. -/
  | dangling (sites : List Site)
  deriving DecidableEq, Repr

namespace Error

def rootNotObject : Error :=
  .schema "#" "document root must be an object"

def containerNotObject (found : Json) : Error :=
  .schema SchemaRef.container s!"expected an object, found {found.kindName}"

def noContainer : Error :=
  .missingContainer SchemaRef.container

def unknownDefinition (name : String) : Error :=
  .schema (SchemaRef.ofName name) s!"no definition named {name} to rename"

def missingSource (canonical source : String) : Error :=
  .schema (SchemaRef.ofName source) s!"cannot create {canonical}: source definition is missing"

def code : Error → String
  | malformedJson => "json_parse_error"
  | missingContainer _ => "missing_schema_container"
  | schema _ _ => "schema_error"
  | tooDeep _ _ => "recursion_depth_exceeded"
  | invalidRule _ _ => "invalid_naming_rule"
  | nameTaken _ _ => "naming_conflict"
  | cyclicRename _ => "cyclic_rename"
  | targetExists _ _ => "rename_target_exists"
  | dangling _ => "dangling_references"

def message : Error → String
  | malformedJson => "JSON (de)serialization error"
  | missingContainer path => s!"Document has no schema container at {path}"
  | schema path message => s!"Schema error at {path}: {message}"
  | tooDeep path limit => s!"Recursion depth exceeded at {path} (max: {limit.toNat})"
  | invalidRule pattern message =>
      s!"Invalid naming rule pattern {Text.quoted pattern}: {message}"
  | nameTaken canonical groups =>
      s!"Canonical name {canonical} chosen by more than one group: {Text.quotedLists groups}"
  | cyclicRename names => "Rename chain is cyclic: " ++ Text.joined " -> " names
  | targetExists source target =>
      s!"Cannot rename {source} to {target}: a definition named {target} already exists"
  | dangling sites => s!"{sites.length} dangling reference(s) after rewrite"

/-- The pointer that the failure is about. -/
def path? : Error → Option String
  | missingContainer path => some path
  | schema path _ => some path
  | tooDeep path _ => some path
  | _ => none

/-- The names or references that the failure is about. -/
def details : Error → Json
  | nameTaken canonical groups =>
      .record [("canonical", .string canonical), ("groups", .array (groups.map .ofStrings))]
  | cyclicRename names => .record [("names", .ofStrings names)]
  | targetExists source target =>
      .record [("alias", .string source), ("target", .string target)]
  | dangling sites => .record [("references", .array (sites.map Site.toJson))]
  | invalidRule pattern _ => .record [("pattern", .string pattern)]
  | _ => .null

def toJson (error : Error) : Json :=
  .record [("code", .string error.code), ("message", .string error.message),
    ("path", .ofOption (error.path?.map .string)), ("details", error.details)]

end Error

end SchemaMerge
