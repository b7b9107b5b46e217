import SchemaMerge.Json.Basic

/-!
The shape of a document around its schemas, as a grammar: each part says what stands under the
members of its object or the items of its array. `Part.mapSchemas` changes every schema that the
grammar reaches and nothing else.
-/

namespace SchemaMerge

inductive Part where
  | pathItems
  | pathItem
  | operation
  /-- An array of parameters. -/
  | parameters
  /-- A parameter or a header. -/
  | parameter
  | headers
  | requestBodies
  | requestBody
  | responses
  | response
  | content
  | mediaType
  | encodings
  | encoding
  | callbacks
  | schema
  /-- Holds no schemas that are known of. -/
  | other
  deriving DecidableEq, Repr

namespace Part

/-- The members of a path item that are operations. -/
def methods : List String :=
  ["get", "put", "post", "delete", "options", "head", "patch", "trace"]

/-- What stands under a member of an object. -/
def member (part : Part) (key : String) : Part :=
  match part with
  | pathItems => pathItem
  | pathItem =>
      if key = "parameters" then parameters
      else if key ∈ methods then operation
      else other
  | operation =>
      match key with
      | "parameters" => parameters
      | "requestBody" => requestBody
      | "responses" => responses
      | "callbacks" => callbacks
      | _ => other
  | parameter =>
      match key with
      | "schema" => schema
      | "content" => content
      | _ => other
  | headers => parameter
  | requestBodies => requestBody
  | requestBody => if key = "content" then content else other
  | responses => response
  | response =>
      match key with
      | "content" => content
      | "headers" => headers
      | _ => other
  | content => mediaType
  | mediaType =>
      match key with
      | "schema" => schema
      | "encoding" => encodings
      | _ => other
  | encodings => encoding
  | encoding => if key = "headers" then headers else other
  | callbacks => pathItems
  | parameters => other
  | schema => other
  | other => other

/-- What the items of an array are. -/
def item : Part → Part
  | parameters => parameter
  | _ => other

/-- The part that a section of the components is. The entries of a section stand under names, those
of parameters too. -/
def ofSection (name : String) : Part :=
  match name with
  | "parameters" => headers
  | "headers" => headers
  | "requestBodies" => requestBodies
  | "responses" => responses
  | "callbacks" => callbacks
  | "pathItems" => pathItems
  | _ => other

/-- The part that a member of the root is. -/
def ofRoot (name : String) : Part :=
  match name with
  | "paths" => pathItems
  | "webhooks" => pathItems
  | _ => other

mutual

/-- Applies `f` to the schemas of a part. -/
def mapSchemas (f : Json → Json) (part : Part) : Json → Json
  | .object fields =>
      if part = schema then f (.object fields) else .object (mapMembers f part fields)
  | .array items =>
      if part = schema then f (.array items) else .array (mapItems f part.item items)
  | value => if part = schema then f value else value

def mapMembers (f : Json → Json) (part : Part) : List (String × Json) → List (String × Json)
  | [] => []
  | (key, value) :: rest => (key, mapSchemas f (part.member key) value) :: mapMembers f part rest

/-- Applies `f` to the schemas of items that are such a part each. -/
def mapItems (f : Json → Json) (part : Part) : List Json → List Json
  | [] => []
  | value :: rest => mapSchemas f part value :: mapItems f part rest

end

end Part

end SchemaMerge
