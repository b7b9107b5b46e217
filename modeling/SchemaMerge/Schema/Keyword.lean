import SchemaMerge.Json.Basic

/-!
The keywords of a schema: which of them hold sub-schemas and in what form, and which are annotations
or constraints. `visitOrder` is the order in which a walk goes through the sub-schemas of a node.
-/

namespace SchemaMerge.Schema

/-- What a value stands for within a schema. -/
inductive Role where
  /-- A schema. -/
  | schema
  /-- An object whose members are schemas. -/
  | named
  /-- An array whose items are schemas. -/
  | listed
  /-- Not made of schemas. -/
  | leaf
  deriving DecidableEq, Repr

/-- Keywords that hold an object of schemas. -/
def mapKeywords : List String :=
  ["properties", "patternProperties", "$defs", "definitions", "dependentSchemas"]

/-- Keywords that hold one schema, if they hold an object. -/
def singleKeywords : List String :=
  ["additionalProperties", "unevaluatedProperties", "propertyNames", "unevaluatedItems",
    "contains", "not", "if", "then", "else", "additionalItems"]

/-- Keywords that hold alternatives or parts, in an order that means nothing. -/
def combinators : List String :=
  ["allOf", "oneOf", "anyOf"]

/-- Keywords that hold an array of schemas. -/
def listKeywords : List String :=
  combinators ++ ["prefixItems"]

/-- All keywords that may hold schemas. `items` holds one schema or an array of them. -/
def visitOrder : List String :=
  mapKeywords ++ singleKeywords ++ listKeywords ++ ["items"]

/-- What the value under a keyword stands for. -/
def roleUnder (keyword : String) : Json → Role
  | .object _ =>
      if keyword ∈ mapKeywords then .named
      else if keyword ∈ singleKeywords ∨ keyword = "items" then .schema
      else .leaf
  | .array _ => if keyword ∈ listKeywords ∨ keyword = "items" then .listed else .leaf
  | _ => .leaf

/-- Annotations, which say nothing about the shape of the data. -/
def metadataKeywords : List String :=
  ["description", "title", "summary", "example", "examples", "externalDocs", "$comment"]

/-- Keywords that narrow the values of a shape. -/
def constraintKeywords : List String :=
  ["minLength", "maxLength", "pattern", "minimum", "maximum", "exclusiveMinimum",
    "exclusiveMaximum", "multipleOf", "minItems", "maxItems", "uniqueItems", "minProperties",
    "maxProperties", "enum", "const", "format"]

end SchemaMerge.Schema
