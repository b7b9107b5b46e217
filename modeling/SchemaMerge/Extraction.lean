import SchemaMerge.Key
import SchemaMerge.Gather
import SchemaMerge.Text.Unicode.Case

/-!
Extraction of repeated inline shapes. An inline object that occurs more than once under the
properties or items of definitions becomes a definition of its own, and references take its place.
Inner shapes go before those around them. An object that a pointer reaches into stays where it is.
-/

namespace SchemaMerge

/-- Where an inline object stands: the definition, and the way down from it. -/
structure Occurrence where
  definition : String
  segments : List String
  deriving DecidableEq, Repr

/-- A shape that became a definition, and the pointers of the objects that it replaces. -/
structure ExtractedShape where
  name : String
  occurrences : List String
  deriving DecidableEq, Repr

namespace Occurrence

def pointer (occurrence : Occurrence) : String :=
  Pointer.descend (SchemaRef.ofName occurrence.definition) occurrence.segments

/-- The last name that follows a `properties`, given the way up. -/
def lastProperty : List String → String
  | name :: parent :: rest =>
      if parent = "properties" then name else lastProperty (parent :: rest)
  | _ => ""

def capitalize (s : String) : String :=
  match s.toList with
  | [] => ""
  | c :: rest => String.ofList (Text.Unicode.capitals c ++ rest)

/-- A name for the shape: that of its property, with `Item` for what an array holds. -/
def nameHint (occurrence : Occurrence) : String :=
  let property := capitalize (lastProperty occurrence.segments.reverse)
  let base := if property.isEmpty then "Inline" else property
  if occurrence.segments.getLast? = some "items" then base ++ "Item" else base

/-- Whether one of the references points at the object or into it. -/
def isPinned (occurrence : Occurrence) (references : List String) : Bool :=
  references.any fun reference =>
    match Text.afterStart? occurrence.pointer reference with
    | some rest => rest.isEmpty || Text.startsWith "/" rest
    | none => false

/-- Whether `inner` stands below `outer`. -/
def contains (outer inner : Occurrence) : Bool :=
  outer.definition = inner.definition && outer.segments.length < inner.segments.length &&
    outer.segments.isPrefixOf inner.segments

/-- The value at an occurrence. -/
def value? (occurrence : Occurrence) (definitions : NameMap Json) : Option Json :=
  (definitions.get? occurrence.definition).bind fun definition =>
    occurrence.segments.foldlM Json.get? definition

end Occurrence

namespace Extraction

/-- What the search for inline objects takes a member of a schema for. -/
def roleUnder (key : String) : Json → Schema.Role
  | .object _ =>
      if key = "properties" then .named else if key = "items" then .schema else .leaf
  | _ => .leaf

mutual

/-- The nodes that the search comes to in a value, with the way to them: a schema, then its
properties, then its items. -/
def nodes (role : Schema.Role) (way : List String) : Json → List (List String × Json)
  | .object fields =>
      match role with
      | .schema =>
          let below := nodesBelow way fields
          (way, .object fields) ::
            ((below.lookup "properties").getD [] ++ (below.lookup "items").getD [])
      | .named => nodesNamed way fields
      | _ => []
  | value => if role = .schema then [(way, value)] else []

/-- The nodes below each member of a schema. -/
def nodesBelow (way : List String) :
    List (String × Json) → List (String × List (List String × Json))
  | [] => []
  | (key, value) :: rest =>
      (key, nodes (roleUnder key value) (way ++ [key]) value) :: nodesBelow way rest

def nodesNamed (way : List String) : List (String × Json) → List (List String × Json)
  | [] => []
  | (name, value) :: rest => nodes .schema (way ++ [name]) value ++ nodesNamed way rest

end

/-- An object with properties that is no reference. -/
def isInlineObject (schema : Json) : Bool :=
  (schema.get? "$ref").isNone && (schema.get? "type").bind Json.string? == some "object" &&
    match (schema.get? "properties").bind Json.object? with
    | some properties => !properties.isEmpty
    | none => false

/-- The inline objects below a definition. Fails at the first node whose way down is more than twice
as long as the limit; twice is meant modulo `2 ^ 64`. -/
def inlineObjects? (limit : UInt64) (definition : String) (schema : Json) :
    Except Error (List Occurrence) :=
  let found := nodes .schema [] schema
  match found.find? fun node => (limit * 2).toNat < node.1.length with
  | some (way, _) =>
      .error (.tooDeep (Pointer.descend (SchemaRef.ofName definition) way) limit)
  | none =>
      .ok ((found.filter fun node => !node.1.isEmpty && isInlineObject node.2).map fun node =>
        ⟨definition, node.1⟩)

/-- The inline objects of all definitions, in document order. -/
def allInlineObjects? (limit : UInt64) (definitions : NameMap Json) :
    Except Error (List Occurrence) := do
  let found ← definitions.entries.mapM fun entry => inlineObjects? limit entry.1 entry.2
  return found.flatten

/-- The key by which inline objects are compared. No reference in them is one to themselves. -/
def keyOf? (limit : UInt64) (definitions : NameMap Json) (occurrence : Occurrence) :
    Except Error (Option (Key × Occurrence)) :=
  match occurrence.value? definitions with
  | none => .ok none
  | some schema =>
      (Key.ofDefinition limit .structural "" schema).map fun key => some (key, occurrence)

/-- The shapes that occur more than once outside of what is pinned, in order of their first
occurrences. -/
def repeatedShapes? (limit : UInt64) (pinned : List String) (definitions : NameMap Json) :
    Except Error (List (List Occurrence)) := do
  let found ← allInlineObjects? limit definitions
  let keyed ← (found.filter fun occurrence => !occurrence.isPinned pinned).mapM
    (keyOf? limit definitions)
  let groups := (gather (keyed.filterMap id)).map (·.2)
  return groups.filter fun group => 1 < group.length

/-- The groups of which no occurrence has one of another group below it. Groups are told apart by
their first occurrences. -/
def innermost (groups : List (List Occurrence)) : List (List Occurrence) :=
  groups.filter fun group =>
    !(group.any fun outer =>
      groups.any fun other => other.head? ≠ group.head? && other.any outer.contains)

/-- Replaces what stands at the end of a way down, if there is anything. -/
def replaceAt (new : Json) : List String → Json → Json
  | [], _ => new
  | segment :: rest, .object fields =>
      .object (Fields.mapValues
        (fun key value => if key = segment then replaceAt new rest value else value) fields)
  | _, value => value

/-- Replaces the value at an occurrence. -/
def replace (new : Json) (definitions : NameMap Json) (occurrence : Occurrence) : NameMap Json :=
  definitions.map fun name schema =>
    if name = occurrence.definition then replaceAt new occurrence.segments schema else schema

/-- The hint, or the hint with the least number from two on, that is no name of a definition. -/
def uniqueName (hint : String) (definitions : NameMap Json) : String :=
  if definitions.contains hint then
    (((List.range' 2 (definitions.size + 1)).map fun n => hint ++ toString n).find? fun name =>
      !definitions.contains name).getD hint
  else hint

/-- The definitions, and what has been extracted so far. -/
structure State where
  definitions : NameMap Json
  extracted : List ExtractedShape

/-- Makes a definition of a repeated shape. Its body is the first occurrence. -/
def extractGroup (state : State) (group : List Occurrence) : State :=
  match group with
  | [] => state
  | first :: _ =>
      match first.value? state.definitions with
      | none => state
      | some body =>
          let name := uniqueName first.nameHint state.definitions
          let reference : Json := .record [("$ref", .string (SchemaRef.ofName name))]
          let replaced := group.foldl (replace reference) state.definitions
          { definitions := replaced.insert name body
            extracted := state.extracted ++ [⟨name, group.map Occurrence.pointer⟩] }

/-- Goes on until no shape is repeated. Every round makes the inline objects fewer, so that many
rounds are enough. -/
def rounds? (limit : UInt64) (pinned : List String) (state : State) : Nat → Except Error State
  | 0 => .ok state
  | fuel + 1 => do
      let groups ← repeatedShapes? limit pinned state.definitions
      let next := (innermost groups).foldl extractGroup state
      if next.extracted.length = state.extracted.length then return next
      else rounds? limit pinned next fuel

/-- The references that point below a definition. -/
def deepReferences (document : Document) : List String :=
  (document.sites.map (·.target)).filter fun reference =>
    match SchemaRef.split? reference with
    | some (_, tail) => !tail.isEmpty
    | none => false

end Extraction

/-- The document with every repeated inline shape extracted, and the shapes in the order of their
extraction. -/
def Document.extractInline? (document : Document) (limit : UInt64) :
    Except Error (Document × List ExtractedShape) := do
  let found ← Extraction.allInlineObjects? limit document.definitions
  let state ← Extraction.rounds? limit (Extraction.deepReferences document)
    ⟨document.definitions, []⟩ (found.length + 1)
  return (document.withDefinitions state.definitions, state.extracted)

end SchemaMerge
