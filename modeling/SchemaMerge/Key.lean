import SchemaMerge.Document
import SchemaMerge.Schema.Kind
import SchemaMerge.Schema.Walk
import SchemaMerge.SortOn
import SchemaMerge.Tier

/-!
Comparison keys. At a tier two definitions have one shape iff their keys are equal. The key of the
exact, structural and loose tiers is the text of a normal form, which is got by one edit at every
schema position: a reference of the definition to itself becomes a mark, the keywords that the tier
ignores go, and above the exact tier the lists whose order means nothing are sorted.
-/

namespace SchemaMerge

/-- What a definition is compared by. -/
inductive Key where
  /-- The text of what the tier keeps of the definition. -/
  | content (text : String)
  /-- The definition is another name for `target` and equals nothing. -/
  | aliasOf (target : String)
  deriving DecidableEq, Repr

namespace Key

/-- Stands for a reference of a definition to itself, whatever the definition is called. -/
def selfMark : String := "cycle-back:self"

/-- What a definition points at, if it is a reference with nothing but annotations beside it. -/
def aliasTarget? (schema : Json) : Option String :=
  match Schema.Kind.of schema, schema with
  | .reference target, .object fields =>
      if fields.all fun field => field.1 = "$ref" || field.1 ∈ Schema.metadataKeywords then
        some ((SchemaRef.name? target).getD target)
      else none
  | _, _ => none

/-- Whether a tier takes a keyword into account. -/
def keeps (tier : MergeTier) (keyword : String) : Bool :=
  match tier with
  | .exact => true
  | .structural => keyword ∉ Schema.metadataKeywords
  | .structuralLoose => keyword ∉ Schema.metadataKeywords ++ Schema.constraintKeywords

/-- Whether the order of the items under a keyword is ignored at a tier. -/
def ignoresOrder (tier : MergeTier) (keyword : String) : Bool :=
  tier ≠ .exact && keyword ∈ "required" :: Schema.combinators

/-- The normal form of what stands under a keyword, once the schemas in it are done. -/
def normalField (tier : MergeTier) (self : String) (keyword : String) (value : Json) : Json :=
  match value with
  | .string text => if keyword = "$ref" ∧ text = self then .string selfMark else value
  | .array items => if ignoresOrder tier keyword then .array (sortOn Json.compact items) else value
  | _ => value

/-- The normal form of the members of a schema node. -/
def normalFields (tier : MergeTier) (self : String) (fields : List (String × Json)) :
    List (String × Json) :=
  Fields.mapValues (normalField tier self) (fields.filter fun field => keeps tier field.1)

/-- The normal form of the definition called `name`. -/
def normalForm (tier : MergeTier) (name : String) (schema : Json) : Json :=
  Schema.fold (.ofEdit (normalFields tier (SchemaRef.ofName name))) .schema
    (SchemaRef.ofName name) 0 schema

/-- The first schema position that is nested too deeply. -/
def tooDeep? (limit : UInt64) (path : String) (schema : Json) : Option Schema.Position :=
  (Schema.positions path schema).find? fun position => limit.toNat < position.depth

/-- The declared type of a node in one word. -/
def typeLabel (schema : Json) : String :=
  match schema.get? "type" with
  | some (.string text) => text
  | some (.array types) => Text.joined "," (sortOn id (types.filterMap Json.string?))
  | _ => if (schema.get? "$ref").isSome then "ref" else "unknown"

/-- The type of a node and the names and types of its properties. -/
def signature (schema : Json) : String :=
  let properties := ((schema.get? "properties").bind Json.object?).getD []
  let pairs := distinctSorted (properties.map fun field => field.1 ++ ":" ++ typeLabel field.2)
  "type=" ++ typeLabel schema ++ "|" ++ Text.joined ";" pairs

/-- The key of a definition that is no alias, at a tier that looks at nested structure. -/
def ofShape (limit : UInt64) (tier : MergeTier) (name : String) (schema : Json) :
    Except Error Key :=
  match tooDeep? limit (SchemaRef.ofName name) schema with
  | some position => .error (.tooDeep position.path limit)
  | none => .ok (.content (normalForm tier name schema).compact)

/-- The key of the definition called `name`. -/
def ofDefinition (limit : UInt64) (tier : Tier) (name : String) (schema : Json) :
    Except Error Key :=
  match aliasTarget? schema with
  | some target => .ok (.aliasOf target)
  | none =>
      match tier with
      | .exact => ofShape limit .exact name schema
      | .structural => ofShape limit .structural name schema
      | .structuralLoose => ofShape limit .structuralLoose name schema
      | .attributes => .ok (.content (signature schema))

def toJson : Key → Json
  | content text => .record [("content", .string text)]
  | aliasOf target => .record [("alias", .string target)]

end Key

end SchemaMerge
