import SchemaMerge.Json.Decode
import SchemaMerge.Json.Reader
import SchemaMerge.Tier

/-!
What a run may be told. Options are read from a JSON object with the names of `Options.fieldNames`.
A text is read more strictly than a value, because it can name a field twice, and more leniently,
because what stands under an unknown name has to be JSON in form alone.
-/

namespace SchemaMerge

/-- What to do when two groups want one name. -/
inductive ConflictPolicy where
  /-- The later group takes the name with a number. -/
  | suffix
  /-- The run stops. -/
  | fail
  deriving DecidableEq, Repr

def ConflictPolicy.name : ConflictPolicy → String
  | suffix => "suffix"
  | fail => "fail"

def ConflictPolicy.ofName? (name : String) : Option ConflictPolicy :=
  [suffix, fail].find? fun policy => policy.name = name

theorem ConflictPolicy.ofName?_name (policy : ConflictPolicy) :
    ofName? policy.name = some policy := by
  cases policy <;> decide

/-- A group takes the name `canonical` if the pattern matches all of its names. -/
structure RuleConfig where
  pattern : String
  canonical : String
  deriving DecidableEq, Repr

namespace RuleConfig

def fieldNames : List String :=
  ["pattern", "canonical"]

def ofJson? (value : Json) : Option RuleConfig := do
  let fields ← Json.recordFields? fieldNames value
  let pattern ← Json.field? fields "pattern" Json.string?
  let canonical ← Json.field? fields "canonical" Json.string?
  return { pattern, canonical }

def toJson (config : RuleConfig) : Json :=
  .record [("pattern", .string config.pattern), ("canonical", .string config.canonical)]

end RuleConfig

structure Options where
  /-- The tier whose groups are merged. -/
  tier : MergeTier := .structural
  conflictPolicy : ConflictPolicy := .suffix
  /-- Sets of names that are not to be merged together. -/
  keepSeparate : List (List String) := []
  namingRules : List RuleConfig := []
  /-- Whether repeated inline shapes become definitions first. -/
  extractInline : Bool := false
  /-- How many groups a report lists for each tier. -/
  topN : UInt64 := 10
  /-- How deeply a schema may be nested. -/
  maxDepth : UInt64 := 64
  deriving DecidableEq, Repr

namespace Options

def fieldNames : List String :=
  ["tier", "conflict-policy", "keep-separate", "naming-rules", "extract-inline", "top-n",
    "max-depth"]

def ofJson? (value : Json) : Option Options := do
  let fields ← Json.recordFields? fieldNames value
  let defaults : Options := {}
  let tier ← Json.fieldOr? fields "tier" defaults.tier fun value =>
    value.choiceName?.bind MergeTier.ofName?
  let conflictPolicy ← Json.fieldOr? fields "conflict-policy" defaults.conflictPolicy fun value =>
    value.choiceName?.bind ConflictPolicy.ofName?
  let keepSeparate ← Json.fieldOr? fields "keep-separate" [] Json.stringLists?
  let namingRules ← Json.fieldOr? fields "naming-rules" [] (Json.list? RuleConfig.ofJson?)
  let extractInline ← Json.fieldOr? fields "extract-inline" false Json.bool?
  let topN ← Json.fieldOr? fields "top-n" defaults.topN Json.uint64?
  let maxDepth ← Json.fieldOr? fields "max-depth" defaults.maxDepth Json.uint64?
  return { tier, conflictPolicy, keepSeparate, namingRules, extractInline, topN, maxDepth }

def toJson (options : Options) : Json :=
  .record [
    ("tier", .string options.tier.name),
    ("conflict-policy", .string options.conflictPolicy.name),
    ("keep-separate", .array (options.keepSeparate.map .ofStrings)),
    ("naming-rules", .array (options.namingRules.map RuleConfig.toJson)),
    ("extract-inline", .bool options.extractInline),
    ("top-n", .ofNat options.topN.toNat),
    ("max-depth", .ofNat options.maxDepth.toNat)]

/-- The members of an object text that have one of the given names. `none` if a name cannot be read
or a given one stands twice. -/
def knownMembers? (names : List String) (members : List (List Json.Piece × Json.Tree)) :
    Option (List (String × Json.Tree)) := do
  let named ← members.mapM fun member => (Json.pieceString? member.1).map fun key => (key, member.2)
  let known := named.filter fun member => member.1 ∈ names
  if (known.map (·.1)).Nodup then some known else none

/-- The value of a rule text without the members that are unknown. -/
def ruleValue? : Json.Tree → Option Json
  | .object members => do
      let known ← knownMembers? RuleConfig.fieldNames members
      let fields ← known.mapM fun member => member.2.value?.map fun value => (member.1, value)
      return .object fields
  | tree => tree.value?

/-- The value of what stands under an option name. An object can only be the name of a choice. -/
def fieldValue? (name : String) (tree : Json.Tree) : Option Json :=
  match tree with
  | .array items =>
      if name = "naming-rules" then (items.mapM ruleValue?).map .array else tree.value?
  | .object members => if members.length = 1 then tree.value? else none
  | _ => tree.value?

/-- Reads the text of a configuration. -/
def read? (text : String) : Option Options := do
  match ← Json.Tree.read? text.length text with
  | .object members =>
      let known ← knownMembers? fieldNames members
      let fields ← known.mapM fun member =>
        (fieldValue? member.1 member.2).map fun value => (member.1, value)
      ofJson? (.object fields)
  | .array items =>
      if fieldNames.length < items.length then none
      let values ← (fieldNames.zip items).mapM fun field => fieldValue? field.1 field.2
      ofJson? (.array values)
  | _ => none

end Options

end SchemaMerge
