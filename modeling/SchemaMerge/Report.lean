import SchemaMerge.Extraction
import SchemaMerge.Group
import SchemaMerge.Json.Decode
import SchemaMerge.Plan

/-!
Reports: how many groups there are at each tier and which are the largest, which groups appear only
when annotations or constraints are ignored, and what a run has changed. `Report.ofJson?` reads what
`Report.toJson` writes.
-/

namespace SchemaMerge

/-- A value for some of the tiers. -/
structure ByTier (α : Type) where
  exact : Option α := none
  structural : Option α := none
  structuralLoose : Option α := none
  attributes : Option α := none
  deriving DecidableEq, Repr

namespace ByTier

variable {α β : Type}

def get? (table : ByTier α) : Tier → Option α
  | .exact => table.exact
  | .structural => table.structural
  | .structuralLoose => table.structuralLoose
  | .attributes => table.attributes

def set (table : ByTier α) (tier : Tier) (x : α) : ByTier α :=
  match tier with
  | .exact => { table with exact := some x }
  | .structural => { table with structural := some x }
  | .structuralLoose => { table with structuralLoose := some x }
  | .attributes => { table with attributes := some x }

def map (f : α → β) (table : ByTier α) : ByTier β where
  exact := table.exact.map f
  structural := table.structural.map f
  structuralLoose := table.structuralLoose.map f
  attributes := table.attributes.map f

/-- The tiers that have a value, the strictest first. -/
def toList (table : ByTier α) : List (Tier × α) :=
  Tier.all.filterMap fun tier => (table.get? tier).map fun x => (tier, x)

theorem get?_set (table : ByTier α) (tier other : Tier) (x : α) :
    (table.set tier x).get? other = if other = tier then some x else table.get? other := by
  cases tier <;> cases other <;> rfl

theorem get?_map (f : α → β) (table : ByTier α) (tier : Tier) :
    (table.map f).get? tier = (table.get? tier).map f := by
  cases tier <;> rfl

theorem ext_get? {table other : ByTier α} (h : ∀ tier, table.get? tier = other.get? tier) :
    table = other := by
  have hexact := h .exact
  have hstructural := h .structural
  have hloose := h .structuralLoose
  have hattributes := h .attributes
  cases table
  cases other
  exact ByTier.mk.injEq .. ▸ ⟨hexact, hstructural, hloose, hattributes⟩

theorem mem_toList {table : ByTier α} {tier : Tier} {x : α} :
    (tier, x) ∈ table.toList ↔ table.get? tier = some x := by
  have hall : tier ∈ Tier.all := by cases tier <;> decide
  rw [toList, List.mem_filterMap]
  constructor
  · rintro ⟨other, -, hentry⟩
    obtain ⟨y, hy, heq⟩ := Option.map_eq_some_iff.1 hentry
    cases heq
    exact hy
  · exact fun hx => ⟨tier, hall, by rw [hx, Option.map_some]⟩

end ByTier

structure GroupSummary where
  size : Nat
  members : List String
  deriving DecidableEq, Repr

structure TierSummary where
  groupCount : Nat
  /-- How many definitions belong to a group. -/
  schemaCount : Nat
  /-- The largest groups, the largest first. -/
  topGroups : List GroupSummary
  deriving DecidableEq, Repr

structure DocumentSize where
  definitions : Nat
  bytes : Nat
  deriving DecidableEq, Repr

structure Report where
  tiers : ByTier TierSummary
  /-- The structural groups that are no exact groups. -/
  nearDuplicates : List (List String)
  /-- The loose groups that are no structural groups. -/
  constraintOnly : List (List String)
  before : DocumentSize
  after : DocumentSize
  /-- Bytes before less bytes after. -/
  sizeDelta : Int
  merges : List MergeRecord
  conflicts : List NameConflict
  extracted : List ExtractedShape
  plan : Option PlanStats
  deriving DecidableEq, Repr

def DocumentSize.of (document : Document) : DocumentSize :=
  ⟨document.definitionCount, document.byteSize⟩

namespace TierSummary

/-- Whether a group may stand before another in a ranking: it is larger, or as large and its list of
members is not greater. -/
def ranksBefore (a b : Group) : Bool :=
  b.size < a.size || (a.size = b.size && !b.members.lex a.members)

/-- Sums up the groups of a tier, of which at most `topN` are listed. -/
def ofGroups (topN : UInt64) (groups : List Group) : TierSummary where
  groupCount := groups.length
  schemaCount := (groups.map Group.size).foldr (· + ·) 0
  topGroups := ((sortBy ranksBefore groups).take topN.toNat).map fun group =>
    ⟨group.size, group.members⟩

end TierSummary

namespace Report

/-- The member lists of the groups at a tier that are none at another tier. -/
def onlyAt (groups : ByTier (List Group)) (looser stricter : Tier) : List (List String) :=
  let strict := ((groups.get? stricter).getD []).map Group.members
  (((groups.get? looser).getD []).map Group.members).filter fun members => members ∉ strict

/-- The report on the groups of a document, which has not been changed. -/
def ofGroups (groups : ByTier (List Group)) (document : Document) (topN : UInt64) : Report where
  tiers := groups.map (TierSummary.ofGroups topN)
  nearDuplicates := onlyAt groups .structural .exact
  constraintOnly := onlyAt groups .structuralLoose .structural
  before := .of document
  after := .of document
  sizeDelta := 0
  merges := []
  conflicts := []
  extracted := []
  plan := none

/-- Adds what a run has changed. -/
def withOutcome (report : Report) (after : Document) (merges : List MergeRecord)
    (conflicts : List NameConflict) (stats : PlanStats) : Report :=
  let size := DocumentSize.of after
  { report with
    after := size
    sizeDelta := (report.before.bytes : Int) - size.bytes
    merges
    conflicts
    plan := some stats }

end Report

namespace GroupSummary

def fieldNames : List String := ["size", "members"]

def toJson (summary : GroupSummary) : Json :=
  .record [("size", .ofNat summary.size), ("members", .ofStrings summary.members)]

def ofJson? (value : Json) : Option GroupSummary := do
  let fields ← value.recordFields? fieldNames
  return {
    size := ← Json.field? fields "size" Json.count?
    members := ← Json.field? fields "members" Json.strings? }

end GroupSummary

namespace TierSummary

def fieldNames : List String := ["groupCount", "schemaCount", "topGroups"]

def toJson (summary : TierSummary) : Json :=
  .record [("groupCount", .ofNat summary.groupCount), ("schemaCount", .ofNat summary.schemaCount),
    ("topGroups", .array (summary.topGroups.map GroupSummary.toJson))]

def ofJson? (value : Json) : Option TierSummary := do
  let fields ← value.recordFields? fieldNames
  return {
    groupCount := ← Json.field? fields "groupCount" Json.count?
    schemaCount := ← Json.field? fields "schemaCount" Json.count?
    topGroups := ← Json.field? fields "topGroups" (Json.list? GroupSummary.ofJson?) }

end TierSummary

namespace ByTier

variable {α : Type}

/-- An object with a member for each tier that has a value. -/
def toJson (write : α → Json) (table : ByTier α) : Json :=
  .record (table.toList.map fun entry => (entry.1.name, write entry.2))

def ofJson? (read : Json → Option α) (value : Json) : Option (ByTier α) := do
  let fields ← value.object?
  fields.foldlM (fun table field => do
    return table.set (← Tier.ofName? field.1) (← read field.2)) {}

end ByTier

namespace DocumentSize

def fieldNames : List String := ["definitions", "bytes"]

def toJson (size : DocumentSize) : Json :=
  .record [("definitions", .ofNat size.definitions), ("bytes", .ofNat size.bytes)]

def ofJson? (value : Json) : Option DocumentSize := do
  let fields ← value.recordFields? fieldNames
  return {
    definitions := ← Json.field? fields "definitions" Json.count?
    bytes := ← Json.field? fields "bytes" Json.count? }

end DocumentSize

namespace MergeRecord

def fieldNames : List String := ["canonicalName", "mergedAliases", "materialized", "tier"]

def toJson (record : MergeRecord) : Json :=
  .record [("canonicalName", .string record.canonicalName),
    ("mergedAliases", .ofStrings record.mergedAliases),
    ("materialized", .bool record.materialized), ("tier", .string record.tier.name)]

def ofJson? (value : Json) : Option MergeRecord := do
  let fields ← value.recordFields? fieldNames
  return {
    canonicalName := ← Json.field? fields "canonicalName" Json.string?
    mergedAliases := ← Json.field? fields "mergedAliases" Json.strings?
    materialized := ← Json.field? fields "materialized" Json.bool?
    tier := ← Json.field? fields "tier" fun value => value.choiceName?.bind MergeTier.ofName? }

end MergeRecord

namespace NameConflict

def fieldNames : List String := ["requested", "assigned", "members", "heldBy"]

def toJson (conflict : NameConflict) : Json :=
  .record [("requested", .string conflict.requested), ("assigned", .string conflict.assigned),
    ("members", .ofStrings conflict.members), ("heldBy", .ofStrings conflict.heldBy)]

def ofJson? (value : Json) : Option NameConflict := do
  let fields ← value.recordFields? fieldNames
  return {
    requested := ← Json.field? fields "requested" Json.string?
    assigned := ← Json.field? fields "assigned" Json.string?
    members := ← Json.field? fields "members" Json.strings?
    heldBy := ← Json.field? fields "heldBy" Json.strings? }

end NameConflict

namespace ExtractedShape

def fieldNames : List String := ["name", "occurrences"]

def toJson (shape : ExtractedShape) : Json :=
  .record [("name", .string shape.name), ("occurrences", .ofStrings shape.occurrences)]

def ofJson? (value : Json) : Option ExtractedShape := do
  let fields ← value.recordFields? fieldNames
  return {
    name := ← Json.field? fields "name" Json.string?
    occurrences := ← Json.field? fields "occurrences" Json.strings? }

end ExtractedShape

namespace PlanStats

def fieldNames : List String :=
  ["groupsMerged", "schemasRemoved", "schemasAdded", "estimatedByteDelta"]

def toJson (stats : PlanStats) : Json :=
  .record [("groupsMerged", .ofNat stats.groupsMerged),
    ("schemasRemoved", .ofNat stats.schemasRemoved), ("schemasAdded", .ofNat stats.schemasAdded),
    ("estimatedByteDelta", .ofInt stats.estimatedByteDelta)]

def ofJson? (value : Json) : Option PlanStats := do
  let fields ← value.recordFields? fieldNames
  return {
    groupsMerged := ← Json.field? fields "groupsMerged" Json.count?
    schemasRemoved := ← Json.field? fields "schemasRemoved" Json.count?
    schemasAdded := ← Json.field? fields "schemasAdded" Json.count?
    estimatedByteDelta := ← Json.field? fields "estimatedByteDelta" Json.int64? }

end PlanStats

namespace Report

def fieldNames : List String :=
  ["tiers", "nearDuplicates", "constraintOnly", "before", "after", "sizeDelta", "merges",
    "conflicts", "extracted", "plan"]

/-- A member for a list that is left out when the list is empty. -/
def listField {α : Type} (name : String) (write : α → Json) (items : List α) :
    List (String × Json) :=
  if items.isEmpty then [] else [(name, .array (items.map write))]

/-- The members of a written report. -/
def toFields (report : Report) : List (String × Json) :=
  [("tiers", report.tiers.toJson TierSummary.toJson),
    ("nearDuplicates", .array (report.nearDuplicates.map .ofStrings)),
    ("constraintOnly", .array (report.constraintOnly.map .ofStrings)),
    ("before", report.before.toJson), ("after", report.after.toJson),
    ("sizeDelta", .ofInt report.sizeDelta)] ++
    listField "merges" MergeRecord.toJson report.merges ++
    listField "conflicts" NameConflict.toJson report.conflicts ++
    listField "extracted" ExtractedShape.toJson report.extracted ++
    (report.plan.map fun stats => ("plan", stats.toJson)).toList

def toJson (report : Report) : Json :=
  .record report.toFields

/-- Statistics, or `null` where there are none. -/
def plan? : Json → Option (Option PlanStats)
  | .null => some none
  | value => (PlanStats.ofJson? value).map some

/-- Reads a report. The lists that may be left out are empty then. -/
def ofJson? (value : Json) : Option Report := do
  let fields ← value.recordFields? fieldNames
  return {
    tiers := ← Json.field? fields "tiers" (ByTier.ofJson? TierSummary.ofJson?)
    nearDuplicates := ← Json.field? fields "nearDuplicates" Json.stringLists?
    constraintOnly := ← Json.field? fields "constraintOnly" Json.stringLists?
    before := ← Json.field? fields "before" DocumentSize.ofJson?
    after := ← Json.field? fields "after" DocumentSize.ofJson?
    sizeDelta := ← Json.field? fields "sizeDelta" Json.int64?
    merges := ← Json.fieldOr? fields "merges" [] (Json.list? MergeRecord.ofJson?)
    conflicts := ← Json.fieldOr? fields "conflicts" [] (Json.list? NameConflict.ofJson?)
    extracted := ← Json.fieldOr? fields "extracted" [] (Json.list? ExtractedShape.ofJson?)
    plan := ← Json.fieldOr? fields "plan" none plan? }

end Report

end SchemaMerge
