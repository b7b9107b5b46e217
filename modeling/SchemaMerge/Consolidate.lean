import SchemaMerge.Naming.Conventions
import SchemaMerge.Report
import SchemaMerge.Repoint

/-!
The whole of the work on a document. `Document.analyze?` reports its groups, `Document.consolidate?`
merges them until none is left, and `Document.applyRenames?` renames definitions as told. Merging
can make other definitions equal, which is why it goes on in passes; every pass leaves fewer
definitions.
-/

namespace SchemaMerge

/-- What a consolidation leads to. -/
structure Consolidation where
  document : Document
  /-- Every definition that went, with the name that it has in the end. -/
  renameMap : RenameMap
  report : Report

/-- The state between two passes. -/
structure Progress where
  working : Document
  /-- The plans that have been carried out, in order. -/
  plans : List Plan := []

namespace Progress

/-- The maps of all passes as one. -/
def renameMap (progress : Progress) : RenameMap :=
  progress.plans.foldl (fun map plan => map.thenMap plan.renameMap) .empty

/-- The conflicts of all passes. -/
def conflicts (progress : Progress) : List NameConflict :=
  progress.plans.flatMap (·.conflicts)

/-- Bytes of the definitions removed less bytes of those added, over all passes. -/
def byteDelta (progress : Progress) : Int :=
  (progress.plans.map (·.stats.estimatedByteDelta)).foldr (· + ·) 0

/-- One pass over the groups that are left. -/
def pass? (progress : Progress) (options : Options) (table : NamingTable)
    (groups : List MergeGroup) : Except Error Progress := do
  let plan ← Plan.ofGroups? groups progress.working table options.conflictPolicy
  let working ← progress.working.repoint? plan.renameMap
  return { working, plans := progress.plans ++ [plan] }

/-- Passes until no group is left. There is no need for more of them than there are definitions. -/
def run? (progress : Progress) (options : Options) (table : NamingTable) :
    Nat → Except Error Progress
  | 0 => .ok progress
  | fuel + 1 => do
      let groups ← classifyForMerge options.maxDepth options.tier options.keepSeparate
        progress.working.definitions
      if groups.isEmpty then return progress
      let next ← progress.pass? options table groups
      next.run? options table fuel

end Progress

namespace Document

/-- The groups at every tier. -/
def allGroups? (document : Document) (limit : UInt64) : Except Error (ByTier (List Group)) :=
  Tier.all.foldlM (fun table tier => do
    return table.set tier (← classify limit tier document.definitions)) {}

def analyze? (document : Document) (options : Options) : Except Error Report := do
  let groups ← document.allGroups? options.maxDepth
  return .ofGroups groups document options.topN

/-- The document from which the passes start, and what was extracted for it. -/
def start? (document : Document) (options : Options) :
    Except Error (Document × List ExtractedShape) :=
  if options.extractInline then document.extractInline? options.maxDepth
  else .ok (document, [])

/-- The statistics of all passes together. The counts are those of the records. -/
def overallStats (merges : List MergeRecord) (byteDelta : Int) : PlanStats where
  groupsMerged := merges.length
  schemasRemoved := (merges.map fun record => record.mergedAliases.length).foldr (· + ·) 0
  schemasAdded := (merges.filter fun record => record.materialized).length
  estimatedByteDelta := byteDelta

def consolidate? (document : Document) (options : Options) : Except Error Consolidation := do
  let table ← Naming.table? options.namingRules
  let report ← document.analyze? options
  let (start, extracted) ← document.start? options
  let final ← Progress.run? { working := start } options table (start.definitionCount + 1)
  let merges := final.renameMap.mergeRecords start options.tier
  let stats := overallStats merges final.byteDelta
  return {
    document := final.working
    renameMap := final.renameMap
    report := { report with extracted }.withOutcome final.working merges final.conflicts stats }

/-- Renames definitions as the table says. -/
def applyRenames? (document : Document) (renames : NameMap String) :
    Except Error (Document × RenameMap) := do
  let map ← planRenames? renames document
  return (← document.repoint? map, map)

end Document

end SchemaMerge
