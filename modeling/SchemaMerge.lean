import SchemaMerge.CommandLine.Directory
import SchemaMerge.Main
import SchemaMerge.Proofs.Coverage
import SchemaMerge.Proofs.Dangling
import SchemaMerge.Proofs.Idempotence
import SchemaMerge.Proofs.KeepSeparate
import SchemaMerge.Proofs.PointerSegments
import SchemaMerge.Proofs.ReportCounts
import SchemaMerge.Proofs.ShapePreservation
import SchemaMerge.Proofs.Termination
import SchemaMerge.Proofs.TierRefinement
import SchemaMerge.Proofs.Tracking
import SchemaMerge.Proofs.Rearranging
import SchemaMerge.Proofs.FollowedSites
import SchemaMerge.Proofs.AuditBlame
import SchemaMerge.Proofs.Composition
import SchemaMerge.Proofs.AcceptedRuns
import SchemaMerge.Proofs.Pinning
import SchemaMerge.Proofs.Restoration
import SchemaMerge.Proofs.ExplicitRenames
import SchemaMerge.Proofs.CleanPlans
import SchemaMerge.Proofs.BlankedReferences
import SchemaMerge.Proofs.MarkedReferences
import SchemaMerge.Proofs.IgnoredChanges
import SchemaMerge.Proofs.GuardedWalk
import SchemaMerge.Proofs.SharedNames
import SchemaMerge.Proofs.NormalWays
import SchemaMerge.Proofs.InlineObjects
import SchemaMerge.Proofs.ExhaustiveExtraction
import SchemaMerge.Proofs.ConflictPolicies
import SchemaMerge.Proofs.Partition
import SchemaMerge.Proofs.AuditedReferences
import SchemaMerge.Proofs.OverlappingSets
import SchemaMerge.Proofs.LargerLimits
import SchemaMerge.Proofs.GroupNames
import SchemaMerge.Proofs.ReferenceScan
import SchemaMerge.Proofs.WalkTrace
import SchemaMerge.Proofs.ResolvedChains
import SchemaMerge.Proofs.SameValues
import SchemaMerge.Proofs.Rankings
import SchemaMerge.Proofs.ReportFormat
import SchemaMerge.Proofs.PointerSteps
import SchemaMerge.Proofs.PointerSteps
import SchemaMerge.Proofs.ReferenceSpellings
