import SchemaMerge.Group
import SchemaMerge.Naming.Rule
import SchemaMerge.RenameMap

/-!
Plans. `Plan.ofGroups?` gives every group a canonical name: the one that the naming table chooses,
or, if another group or definition holds that, the name with the least free number from two on.
Groups with one name and one key count as one shape. `planRenames?` makes a map of explicit renames.
-/

namespace SchemaMerge

structure PlanStats where
  groupsMerged : Nat := 0
  schemasRemoved : Nat := 0
  schemasAdded : Nat := 0
  /-- Bytes of the definitions removed less bytes of those added. -/
  estimatedByteDelta : Int := 0
  deriving DecidableEq, Repr

/-- A name that could not be given because it was taken. -/
structure NameConflict where
  requested : String
  assigned : String
  /-- The group that wanted the name. -/
  members : List String
  /-- The group, or the one definition, that had the name. -/
  heldBy : List String
  deriving DecidableEq, Repr

structure Plan where
  renameMap : RenameMap
  stats : PlanStats
  conflicts : List NameConflict
  deriving DecidableEq

/-- The key and members of the group that holds a name. -/
structure Claim where
  key : String
  members : List String
  deriving DecidableEq, Repr

/-- A plan in the making. -/
structure Draft where
  claims : NameMap Claim := .empty
  aliases : NameMap String := .empty
  materialized : NameMap String := .empty
  stats : PlanStats := {}
  conflicts : List NameConflict := []

/-- The least of the names `base2`, `base3`, ... that is not taken. One of `bound` names is free if
fewer than that are taken. -/
def freeName (taken : String → Bool) (base : String) (bound : Nat) : String :=
  (((List.range' 2 bound).map fun n => base ++ toString n).find? fun name => !taken name).getD base

namespace Draft

/-- Whether a group with these members may not have a name: another group has it, or a definition
that is no member. -/
def taken (draft : Draft) (definitions : NameMap Json) (members : List String) (name : String) :
    Bool :=
  draft.claims.contains name || (definitions.contains name && name ∉ members)

/-- Whether the name is held by a group with the same key. -/
def shares (draft : Draft) (group : MergeGroup) (name : String) : Bool :=
  match draft.claims.get? name with
  | some claim => claim.key = group.key
  | none => false

/-- Who holds a name that is taken. -/
def holders (draft : Draft) (name : String) : List String :=
  match draft.claims.get? name with
  | some claim => claim.members
  | none => [name]

/-- The name for a group that asks for `requested`, and the conflict if it gets another one. -/
def assign? (draft : Draft) (definitions : NameMap Json) (policy : ConflictPolicy)
    (group : MergeGroup) (requested : String) : Except Error (String × Option NameConflict) :=
  let taken := draft.taken definitions group.members
  if draft.shares group requested || !taken requested then .ok (requested, none)
  else
    let heldBy := draft.holders requested
    match policy with
    | .fail => .error (.nameTaken requested [heldBy, group.members])
    | .suffix =>
        let assigned := freeName taken requested (draft.claims.size + definitions.size + 1)
        .ok (assigned, some ⟨requested, assigned, group.members, heldBy⟩)

/-- Bytes of the definition called `name`. -/
def bytesOf (definitions : NameMap Json) (name : String) : Int :=
  match definitions.get? name with
  | some schema => schema.byteSize
  | none => 0

/-- Creates the canonical definition of a group as a copy of the first member, unless it is a member
or about to be created already. -/
def create (draft : Draft) (definitions : NameMap Json) (group : MergeGroup) (canonical : String) :
    Draft :=
  if canonical ∈ group.members ∨ draft.materialized.contains canonical then draft
  else
    { draft with
      materialized := draft.materialized.insert canonical group.first
      stats :=
        { draft.stats with
          schemasAdded := draft.stats.schemasAdded + 1
          estimatedByteDelta :=
            draft.stats.estimatedByteDelta - bytesOf definitions group.first } }

/-- Sends the members of a group to its canonical name. -/
def merge (draft : Draft) (definitions : NameMap Json) (group : MergeGroup) (canonical : String) :
    Draft :=
  let merged := group.members.filter fun name => name ≠ canonical
  { draft with
    aliases := merged.foldl (fun aliases name => aliases.insert name canonical) draft.aliases
    stats :=
      { draft.stats with
        groupsMerged := draft.stats.groupsMerged + 1
        schemasRemoved := draft.stats.schemasRemoved + merged.length
        estimatedByteDelta :=
          draft.stats.estimatedByteDelta + (merged.map (bytesOf definitions)).foldr (· + ·) 0 } }

/-- Gives a name to a group unless another group holds it. -/
def claim (draft : Draft) (group : MergeGroup) (canonical : String) : Draft :=
  if draft.claims.contains canonical then draft
  else { draft with claims := draft.claims.insert canonical ⟨group.key, group.members⟩ }

/-- Plans one more group. -/
def addGroup (definitions : NameMap Json) (table : NamingTable) (policy : ConflictPolicy)
    (draft : Draft) (group : MergeGroup) : Except Error Draft := do
  let requested := Naming.choose table group.members
  let (canonical, conflict) ← draft.assign? definitions policy group requested
  let draft := { draft with conflicts := draft.conflicts ++ conflict.toList }
  return ((draft.create definitions group canonical).merge definitions group canonical).claim group
    canonical

end Draft

/-- Plans the groups in their order. -/
def Plan.ofGroups? (groups : List MergeGroup) (document : Document) (table : NamingTable)
    (policy : ConflictPolicy) : Except Error Plan := do
  let draft ← groups.foldlM (Draft.addGroup document.definitions table policy) {}
  let renameMap ← RenameMap.ofAliases? draft.aliases draft.materialized
  return ⟨renameMap, draft.stats, draft.conflicts⟩

/-- Whether a rename would put a definition in the place of one that keeps its name. -/
def targetSurvives (renames : NameMap String) (definitions : NameMap Json) (target : String) :
    Bool :=
  definitions.contains target &&
    match renames.get? target with
    | some next => next = target
    | none => true

/-- The definitions to be created for explicit renames: each target that does not exist, as a copy
of the least name that goes to it directly. -/
def createdTargets (definitions : NameMap Json) (moved : List (String × String)) : NameMap String :=
  (moved.filter fun entry => !definitions.contains entry.2).foldr
    (fun entry created => created.insert entry.2 entry.1) .empty

/-- The map of explicit renames. Every name that goes has to be a definition, and no target one that
stays. -/
def planRenames? (renames : NameMap String) (document : Document) : Except Error RenameMap :=
  let definitions := document.definitions
  let moved := renames.entries.filter fun entry => entry.1 ≠ entry.2
  match renames.names.find? fun name => !definitions.contains name with
  | some name => .error (.unknownDefinition name)
  | none =>
      match moved.find? fun entry => targetSurvives renames definitions entry.2 with
      | some (source, target) => .error (.targetExists source target)
      | none => RenameMap.ofAliases? renames (createdTargets definitions moved)

end SchemaMerge
