import SchemaMerge.Document
import SchemaMerge.Gather
import SchemaMerge.SortOn
import SchemaMerge.Tier

/-!
Which names are replaced by which, and which definitions have to be created first. A map that is
built from renames has its chains resolved: every alias goes to the end of its chain, and a chain
that comes back to one of its names is refused.
-/

namespace SchemaMerge

structure RenameMap where
  /-- The new name of each name that goes. -/
  aliases : NameMap String
  /-- For each definition to be created, the definition that it copies. -/
  materialized : NameMap String
  deriving DecidableEq

/-- What became of the definitions that now have one name. -/
structure MergeRecord where
  canonicalName : String
  mergedAliases : List String
  /-- Whether the name is new. -/
  materialized : Bool
  tier : MergeTier
  deriving DecidableEq, Repr

/-- Follows the renames from `current` on. `seen` are the names on the way, the first one first. A
name without a rename, or with one to itself, ends the chain. Each further step adds a new name to
`seen`, so as much fuel as there are renames is enough. -/
def chainEnd (raw : NameMap String) (seen : List String) (current : String) :
    Nat → Except Error String
  | 0 => .ok current
  | fuel + 1 =>
      match raw.get? current with
      | none => .ok current
      | some next =>
          if next = current then .ok current
          else if current ∈ seen then .error (.cyclicRename (seen ++ [current]))
          else chainEnd raw (seen ++ [current]) next fuel

/-- Sends every name that changes to the end of its chain. -/
def resolveChains (raw : NameMap String) : Except Error (NameMap String) := do
  let moved := raw.entries.filter fun entry => entry.1 ≠ entry.2
  let resolved ← moved.mapM fun entry => do
    return (entry.1, ← chainEnd raw [entry.1] entry.2 (raw.size + 1))
  return .ofList resolved

namespace RenameMap

def empty : RenameMap :=
  ⟨.empty, .empty⟩

def ofAliases? (aliases materialized : NameMap String) : Except Error RenameMap := do
  return ⟨← resolveChains aliases, materialized⟩

def isEmpty (map : RenameMap) : Bool :=
  map.aliases.isEmpty && map.materialized.isEmpty

/-- The number of names that go. -/
def size (map : RenameMap) : Nat :=
  map.aliases.size

def get? (map : RenameMap) (name : String) : Option String :=
  map.aliases.get? name

/-- The name that a definition has after the renames. -/
def target (map : RenameMap) (name : String) : String :=
  (map.get? name).getD name

/-- The names that others are replaced by, in ascending order. -/
def canonicalNames (map : RenameMap) : List String :=
  distinctSorted map.aliases.values

/-- The map that goes on with `next`, which was made for the document that `map` leads to. -/
def thenMap (map next : RenameMap) : RenameMap :=
  let aliases := (map.aliases.map fun _ target => next.target target).override next.aliases
  let materialized := map.materialized.override next.materialized
  ⟨aliases, materialized.filter fun name _ => !aliases.contains name⟩

/-- One record for each canonical name, with the definitions of `before` that have it now. -/
def mergeRecords (map : RenameMap) (before : Document) (tier : MergeTier) : List MergeRecord :=
  let known := map.aliases.entries.filter fun entry => before.definitions.contains entry.1
  let gathered := gather (known.map fun entry => (entry.2, entry.1))
  (NameMap.ofList gathered).entries.map fun entry =>
    { canonicalName := entry.1
      mergedAliases := entry.2
      materialized := !before.definitions.contains entry.1
      tier }

end RenameMap

end SchemaMerge
