import SchemaMerge.Gather
import SchemaMerge.Key

/-!
Groups of definitions with one key. `classify` partitions the definitions at a tier, without those
that stand alone and without aliases. Only groups of a `MergeTier` can be merged, and a set of names
that is to be kept separate leaves such a group when the group contains all of it.
-/

namespace SchemaMerge

/-- Two definitions or more with one key, in ascending order. -/
structure Group where
  tier : Tier
  members : List String
  key : String
  two_le : 2 ≤ members.length
  deriving DecidableEq

/-- A group whose members may become one definition. -/
structure MergeGroup where
  tier : MergeTier
  members : List String
  key : String
  two_le : 2 ≤ members.length
  deriving DecidableEq

/-- The smallest member. -/
def MergeGroup.first (group : MergeGroup) : String :=
  group.members.head (List.ne_nil_of_length_pos (Nat.lt_of_lt_of_le Nat.zero_lt_two group.two_le))

def MergeGroup.toGroup (group : MergeGroup) : Group :=
  ⟨group.tier.toTier, group.members, group.key, group.two_le⟩

def Group.size (group : Group) : Nat :=
  group.members.length

def Group.contains (group : Group) (name : String) : Bool :=
  group.members.contains name

/-- The contents of the definitions that are no aliases, with their names, in order of the
names. -/
def contents (limit : UInt64) (tier : Tier) (definitions : NameMap Json) :
    Except Error (List (String × String)) := do
  let keyed ← definitions.entries.mapM fun entry => do
    return (← Key.ofDefinition limit tier entry.1 entry.2, entry.1)
  return keyed.filterMap fun entry =>
    match entry.1 with
    | .content text => some (text, entry.2)
    | .aliasOf _ => none

/-- The groups at a tier, in order of their first members. -/
def classify (limit : UInt64) (tier : Tier) (definitions : NameMap Json) :
    Except Error (List Group) := do
  let keyed ← contents limit tier definitions
  return (gather keyed).filterMap fun entry =>
    if h : 2 ≤ entry.2.length then some ⟨tier, entry.2, entry.1, h⟩ else none

/-- The members that are left when the given set, if it has at least two entries and all of them are
members, is taken out. -/
def setAside (members set : List String) : List String :=
  if 1 < set.length ∧ ∀ name ∈ set, name ∈ members then
    members.filter fun name => name ∉ set
  else members

/-- The groups at a tier that may be merged. The sets to be kept separate are taken out one after
the other. -/
def classifyForMerge (limit : UInt64) (tier : MergeTier) (keepSeparate : List (List String))
    (definitions : NameMap Json) : Except Error (List MergeGroup) := do
  let groups ← classify limit tier.toTier definitions
  return groups.filterMap fun group =>
    let members := keepSeparate.foldl setAside group.members
    if h : 2 ≤ members.length then some ⟨tier, members, group.key, h⟩ else none

end SchemaMerge
