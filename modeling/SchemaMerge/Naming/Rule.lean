import SchemaMerge.Options
import SchemaMerge.Error
import SchemaMerge.Pattern.Reader
import SchemaMerge.SortOn
import SchemaMerge.Text.Affix

/-!
Naming rules. A rule applies to a group when it accepts every name of the group, with a `Dto` at the
end of the name left out. The first rule of a table that applies names the group. If none does, the
shortest name is chosen, and of several the least.
-/

namespace SchemaMerge

/-- A row of a naming table. -/
structure NamingRule where
  label : String
  accepts : String → Bool
  /-- The name for a group, given what its names are without `Dto`. -/
  nameFor : List String → String

/-- The rules in the order in which they are tried. -/
abbrev NamingTable := List NamingRule

namespace NamingRule

/-- A rule that gives one name to every group. -/
def fixed (label : String) (accepts : String → Bool) (canonical : String) : NamingRule where
  label
  accepts
  nameFor _ := canonical

/-- Whether the rule accepts all names of a group that is not empty. -/
def acceptsAll (rule : NamingRule) (stems : List String) : Bool :=
  !stems.isEmpty && stems.all rule.accepts

/-- The rule of a pattern. -/
def ofConfig? (config : RuleConfig) : Except Error NamingRule :=
  match Pattern.parse? config.pattern with
  | some pattern =>
      .ok (fixed ("pattern " ++ config.pattern) pattern.occursIn config.canonical)
  | none => .error (.invalidRule config.pattern "not a pattern")

end NamingRule

namespace Naming

/-- A name without a `Dto` at its end. -/
def stem (name : String) : String :=
  (Text.beforeEnd? "Dto" name).getD name

/-- The first of the strings with the fewest bytes. -/
def shortest : List String → String
  | [] => ""
  | name :: rest =>
      rest.foldl (fun best other => if other.utf8ByteSize < best.utf8ByteSize then other else best)
        name

/-- The name for a group with the given names, whose order and repetition do not matter. -/
def choose (table : NamingTable) (names : List String) : String :=
  let names := distinctSorted names
  let stems := names.map stem
  match table.find? fun rule => rule.acceptsAll stems with
  | some rule => rule.nameFor stems
  | none => shortest names

end Naming

end SchemaMerge
