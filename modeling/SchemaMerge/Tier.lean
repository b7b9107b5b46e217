/-!
How strictly two schemas are compared. Each tier ignores all that the one before it ignores.
-/

namespace SchemaMerge

inductive Tier where
  /-- Nothing is ignored. -/
  | exact
  /-- Annotations are ignored. -/
  | structural
  /-- Annotations and constraints are ignored. -/
  | structuralLoose
  /-- Only the names and types of the properties count. -/
  | attributes
  deriving DecidableEq, Repr

/-- The tiers whose groups may be merged: attribute groups ignore nested structure. -/
inductive MergeTier where
  | exact
  | structural
  | structuralLoose
  deriving DecidableEq, Repr

namespace Tier

/-- All tiers, the strictest first. -/
def all : List Tier :=
  [exact, structural, structuralLoose, attributes]

def name : Tier → String
  | exact => "exact"
  | structural => "structural"
  | structuralLoose => "structural-loose"
  | attributes => "attribute"

def ofName? (name : String) : Option Tier :=
  all.find? fun tier => tier.name = name

theorem ofName?_name (tier : Tier) : ofName? tier.name = some tier := by
  cases tier <;> decide

end Tier

namespace MergeTier

def toTier : MergeTier → Tier
  | exact => .exact
  | structural => .structural
  | structuralLoose => .structuralLoose

def name (tier : MergeTier) : String :=
  tier.toTier.name

def all : List MergeTier :=
  [exact, structural, structuralLoose]

def ofName? (name : String) : Option MergeTier :=
  all.find? fun tier => tier.name = name

theorem ofName?_name (tier : MergeTier) : ofName? tier.name = some tier := by
  cases tier <;> decide

end MergeTier

end SchemaMerge
