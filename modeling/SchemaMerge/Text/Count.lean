/-!
Counts as texts: decimal digits below `2 ^ 64`, with an optional plus sign.
-/

namespace SchemaMerge.Text

/-- The count that a text gives. -/
def count? (text : String) : Option Nat :=
  let digits :=
    match text.toList with
    | '+' :: rest => rest
    | chars => chars
  if digits.isEmpty then none
  else
    digits.foldlM (fun value c =>
      let next := value * 10 + (c.toNat - '0'.toNat)
      if c.isDigit ∧ next < UInt64.size then some next else none) 0

end SchemaMerge.Text
