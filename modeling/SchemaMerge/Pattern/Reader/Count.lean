import SchemaMerge.Pattern.Reader.Flags

/-!
How often a part of a pattern is repeated, as it is written in braces.
-/

namespace SchemaMerge.Pattern

/-- A number in decimal digits that is below 2^32. -/
def decimal? (digits : List Char) : Option Nat :=
  let value := digits.foldl (fun value c => value * 10 + (c.toNat - '0'.toNat)) 0
  if digits.isEmpty ∨ UInt32.size ≤ value then none else some value

/-- A number with white space around it. -/
def readCount? (flags : Flags) (text : List Char) : Option (Nat × List Char) :=
  let text := text.dropWhile isBlank
  let (digits, rest) := takeWanted flags Char.isDigit text.length text
  (decimal? digits).map fun value => (value, skipIgnored flags (rest.dropWhile isBlank))

/-- The least and the greatest number of rounds, after the opening brace. -/
def readBraces? (flags : Flags) (text : List Char) : Option (Nat × Option Nat × List Char) := do
  let (least, rest) ← readCount? flags (skipIgnored flags text)
  match rest with
  | '\x7d' :: rest => return (least, some least, rest)
  | ',' :: rest =>
      match skipIgnored flags rest with
      | '\x7d' :: rest => return (least, none, rest)
      | rest =>
          let (most, rest) ← readCount? flags rest
          match rest with
          | '\x7d' :: rest => if least ≤ most then return (least, some most, rest) else none
          | _ => none
  | _ => none

end SchemaMerge.Pattern
