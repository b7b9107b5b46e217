import SchemaMerge.Text.Unicode.Age
import SchemaMerge.Text.Unicode.Break

/-!
Properties of characters by their names. Names are compared loosely: case, blanks, hyphens,
underscores, characters outside ASCII and an `is` at the beginning do not count.
-/

namespace SchemaMerge.Text.Unicode

/-- What counts of a name. An `isc` is not the `c` of the general categories. -/
def looseName (name : List Char) : String :=
  let begins :=
    match name with
    | first :: second :: _ => first.toLower == 'i' && second.toLower == 's'
    | _ => false
  let counting := ((if begins then name.drop 2 else name).filter fun c =>
    c.toNat < 128 && c != ' ' && c != '_' && c != '-').map Char.toLower
  if begins && counting == ['c'] then "isc" else String.ofList counting

/-- The characters of a property, a general category or a script. -/
def property? (name : List Char) : Option CharSet :=
  let name := looseName name
  if name ∈ ["cf", "lc", "sc"] then category? name
  else binary? name <|> category? name <|> script? name

/-- The characters whose property has the given value. -/
def propertyValue? (name value : List Char) : Option CharSet :=
  let value := looseName value
  match looseName name with
  | "gc" | "generalcategory" => category? value
  | "sc" | "script" => script? value
  | "scx" | "scriptextensions" => scriptExtension? value
  | "age" => age? value
  | "gcb" | "graphemeclusterbreak" => graphemeBreak? value
  | "wb" | "wordbreak" => wordBreak? value
  | "sb" | "sentencebreak" => sentenceBreak? value
  | _ => none

end SchemaMerge.Text.Unicode
