import SchemaMerge.Schema.Keyword

/-!
The kind of a schema node, decided from its keywords in a fixed order of precedence: reference,
combinator, declared type, then the keywords that suggest a type.
-/

namespace SchemaMerge.Schema

inductive Kind where
  /-- Has a `$ref`, possibly beside other keywords. -/
  | reference (target : String)
  /-- Has a list of branches. -/
  | combinator
  | object
  | array
  /-- Any other declared type. -/
  | scalar
  /-- The schema is a truth value. -/
  | boolean (value : Bool)
  /-- Says nothing about its type. -/
  | untyped
  deriving DecidableEq, Repr

/-- The kind of a node without a `$ref` and without branches. -/
def Kind.ofType (fields : List (String × Json)) : Kind :=
  match fields.lookup "type" with
  | some (.string "object") => .object
  | some (.string "array") => .array
  | some (.string _) => .scalar
  | declared =>
      if (fields.lookup "properties").isSome then .object
      else if (fields.lookup "items").isSome then .array
      else if (declared.bind Json.array?).isSome then .scalar
      else .untyped

def Kind.of : Json → Kind
  | .object fields =>
      match fields.lookup "$ref" with
      | some (.string target) => .reference target
      | _ =>
          if combinators.any fun keyword => ((fields.lookup keyword).bind Json.array?).isSome
          then .combinator
          else ofType fields
  | .bool value => .boolean value
  | _ => .untyped

end SchemaMerge.Schema
