import SchemaMerge.Pointer
import SchemaMerge.Schema.Keyword

/-!
The walk over the schema positions of a value. A visitor may replace a node when the walk enters it,
and then nothing below it is visited; otherwise it may change the node after the nodes below it.
`fold` gives the resulting value and `trace` the calls in the order in which they happen. Both
recurse on the value, so the order of visits, which follows `visitOrder`, matters to `trace` alone.
-/

namespace SchemaMerge.Schema

/-- What happens at a node, given the node, its pointer and its depth. -/
structure Visitor where
  /-- The replacement of a node, if it is not to be walked. -/
  enter : Json → String → Nat → Option Json
  /-- The final form of a node whose sub-schemas are done. -/
  leave : Json → String → Nat → Json

/-- Changes nothing. -/
def Visitor.still : Visitor where
  enter _ _ _ := none
  leave node _ _ := node

/-- Walks every node and rebuilds the members of each object node. -/
def Visitor.ofEdit (edit : List (String × Json) → List (String × Json)) : Visitor where
  enter _ _ _ := none
  leave node _ _ :=
    match node with
    | .object fields => .object (edit fields)
    | other => other

mutual

/-- Rebuilds a value that stands for a schema, for an object or an array of schemas, or for nothing
of the kind. `depth` is the depth of the schemas that it holds. -/
def fold (visitor : Visitor) (role : Role) (path : String) (depth : Nat) : Json → Json
  | .object fields =>
      match role with
      | .schema =>
          match visitor.enter (.object fields) path depth with
          | some replacement => replacement
          | none => visitor.leave (.object (foldFields visitor path depth fields)) path depth
      | .named => .object (foldNamed visitor path depth fields)
      | _ => .object fields
  | .array items =>
      match role with
      | .schema =>
          match visitor.enter (.array items) path depth with
          | some replacement => replacement
          | none => visitor.leave (.array items) path depth
      | .listed => .array (foldListed visitor path depth 0 items)
      | _ => .array items
  | value =>
      match role with
      | .schema =>
          match visitor.enter value path depth with
          | some replacement => replacement
          | none => visitor.leave value path depth
      | _ => value

/-- Rebuilds the members of a node. -/
def foldFields (visitor : Visitor) (path : String) (depth : Nat) :
    List (String × Json) → List (String × Json)
  | [] => []
  | (keyword, value) :: rest =>
      (keyword, fold visitor (roleUnder keyword value) (Pointer.child path keyword) (depth + 1)
        value) :: foldFields visitor path depth rest

/-- Rebuilds an object of schemas. -/
def foldNamed (visitor : Visitor) (path : String) (depth : Nat) :
    List (String × Json) → List (String × Json)
  | [] => []
  | (key, value) :: rest =>
      (key, fold visitor .schema (Pointer.child path key) depth value) ::
        foldNamed visitor path depth rest

/-- Rebuilds an array of schemas from an index on. -/
def foldListed (visitor : Visitor) (path : String) (depth index : Nat) : List Json → List Json
  | [] => []
  | value :: rest =>
      fold visitor .schema (Pointer.child path (toString index)) depth value ::
        foldListed visitor path depth (index + 1) rest

end

/-- A call of a visitor. -/
inductive Event where
  | enter (path : String) (depth : Nat) (node : Json)
  | leave (path : String) (depth : Nat)

/-- Puts what was found under each keyword into the order of the walk. -/
def inVisitOrder {α : Type} (found : List (String × List α)) : List α :=
  visitOrder.flatMap fun keyword => (found.lookup keyword).getD []

mutual

/-- The calls that `fold` makes, in order. -/
def trace (visitor : Visitor) (role : Role) (path : String) (depth : Nat) : Json → List Event
  | .object fields =>
      match role with
      | .schema =>
          match visitor.enter (.object fields) path depth with
          | some _ => [.enter path depth (.object fields)]
          | none =>
              .enter path depth (.object fields) ::
                (inVisitOrder (traceFields visitor path depth fields) ++ [.leave path depth])
      | .named => traceNamed visitor path depth fields
      | _ => []
  | .array items =>
      match role with
      | .schema =>
          match visitor.enter (.array items) path depth with
          | some _ => [.enter path depth (.array items)]
          | none => [.enter path depth (.array items), .leave path depth]
      | .listed => traceListed visitor path depth 0 items
      | _ => []
  | value =>
      match role with
      | .schema =>
          match visitor.enter value path depth with
          | some _ => [.enter path depth value]
          | none => [.enter path depth value, .leave path depth]
      | _ => []

/-- The calls below each keyword of a node. -/
def traceFields (visitor : Visitor) (path : String) (depth : Nat) :
    List (String × Json) → List (String × List Event)
  | [] => []
  | (keyword, value) :: rest =>
      (keyword, trace visitor (roleUnder keyword value) (Pointer.child path keyword) (depth + 1)
        value) :: traceFields visitor path depth rest

def traceNamed (visitor : Visitor) (path : String) (depth : Nat) :
    List (String × Json) → List Event
  | [] => []
  | (key, value) :: rest =>
      trace visitor .schema (Pointer.child path key) depth value ++
        traceNamed visitor path depth rest

def traceListed (visitor : Visitor) (path : String) (depth index : Nat) : List Json → List Event
  | [] => []
  | value :: rest =>
      trace visitor .schema (Pointer.child path (toString index)) depth value ++
        traceListed visitor path depth (index + 1) rest

end

/-- A node that a walk enters. -/
structure Position where
  path : String
  depth : Nat
  node : Json

def Event.position? : Event → Option Position
  | .enter path depth node => some ⟨path, depth, node⟩
  | .leave _ _ => none

/-- The schema positions of a schema whose pointer is `path`, in the order of the walk. -/
def positions (path : String) (schema : Json) : List Position :=
  (trace .still .schema path 0 schema).filterMap Event.position?

end SchemaMerge.Schema
