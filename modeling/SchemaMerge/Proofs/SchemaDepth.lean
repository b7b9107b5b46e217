import Mathlib.Data.List.Basic
import SchemaMerge.Key
import SchemaMerge.Proofs.SchemaEdit

/-!
How deeply a schema is nested. The depths at which a walk enters a schema do not depend on where the
schema stands (`Schema.filterMap_trace`), nor on what stands under keywords that hold no schemas
(`Schema.depths_edit`). So a definition is as deep after its references have been repointed as it
was before, whatever it is called.
-/

namespace SchemaMerge

namespace Schema

mutual

/-- The depths of the schema positions of a value, in the order of the walk. -/
def depths (role : Role) (depth : Nat) : Json → List Nat
  | .object fields =>
      match role with
      | .schema => depth :: inVisitOrder (depthsFields depth fields)
      | .named => depthsNamed depth fields
      | _ => []
  | .array items =>
      match role with
      | .schema => [depth]
      | .listed => depthsListed depth items
      | _ => []
  | _ => if role = .schema then [depth] else []

def depthsFields (depth : Nat) : List (String × Json) → List (String × List Nat)
  | [] => []
  | (keyword, value) :: rest =>
      (keyword, depths (roleUnder keyword value) (depth + 1) value) :: depthsFields depth rest

def depthsNamed (depth : Nat) : List (String × Json) → List Nat
  | [] => []
  | (_, value) :: rest => depths .schema depth value ++ depthsNamed depth rest

def depthsListed (depth : Nat) : List Json → List Nat
  | [] => []
  | value :: rest => depths .schema depth value ++ depthsListed depth rest

end

/-- The depth of the node that a call enters. -/
def Event.depth? (event : Event) : Option Nat :=
  event.position?.map (·.depth)

theorem filterMap_inVisitOrder {α β : Type} (f : α → Option β) (found : List (String × List α)) :
    (inVisitOrder found).filterMap f =
      inVisitOrder (Fields.mapValues (fun _ items => items.filterMap f) found) := by
  rw [inVisitOrder, List.filterMap_flatMap, inVisitOrder]
  refine List.flatMap_congr fun keyword _ => ?_
  rw [Fields.lookup_mapValues]
  cases found.lookup keyword <;> rfl

mutual

theorem filterMap_trace (role : Role) (path : String) (depth : Nat) : ∀ value : Json,
    (trace .still role path depth value).filterMap Event.depth? = depths role depth value
  | .object fields => by
      cases role with
      | schema =>
          simp only [trace, Visitor.still, depths, List.filterMap_cons, List.filterMap_append,
            List.filterMap_nil, Event.depth?, Event.position?, Option.map_some, Option.map_none,
            List.append_nil]
          have hbelow := filterMap_traceFields path depth fields
          rw [← hbelow, ← filterMap_inVisitOrder]
          rfl
      | named => exact filterMap_traceNamed path depth fields
      | _ => rfl
  | .array items => by
      cases role with
      | listed => exact filterMap_traceListed path depth 0 items
      | _ => rfl
  | .null => by cases role <;> rfl
  | .bool _ => by cases role <;> rfl
  | .number _ => by cases role <;> rfl
  | .string _ => by cases role <;> rfl

theorem filterMap_traceFields (path : String) (depth : Nat) : ∀ fields,
    Fields.mapValues (fun _ events => events.filterMap Event.depth?)
      (traceFields .still path depth fields) = depthsFields depth fields
  | [] => rfl
  | (keyword, value) :: rest => by
      rw [traceFields, depthsFields, ← filterMap_trace _ (Pointer.child path keyword),
        ← filterMap_traceFields path depth rest]
      rfl

theorem filterMap_traceNamed (path : String) (depth : Nat) : ∀ fields,
    (traceNamed .still path depth fields).filterMap Event.depth? = depthsNamed depth fields
  | [] => rfl
  | (key, value) :: rest => by
      rw [traceNamed, depthsNamed, List.filterMap_append, filterMap_trace, filterMap_traceNamed]

theorem filterMap_traceListed (path : String) (depth index : Nat) : ∀ items,
    (traceListed .still path depth index items).filterMap Event.depth? = depthsListed depth items
  | [] => rfl
  | value :: rest => by
      rw [traceListed, depthsListed, List.filterMap_append, filterMap_trace, filterMap_traceListed]

end

theorem depthsFields_eq (depth : Nat) (fields : List (String × Json)) :
    depthsFields depth fields = Fields.mapValues
      (fun keyword value => depths (roleUnder keyword value) (depth + 1) value) fields := by
  induction fields with
  | nil => rfl
  | cons field rest ih =>
      rw [depthsFields, ih]
      rfl

theorem depthsNamed_eq (depth : Nat) (fields : List (String × Json)) :
    depthsNamed depth fields = fields.flatMap fun field => depths .schema depth field.2 := by
  induction fields with
  | nil => rfl
  | cons field rest ih => rw [depthsNamed, ih, List.flatMap_cons]

theorem depthsListed_eq (depth : Nat) (items : List Json) :
    depthsListed depth items = items.flatMap (depths .schema depth) := by
  induction items with
  | nil => rfl
  | cons item rest ih => rw [depthsListed, ih, List.flatMap_cons]

theorem mem_inVisitOrder {α : Type} {found : List (String × List α)} {x : α} :
    x ∈ inVisitOrder found ↔ ∃ keyword ∈ visitOrder, x ∈ (found.lookup keyword).getD [] :=
  List.mem_flatMap

/-- A node is at its own depth, and what stands under its keywords is one deeper. -/
theorem mem_depths_node {depth d : Nat} {fields : List (String × Json)} :
    d ∈ depths .schema depth (.object fields) ↔ d = depth ∨ ∃ keyword ∈ visitOrder,
      ∃ value, fields.lookup keyword = some value ∧
        d ∈ depths (roleUnder keyword value) (depth + 1) value := by
  rw [depths, List.mem_cons, mem_inVisitOrder, depthsFields_eq]
  refine or_congr_right (exists_congr fun keyword => and_congr_right' ?_)
  rw [Fields.lookup_mapValues]
  cases fields.lookup keyword <;> simp

theorem mem_depths_named {depth d : Nat} {fields : List (String × Json)} :
    d ∈ depths .named depth (.object fields) ↔ ∃ field ∈ fields, d ∈ depths .schema depth field.2 := by
  rw [depths, depthsNamed_eq, List.mem_flatMap]

theorem mem_depths_listed {depth d : Nat} {items : List Json} :
    d ∈ depths .listed depth (.array items) ↔ ∃ item ∈ items, d ∈ depths .schema depth item := by
  rw [depths, depthsListed_eq, List.mem_flatMap]

/-- What is no object has no schemas below it. -/
theorem depths_schema_other {value : Json} (h : ∀ fields, value ≠ .object fields) (depth : Nat) :
    depths .schema depth value = [depth] := by
  cases value with
  | object fields => exact absurd rfl (h fields)
  | _ => rfl

/-- From another depth on, every depth is that much further down. -/
theorem depths_add (value : Json) (role : Role) (depth further : Nat) :
    depths role (depth + further) value = (depths role depth value).map (· + further) := by
  induction value using Json.induction generalizing role depth with
  | array items ih =>
      cases role with
      | listed =>
          rw [depths, depths, depthsListed_eq, depthsListed_eq, List.map_flatMap]
          exact List.flatMap_congr fun item hitem => ih item hitem .schema depth
      | _ => rfl
  | object fields ih =>
      cases role with
      | schema =>
          rw [depths, depths, depthsFields_eq, depthsFields_eq, List.map_cons, inVisitOrder,
            inVisitOrder, List.map_flatMap]
          refine congrArg (_ :: ·) (List.flatMap_congr fun keyword _ => ?_)
          rw [Fields.lookup_mapValues, Fields.lookup_mapValues]
          cases hfound : fields.lookup keyword with
          | none => rfl
          | some value =>
              have hbelow := ih _ (Fields.mem_of_lookup hfound) (roleUnder keyword value) (depth + 1)
              rw [Nat.add_right_comm] at hbelow
              exact hbelow
      | named =>
          rw [depths, depths, depthsNamed_eq, depthsNamed_eq, List.map_flatMap]
          exact List.flatMap_congr fun field hfield => ih field hfield .schema depth
      | _ => rfl
  | _ => cases role <;> rfl

/-- An edit of what holds no schemas leaves the depths alone. -/
theorem depths_edit {k : String → Json → Json} (hk : IsLocal k) (value : Json) (role : Role)
    (depth : Nat) :
    depths role depth (edit (Fields.mapValues k) role value) = depths role depth value := by
  induction value using Json.induction generalizing role depth with
  | array items ih =>
      cases role with
      | listed =>
          rw [edit_array, depths, depths, depthsListed_eq, depthsListed_eq, List.flatMap_map]
          exact List.flatMap_congr fun item hitem => ih item hitem .schema depth
      | _ => rfl
  | object fields ih =>
      cases role with
      | schema =>
          rw [edit_node, depths, depths, depthsFields_eq, depthsFields_eq,
            Fields.mapValues_mapValues, Fields.mapValues_mapValues]
          refine congrArg (fun found => depth :: inVisitOrder found) (Fields.mapValues_congr ?_)
          intro field hfield
          rcases hk field.1 with hsame | hleaf
          · rw [hsame, editField, roleUnder_edit]
            exact ih field hfield _ _
          · have hnone : ∀ other, depths .leaf (depth + 1) other = [] := by
              intro other
              cases other <;> rfl
            rw [hleaf, hleaf, hnone, hnone]
      | named =>
          rw [edit_object _ (by decide), depths, depths, depthsNamed_eq, depthsNamed_eq,
            Fields.mapValues, List.flatMap_map]
          exact List.flatMap_congr fun field hfield => ih field hfield .schema depth
      | _ => rfl
  | _ => rfl

end Schema

namespace Key

/-- A schema is too deep iff it is nested at some depth beyond the limit. -/
theorem tooDeep?_eq_none_iff {limit : UInt64} {path : String} {schema : Json} :
    tooDeep? limit path schema = none ↔
      ∀ depth ∈ Schema.depths .schema 0 schema, depth ≤ limit.toNat := by
  rw [tooDeep?, List.find?_eq_none, ← Schema.filterMap_trace .schema path]
  constructor
  · intro hall depth hdepth
    obtain ⟨event, hevent, heq⟩ := List.mem_filterMap.1 hdepth
    rw [Schema.Event.depth?, Option.map_eq_some_iff] at heq
    obtain ⟨position, hposition, rfl⟩ := heq
    have hshallow := hall position (List.mem_filterMap.2 ⟨event, hevent, hposition⟩)
    simpa using hshallow
  · intro hall position hposition
    obtain ⟨event, hevent, heq⟩ := List.mem_filterMap.1 hposition
    have hshallow := hall position.depth
      (List.mem_filterMap.2 ⟨event, hevent, by rw [Schema.Event.depth?, heq]; rfl⟩)
    simpa using hshallow

end Key

end SchemaMerge
