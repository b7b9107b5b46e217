import SchemaMerge.Proofs.JsonText
import SchemaMerge.Proofs.NameMaps

/-!
When two values are the same: objects are compared as maps from keys to values, numbers by their
texts (`Json.Same`). The compact text lists the members of an object in the order in which the value
has them, so it identifies a value whose members are in order (`Json.same_iff_unified_eq`), and
every value without repeated keys is the same as one in order (`Json.same_inOrder`). Put together,
the text of the members in order is the same iff the values are
(`Json.compact_inOrder_eq_iff`).
-/

namespace SchemaMerge

section Relations

variable {α β γ : Type} {R S : α → β → Prop}

theorem forall₂_congr_of_mem {items : List α} {items' : List β}
    (h : ∀ item ∈ items, ∀ item' ∈ items', (R item item' ↔ S item item')) :
    List.Forall₂ R items items' ↔ List.Forall₂ S items items' := by
  rw [List.forall₂_iff_zip, List.forall₂_iff_zip]
  refine and_congr_right' (forall_congr' fun item => forall_congr' fun item' => ?_)
  refine imp_congr_right fun hpair => ?_
  obtain ⟨hitem, hitem'⟩ := List.of_mem_zip hpair
  exact h item hitem item' hitem'

/-- Both are missing, or both are there and have the same image. -/
theorem rel_iff_map_eq {f : α → γ} {g : β → γ} {x : Option α} {y : Option β}
    (h : ∀ a, x = some a → ∀ b, y = some b → (R a b ↔ f a = g b)) :
    Option.Rel R x y ↔ x.map f = y.map g := by
  cases x with
  | none =>
      cases y with
      | none => exact iff_of_true .none rfl
      | some b => exact iff_of_false nofun nofun
  | some a =>
      cases y with
      | none => exact iff_of_false nofun nofun
      | some b =>
          rw [Option.map_some, Option.map_some, Option.some.injEq, ← h a rfl b rfl]
          constructor
          · intro hrel
            cases hrel with
            | some hab => exact hab
          · exact .some

end Relations

namespace Json

/-- The two values are one value. -/
inductive Same : Json → Json → Prop where
  | null : Same .null .null
  | bool (value : Bool) : Same (.bool value) (.bool value)
  /-- Numbers count by what is written. -/
  | number {m n : Number} (h : m.text = n.text) : Same (.number m) (.number n)
  | string (value : String) : Same (.string value) (.string value)
  | array {items items' : List Json} (h : List.Forall₂ Same items items') :
      Same (.array items) (.array items')
  /-- Objects have the same keys, with the same values under them. -/
  | object {fields fields' : List (String × Json)}
      (h : ∀ key, Option.Rel Same (fields.lookup key) (fields'.lookup key)) :
      Same (.object fields) (.object fields')

/-- No object of the value has a key twice. -/
inductive DistinctKeys : Json → Prop where
  | null : DistinctKeys .null
  | bool (value : Bool) : DistinctKeys (.bool value)
  | number (value : Number) : DistinctKeys (.number value)
  | string (value : String) : DistinctKeys (.string value)
  | array {items : List Json} (h : ∀ item ∈ items, DistinctKeys item) : DistinctKeys (.array items)
  | object {fields : List (String × Json)} (hkeys : (Fields.keys fields).Nodup)
      (h : ∀ field ∈ fields, DistinctKeys field.2) : DistinctKeys (.object fields)

mutual

/-- The value with the members of every object in ascending order. Of two members with one key the
later one counts. -/
def inOrder : Json → Json
  | .array items => .array (itemsInOrder items)
  | .object fields => .object (Fields.ofList (fieldsInOrder fields))
  | value => value

def itemsInOrder : List Json → List Json
  | [] => []
  | item :: rest => inOrder item :: itemsInOrder rest

def fieldsInOrder : List (String × Json) → List (String × Json)
  | [] => []
  | (key, value) :: rest => (key, inOrder value) :: fieldsInOrder rest

end

theorem inOrder_array (items : List Json) :
    inOrder (.array items) = .array (items.map inOrder) := by
  rw [inOrder]
  refine congrArg Json.array ?_
  induction items with
  | nil => rfl
  | cons item rest ih => rw [itemsInOrder, ih, List.map_cons]

theorem inOrder_object (fields : List (String × Json)) :
    inOrder (.object fields) =
      .object (Fields.ofList (Fields.mapValues (fun _ => inOrder) fields)) := by
  have hfields : fieldsInOrder fields = Fields.mapValues (fun _ => inOrder) fields := by
    induction fields with
    | nil => rfl
    | cons field rest ih =>
        rw [fieldsInOrder, ih]
        rfl
  rw [inOrder, hfields]

theorem inOrder_eq_self {value : Json} (h : value.Ordered) : value.inOrder = value := by
  induction value using induction with
  | array items ih =>
      rw [inOrder_array]
      have hself : items.map inOrder = items.map id :=
        List.map_congr_left fun item hitem => ih item hitem (ordered_array.1 h item hitem)
      rw [hself, List.map_id]
  | object fields ih =>
      obtain ⟨hascending, hfields⟩ := ordered_object.1 h
      have hself : Fields.mapValues (fun _ => inOrder) fields = fields :=
        Fields.mapValues_eq_self fun field hfield => ih field hfield (hfields field hfield)
      rw [inOrder_object, hself, Fields.ofList_eq_self hascending]
  | _ => rfl

/-- What stands under a key does not depend on the order of the members. -/
theorem lookup_inOrder {fields : List (String × Json)} (h : (Fields.keys fields).Nodup)
    (key : String) : (Fields.ofList (Fields.mapValues (fun _ => inOrder) fields)).lookup key =
      (fields.lookup key).map inOrder := by
  have hmapped : (Fields.keys (Fields.mapValues (fun _ => inOrder) fields)).Nodup := by
    rwa [Fields.keys_mapValues]
  have hlookup := Fields.lookup_of_perm hmapped (NameMap.entries_ofList_perm hmapped) key
  rw [Fields.lookup_mapValues] at hlookup
  exact hlookup

theorem unified_inOrder_array_iff (items items' : List Json) :
    (array items).inOrder.unified = (array items').inOrder.unified ↔
      List.Forall₂ (fun item item' => item.inOrder.unified = item'.inOrder.unified)
        items items' := by
  rw [inOrder_array, inOrder_array, unified_array, unified_array, Json.array.injEq, List.map_map,
    List.map_map, ← List.forall₂_eq_eq_eq, List.forall₂_map_left_iff, List.forall₂_map_right_iff]
  rfl

/-- Members in order are written alike iff the same is written alike under every key. -/
theorem unified_inOrder_object_iff {fields fields' : List (String × Json)}
    (h : (Fields.keys fields).Nodup) (h' : (Fields.keys fields').Nodup) :
    (object fields).inOrder.unified = (object fields').inOrder.unified ↔
      ∀ key, (fields.lookup key).map (fun value => value.inOrder.unified) =
        (fields'.lookup key).map fun value => value.inOrder.unified := by
  rw [inOrder_object, inOrder_object, unified_object, unified_object, Json.object.injEq]
  have hlookup : ∀ {members : List (String × Json)}, (Fields.keys members).Nodup → ∀ key,
      (Fields.mapValues (fun _ => unified)
        (Fields.ofList (Fields.mapValues (fun _ => inOrder) members))).lookup key =
          (members.lookup key).map fun value => value.inOrder.unified := by
    intro members hmembers key
    rw [Fields.lookup_mapValues, lookup_inOrder hmembers, Option.map_map]
    rfl
  constructor
  · intro heq key
    rw [← hlookup h, heq, hlookup h']
  · intro heq
    refine ((Fields.ascending_ofList _).mapValues _).ext
      ((Fields.ascending_ofList _).mapValues _) fun key => ?_
    rw [hlookup h, hlookup h', heq]

attribute [simp] DistinctKeys.null DistinctKeys.bool DistinctKeys.number DistinctKeys.string

@[simp]
theorem distinctKeys_array_iff {items : List Json} :
    DistinctKeys (.array items) ↔ ∀ item ∈ items, DistinctKeys item := by
  constructor
  · intro h
    cases h with
    | array hitems => exact hitems
  · exact .array

@[simp]
theorem distinctKeys_object_iff {fields : List (String × Json)} :
    DistinctKeys (.object fields) ↔
      (Fields.keys fields).Nodup ∧ ∀ field ∈ fields, DistinctKeys field.2 := by
  constructor
  · intro h
    cases h with
    | object hkeys hfields => exact ⟨hkeys, hfields⟩
  · exact fun h => .object h.1 h.2

theorem same_array_iff {items items' : List Json} :
    Same (.array items) (.array items') ↔ List.Forall₂ Same items items' := by
  constructor
  · intro h
    cases h with
    | array hitems => exact hitems
  · exact .array

theorem same_object_iff {fields fields' : List (String × Json)} :
    Same (.object fields) (.object fields') ↔
      ∀ key, Option.Rel Same (fields.lookup key) (fields'.lookup key) := by
  constructor
  · intro h
    cases h with
    | object hfields => exact hfields
  · exact .object

/-- Values are the same iff they are written alike once their members are in order. -/
theorem same_iff {u v : Json} (hu : u.DistinctKeys) (hv : v.DistinctKeys) :
    Same u v ↔ u.inOrder.unified = v.inOrder.unified := by
  induction u using induction generalizing v with
  | null =>
      cases v with
      | null => exact iff_of_true .null rfl
      | _ => exact iff_of_false nofun nofun
  | bool value =>
      cases v with
      | bool value' =>
          constructor <;> intro h <;> cases h
          · rfl
          · exact .bool value
      | _ => exact iff_of_false nofun nofun
  | number value =>
      cases v with
      | number value' =>
          constructor
          · intro h
            cases h with
            | number htext => exact congrArg Json.number (Number.unified_eq_iff.2 htext)
          · exact fun h => .number (Number.unified_eq_iff.1 (Json.number.inj h))
      | _ => exact iff_of_false nofun nofun
  | string value =>
      cases v with
      | string value' =>
          constructor <;> intro h <;> cases h
          · rfl
          · exact .string value
      | _ => exact iff_of_false nofun nofun
  | array items ih =>
      cases v with
      | array items' =>
          have hitems := distinctKeys_array_iff.1 hu
          have hitems' := distinctKeys_array_iff.1 hv
          rw [same_array_iff, unified_inOrder_array_iff]
          exact forall₂_congr_of_mem fun item hitem item' hitem' =>
            ih item hitem (hitems item hitem) (hitems' item' hitem')
      | _ => exact iff_of_false nofun nofun
  | object fields ih =>
      cases v with
      | object fields' =>
          obtain ⟨hkeys, hfields⟩ := distinctKeys_object_iff.1 hu
          obtain ⟨hkeys', hfields'⟩ := distinctKeys_object_iff.1 hv
          rw [same_object_iff, unified_inOrder_object_iff hkeys hkeys']
          refine forall_congr' fun key => rel_iff_map_eq fun value hvalue value' hvalue' => ?_
          have hfield := Fields.mem_of_lookup hvalue
          have hfield' := Fields.mem_of_lookup hvalue'
          exact ih _ hfield (hfields _ hfield) (hfields' _ hfield')
      | _ => exact iff_of_false nofun nofun

/-- The text of the members in order identifies a value, and so does the text of a value whose
members are in order. -/
theorem compact_inOrder_eq_iff {u v : Json} (hu : u.DistinctKeys) (hv : v.DistinctKeys) :
    (u.inOrder.compact = v.inOrder.compact ↔ Same u v) ∧
      (u.Ordered → v.Ordered → (u.compact = v.compact ↔ Same u v)) := by
  have hiff : u.inOrder.compact = v.inOrder.compact ↔ Same u v :=
    compact_eq_iff.trans (same_iff hu hv).symm
  refine ⟨hiff, fun hordered hordered' => ?_⟩
  rwa [inOrder_eq_self hordered, inOrder_eq_self hordered'] at hiff

/-- A value whose members are out of order. -/
def untidy : Json :=
  .record [("b", .array [.ofNat 10, .null]),
    ("a", .record [("d", .bool true), ("c", .string "10")])]

/-- The same value in order. -/
def tidy : Json :=
  .record [("a", .record [("c", .string "10"), ("d", .bool true)]),
    ("b", .array [.ofNat 10, .null])]

/-- A value in order that differs in a number written as a string. -/
def quoted : Json :=
  .record [("a", .record [("c", .string "10"), ("d", .bool true)]),
    ("b", .array [.string "10", .null])]

theorem compact_inOrder_eq_iff_tidy :
    untidy.DistinctKeys ∧ tidy.DistinctKeys ∧ quoted.DistinctKeys ∧
      untidy.compact ≠ tidy.compact ∧ Same untidy tidy ∧
      tidy.Ordered ∧ quoted.Ordered ∧ ¬Same tidy quoted := by
  have huntidy : untidy.DistinctKeys := by
    simp [untidy, record, ofNat, Fields.keys]
  have htidy : tidy.DistinctKeys := by
    simp [tidy, record, ofNat, Fields.keys]
  have hquoted : quoted.DistinctKeys := by
    simp [quoted, record, Fields.keys]
  have hordered : tidy.Ordered := by
    simp +decide [tidy, record, ofNat, Fields.Ascending]
  have hordered' : quoted.Ordered := by
    simp +decide [quoted, record, Fields.Ascending]
  refine ⟨huntidy, htidy, hquoted, by decide +kernel,
    (compact_inOrder_eq_iff huntidy htidy).1.1 (by decide +kernel), hordered, hordered', ?_⟩
  rw [← (compact_inOrder_eq_iff htidy hquoted).2 hordered hordered']
  decide +kernel

end Json

end SchemaMerge
