import SchemaMerge.Extraction
import SchemaMerge.Proofs.Mentions
import SchemaMerge.Proofs.SchemaDepth

/-!
Ways down a value. What stands at the end of a way is replaced without a change to anything that
stands apart from it (`Extraction.follow?_replaceAt_of_apart`), so replacements at ways of which none
is the start of another can be made in any order. The search for inline objects goes down such ways
and no others: in turns through `items` and through a member of `properties` (`Extraction.Way`).
-/

namespace SchemaMerge

namespace Json

/-- What stands at the end of a way down. -/
def follow? (value : Json) (way : List String) : Option Json :=
  way.foldlM get? value

@[simp]
theorem follow?_nil (value : Json) : value.follow? [] = some value := rfl

theorem follow?_cons (value : Json) (segment : String) (way : List String) :
    value.follow? (segment :: way) = (value.get? segment).bind (·.follow? way) := by
  rw [follow?, List.foldlM_cons]
  rfl

theorem follow?_append (value : Json) (way below : List String) :
    value.follow? (way ++ below) = (value.follow? way).bind (·.follow? below) := by
  rw [follow?, List.foldlM_append]
  rfl

theorem get?_eq_some {value found : Json} {key : String} (h : value.get? key = some found) :
    ∃ fields, value = .object fields ∧ fields.lookup key = some found := by
  cases value with
  | object fields => exact ⟨fields, rfl, h⟩
  | _ => cases h

/-- A way goes on through objects. -/
theorem follow?_cons_eq_some {value found : Json} {segment : String} {way : List String}
    (h : value.follow? (segment :: way) = some found) : ∃ fields inner, value = .object fields ∧
      fields.lookup segment = some inner ∧ inner.follow? way = some found := by
  rw [follow?_cons] at h
  obtain ⟨inner, hinner, hbelow⟩ := Option.bind_eq_some_iff.1 h
  obtain ⟨fields, rfl, hlookup⟩ := get?_eq_some hinner
  exact ⟨fields, inner, rfl, hlookup, hbelow⟩

theorem Ordered.get? {value found : Json} (h : value.Ordered) {key : String}
    (hfound : value.get? key = some found) : found.Ordered := by
  obtain ⟨fields, rfl, hlookup⟩ := get?_eq_some hfound
  exact h.2.lookup hlookup

theorem Ordered.follow? {value found : Json} (h : value.Ordered) {way : List String}
    (hfound : value.follow? way = some found) : found.Ordered := by
  induction way generalizing value with
  | nil => exact Option.some.inj hfound ▸ h
  | cons segment way ih =>
      rw [follow?_cons] at hfound
      obtain ⟨inner, hinner, hfound⟩ := Option.bind_eq_some_iff.1 hfound
      exact ih (h.get? hinner) hfound

/-- What stands further down is smaller. -/
theorem sizeOf_get?_lt {value found : Json} {key : String} (h : value.get? key = some found) :
    sizeOf found < sizeOf value := by
  obtain ⟨fields, rfl, hlookup⟩ := get?_eq_some h
  have hmem := List.sizeOf_lt_of_mem (Fields.mem_of_lookup hlookup)
  simp only [Prod.mk.sizeOf_spec] at hmem
  simp only [Json.object.sizeOf_spec]
  omega

theorem sizeOf_follow?_le {value found : Json} {way : List String}
    (h : value.follow? way = some found) : sizeOf found ≤ sizeOf value := by
  induction way generalizing value with
  | nil => exact Option.some.inj h ▸ Nat.le_refl _
  | cons segment way ih =>
      rw [follow?_cons] at h
      obtain ⟨inner, hinner, h⟩ := Option.bind_eq_some_iff.1 h
      exact Nat.le_trans (ih h) (Nat.le_of_lt (sizeOf_get?_lt hinner))

theorem sizeOf_follow?_lt {value found : Json} {way : List String} (hway : way ≠ [])
    (h : value.follow? way = some found) : sizeOf found < sizeOf value := by
  cases way with
  | nil => exact absurd rfl hway
  | cons segment way =>
      rw [follow?_cons] at h
      obtain ⟨inner, hinner, h⟩ := Option.bind_eq_some_iff.1 h
      exact Nat.lt_of_le_of_lt (sizeOf_follow?_le h) (sizeOf_get?_lt hinner)

end Json

namespace Extraction

/-- Neither way is a start of the other. -/
def Apart (way other : List String) : Prop :=
  ¬way <+: other ∧ ¬other <+: way

theorem apart_cons_iff {segment : String} {way other : List String} :
    Apart (segment :: way) (segment :: other) ↔ Apart way other := by
  simp [Apart]

/-- Ways that go on from ways apart are different. -/
theorem Apart.append_ne {way other : List String} (h : Apart way other)
    (below further : List String) : way ++ below ≠ other ++ further := by
  intro heq
  rcases List.prefix_or_prefix_of_prefix ⟨below, heq⟩ ⟨further, rfl⟩ with hway | hother
  · exact h.1 hway
  · exact h.2 hother

section Replacing

variable (new : Json) (way : List String) (value : Json)

@[simp]
theorem replaceAt_nil : replaceAt new [] value = new := by
  rw [replaceAt]

theorem replaceAt_cons_object (segment : String) (fields : List (String × Json)) :
    replaceAt new (segment :: way) (.object fields) =
      .object (Fields.mapValues
        (fun key value => if key = segment then replaceAt new way value else value) fields) := by
  rw [replaceAt]

theorem get?_replaceAt (segment key : String) :
    (replaceAt new (segment :: way) value).get? key =
      if key = segment then (value.get? key).map (replaceAt new way) else value.get? key := by
  cases value with
  | object fields =>
      rw [replaceAt_cons_object, Json.get?, Fields.lookup_mapValues]
      by_cases hkey : key = segment
      · simp only [if_pos hkey]
        rfl
      · simp only [if_neg hkey, Option.map_id']
        rfl
  | _ => split <;> rfl

/-- Above the replaced value stands what stood there, with the value replaced. -/
theorem follow?_replaceAt_above (below : List String) :
    (replaceAt new (way ++ below) value).follow? way =
      (value.follow? way).map (replaceAt new below) := by
  induction way generalizing value with
  | nil => rfl
  | cons segment way ih =>
      rw [List.cons_append, Json.follow?_cons, get?_replaceAt, if_pos rfl, Json.follow?_cons]
      cases value.get? segment with
      | none => rfl
      | some inner => exact ih inner

theorem follow?_replaceAt_self :
    (replaceAt new way value).follow? way = (value.follow? way).map fun _ => new := by
  have h := follow?_replaceAt_above new way value []
  rwa [List.append_nil, show replaceAt new [] = fun _ => new from funext (replaceAt_nil new)] at h

variable {way}

theorem follow?_replaceAt_of_apart {other : List String} (h : Apart way other) :
    (replaceAt new way value).follow? other = value.follow? other := by
  induction way generalizing value other with
  | nil => exact absurd List.nil_prefix h.1
  | cons segment way ih =>
      cases other with
      | nil => exact absurd List.nil_prefix h.2
      | cons key other =>
          rw [Json.follow?_cons, get?_replaceAt, Json.follow?_cons]
          split
          case isTrue hkey =>
            subst hkey
            cases value.get? key with
            | none => rfl
            | some inner => exact ih inner (apart_cons_iff.1 h)
          case isFalse => rfl

/-- Of two replacements of one value the second one counts. -/
theorem replaceAt_replaceAt (other : Json) :
    replaceAt new way (replaceAt other way value) = replaceAt new way value := by
  induction way generalizing value with
  | nil => simp
  | cons segment way ih =>
      cases value with
      | object fields =>
          rw [replaceAt_cons_object, replaceAt_cons_object, replaceAt_cons_object,
            Fields.mapValues_mapValues]
          refine congrArg Json.object (Fields.mapValues_congr fun field _ => ?_)
          split
          · exact ih field.2
          · rfl
      | _ => rfl

/-- Replacements apart from each other can be made in any order. -/
theorem replaceAt_comm (other : Json) {away : List String} (h : Apart way away) :
    replaceAt new way (replaceAt other away value) =
      replaceAt other away (replaceAt new way value) := by
  induction way generalizing value away with
  | nil => exact absurd List.nil_prefix h.1
  | cons segment way ih =>
      cases away with
      | nil => exact absurd List.nil_prefix h.2
      | cons key away =>
          cases value with
          | object fields =>
              rw [replaceAt_cons_object, replaceAt_cons_object, replaceAt_cons_object,
                replaceAt_cons_object, Fields.mapValues_mapValues, Fields.mapValues_mapValues]
              refine congrArg Json.object (Fields.mapValues_congr fun field _ => ?_)
              by_cases hsegment : field.1 = segment
              · by_cases hkey : field.1 = key
                · rw [if_pos hsegment, if_pos hkey, if_pos hkey, if_pos hsegment]
                  have hsame : segment = key := hsegment.symm.trans hkey
                  exact ih field.2 (apart_cons_iff.1 (hsame ▸ h))
                · rw [if_pos hsegment, if_neg hkey, if_neg hkey, if_pos hsegment]
              · rw [if_neg hsegment, if_neg hsegment]
          | _ => rfl

end Replacing

/-- Putting back what stands there changes nothing, if every key stands for one value. -/
theorem replaceAt_eq_self {way : List String} {value found : Json} (hordered : value.Ordered)
    (h : value.follow? way = some found) : replaceAt found way value = value := by
  induction way generalizing value with
  | nil => rw [replaceAt_nil, ← Option.some.inj h]
  | cons segment way ih =>
      obtain ⟨fields, inner, rfl, hlookup, hbelow⟩ := Json.follow?_cons_eq_some h
      rw [replaceAt_cons_object]
      refine congrArg Json.object (Fields.mapValues_eq_self fun field hfield => ?_)
      split
      case isTrue hkey =>
        have hone := hordered.1.lookup_eq hfield
        rw [hkey, hlookup] at hone
        rw [← Option.some.inj hone]
        exact ih (hordered.2.lookup hlookup) hbelow
      case isFalse => rfl

theorem ordered_replaceAt {new value : Json} (hnew : new.Ordered) (h : value.Ordered)
    (way : List String) : (replaceAt new way value).Ordered := by
  induction way generalizing value with
  | nil => rwa [replaceAt_nil]
  | cons segment way ih =>
      cases value with
      | object fields =>
          rw [Json.ordered_object] at h
          rw [replaceAt_cons_object, Json.ordered_object]
          refine ⟨h.1.mapValues _, fun field hfield => ?_⟩
          obtain ⟨old, hold, rfl⟩ := List.mem_map.1 hfield
          dsimp only
          split
          · exact ih (h.2 old hold)
          · exact h.2 old hold
      | _ => exact h

/-- The ways that the search takes, by the role of where they start, with the depth at which they
end. A way through `properties` ends at a member. -/
inductive Way : Schema.Role → Nat → List String → Prop where
  | here : Way .schema 0 []
  | items {depth : Nat} {way : List String} (h : Way .schema depth way) :
      Way .schema (depth + 1) ("items" :: way)
  | properties {depth : Nat} {way : List String} (h : Way .named depth way) :
      Way .schema (depth + 1) ("properties" :: way)
  | name {depth : Nat} {way : List String} (name : String) (h : Way .schema depth way) :
      Way .named depth (name :: way)

/-- Two steps lead one schema further down at most. -/
theorem Way.length_le {role : Schema.Role} {depth : Nat} {way : List String}
    (h : Way role depth way) : way.length ≤ 2 * depth + if role = .named then 1 else 0 := by
  induction h with
  | here => simp
  | items _ ih =>
      rw [if_neg (by decide)] at ih ⊢
      rw [List.length_cons]
      omega
  | properties _ ih =>
      rw [if_pos rfl] at ih
      rw [if_neg (by decide), List.length_cons]
      omega
  | name _ _ ih =>
      rw [if_neg (by decide)] at ih
      rw [if_pos rfl, List.length_cons]
      omega

theorem Way.of_items {depth : Nat} {way : List String} (h : Way .schema depth ("items" :: way)) :
    ∃ d, Way .schema d way := by
  generalize hall : "items" :: way = all at h
  cases h with
  | here => cases hall
  | items h => exact ⟨_, (List.cons.inj hall).2 ▸ h⟩
  | properties => exact absurd (List.cons.inj hall).1 (by decide)

theorem Way.of_properties {depth : Nat} {way : List String}
    (h : Way .schema depth ("properties" :: way)) : ∃ d, Way .named d way := by
  generalize hall : "properties" :: way = all at h
  cases h with
  | here => cases hall
  | items => exact absurd (List.cons.inj hall).1 (by decide)
  | properties h => exact ⟨_, (List.cons.inj hall).2 ▸ h⟩

/-- Below a schema on a way the way goes on from a schema. -/
theorem Way.exists_below {role : Schema.Role} {d e : Nat} {way below : List String}
    (h : Way role d way) (hall : Way role e (way ++ below)) : ∃ depth, Way .schema depth below := by
  induction h generalizing e with
  | here => exact ⟨e, hall⟩
  | items _ ih =>
      obtain ⟨_, hall⟩ := hall.of_items
      exact ih hall
  | properties _ ih =>
      obtain ⟨_, hall⟩ := hall.of_properties
      exact ih hall
  | name _ _ ih =>
      cases hall with
      | name _ hall => exact ih hall

section Searching

variable {pre way : List String} {node : Json}

theorem lookup_nodesBelow (pre : List String) (fields : List (String × Json)) (key : String) :
    (nodesBelow pre fields).lookup key =
      (fields.lookup key).map fun value => nodes (roleUnder key value) (pre ++ [key]) value := by
  induction fields with
  | nil => rfl
  | cons field rest ih =>
      obtain ⟨other, value⟩ := field
      rw [nodesBelow, Fields.lookup_cons, Fields.lookup_cons, ih]
      split
      case isTrue hkey =>
        subst hkey
        rfl
      case isFalse => rfl

/-- Below a key that the search goes through it comes to the nodes of an object only. -/
theorem mem_nodes_under {key : String} {role : Schema.Role}
    (hunder : ∀ fields, roleUnder key (.object fields) = role) {fields : List (String × Json)} :
    (way, node) ∈ ((nodesBelow pre fields).lookup key).getD [] ↔
      ∃ inner, fields.lookup key = some (.object inner) ∧
        (way, node) ∈ nodes role (pre ++ [key]) (.object inner) := by
  rw [lookup_nodesBelow]
  have hleaf : ∀ value, (∀ inner, value ≠ .object inner) →
      nodes (roleUnder key value) (pre ++ [key]) value = [] := by
    intro value hvalue
    cases value with
    | object inner => exact absurd rfl (hvalue inner)
    | _ => rfl
  cases hfound : fields.lookup key with
  | none => simp
  | some value =>
      rw [Option.map_some, Option.getD_some]
      constructor
      · intro h
        cases value with
        | object inner => exact ⟨inner, rfl, hunder inner ▸ h⟩
        | _ =>
            rw [hleaf _ (by simp)] at h
            cases h
      · rintro ⟨inner, heq, h⟩
        cases heq
        rwa [hunder inner]

theorem mem_nodes_object {fields : List (String × Json)} :
    (way, node) ∈ nodes .schema pre (.object fields) ↔
      way = pre ∧ node = .object fields ∨
      (∃ inner, fields.lookup "properties" = some (.object inner) ∧
        (way, node) ∈ nodes .named (pre ++ ["properties"]) (.object inner)) ∨
      ∃ inner, fields.lookup "items" = some (.object inner) ∧
        (way, node) ∈ nodes .schema (pre ++ ["items"]) (.object inner) := by
  have hproperties : ∀ inner, roleUnder "properties" (.object inner) = .named := fun _ => rfl
  have hitems : ∀ inner, roleUnder "items" (.object inner) = .schema := fun _ => rfl
  rw [← mem_nodes_under hproperties, ← mem_nodes_under hitems, nodes, List.mem_cons,
    List.mem_append, Prod.mk.injEq]

theorem mem_nodes_named {fields : List (String × Json)} :
    (way, node) ∈ nodes .named pre (.object fields) ↔
      ∃ field ∈ fields, (way, node) ∈ nodes .schema (pre ++ [field.1]) field.2 := by
  rw [nodes]
  induction fields with
  | nil => simp [nodesNamed]
  | cons field rest ih => rw [nodesNamed, List.mem_append, ih, List.exists_mem_cons_iff]

/-- Apart from objects there are nodes only where a schema is looked for. -/
theorem mem_nodes_other {role : Schema.Role} {value : Json}
    (hvalue : ∀ fields, value ≠ .object fields) (h : (way, node) ∈ nodes role pre value) :
    role = .schema ∧ way = pre ∧ node = value := by
  have hnodes : nodes role pre value = if role = .schema then [(pre, value)] else [] := by
    cases value with
    | object fields => exact absurd rfl (hvalue fields)
    | _ => rfl
  rw [hnodes] at h
  split at h
  case isTrue hrole => simpa [hrole] using h
  case isFalse => cases h

/-- The search takes a way to a node, which is a schema at the depth of the way. It comes to what
stands there, if no object has a key twice. -/
theorem exists_way_of_mem_nodes {value : Json} {role : Schema.Role} (depth : Nat)
    (h : (way, node) ∈ nodes role pre value) :
    ∃ d below, way = pre ++ below ∧ Way role d below ∧
      depth + d ∈ Schema.depths role depth value ∧
        (value.Ordered → value.follow? below = some node) := by
  induction value using Json.induction generalizing role pre depth with
  | object fields ih =>
      cases role with
      | schema =>
          rcases mem_nodes_object.1 h with ⟨rfl, rfl⟩ | ⟨inner, hinner, h⟩ | ⟨inner, hinner, h⟩
          · exact ⟨0, [], (List.append_nil _).symm, .here, Schema.mem_depths_node.2 (.inl rfl),
              fun _ => rfl⟩
          · obtain ⟨d, below, rfl, hway, hdepth, hfollow⟩ :=
              ih _ (Fields.mem_of_lookup hinner) (depth + 1) h
            refine ⟨d + 1, "properties" :: below, by rw [List.append_assoc, List.singleton_append],
              .properties hway, Schema.mem_depths_node.2 (.inr ⟨"properties", by decide, _, hinner, ?_⟩),
              fun hordered => ?_⟩
            · rwa [Nat.add_right_comm, Nat.add_assoc] at hdepth
            · rw [Json.follow?_cons, Json.get?, hinner]
              exact hfollow (hordered.2.lookup hinner)
          · obtain ⟨d, below, rfl, hway, hdepth, hfollow⟩ :=
              ih _ (Fields.mem_of_lookup hinner) (depth + 1) h
            refine ⟨d + 1, "items" :: below, by rw [List.append_assoc, List.singleton_append],
              .items hway, Schema.mem_depths_node.2 (.inr ⟨"items", by decide, _, hinner, ?_⟩),
              fun hordered => ?_⟩
            · rwa [Nat.add_right_comm, Nat.add_assoc] at hdepth
            · rw [Json.follow?_cons, Json.get?, hinner]
              exact hfollow (hordered.2.lookup hinner)
      | named =>
          obtain ⟨field, hfield, h⟩ := mem_nodes_named.1 h
          obtain ⟨d, below, rfl, hway, hdepth, hfollow⟩ := ih field hfield depth h
          refine ⟨d, field.1 :: below, by rw [List.append_assoc, List.singleton_append],
            .name _ hway, Schema.mem_depths_named.2 ⟨field, hfield, hdepth⟩, fun hordered => ?_⟩
          rw [Json.ordered_object] at hordered
          rw [Json.follow?_cons, Json.get?, hordered.1.lookup_eq hfield]
          exact hfollow (hordered.2 field hfield)
      | _ => cases h
  | _ =>
      obtain ⟨rfl, rfl, rfl⟩ := mem_nodes_other (by simp) h
      exact ⟨0, [], (List.append_nil _).symm, .here, List.mem_singleton_self _, fun _ => rfl⟩

end Searching

end Extraction

/-- The definitions stand in the components of a document. -/
theorem Document.follow?_toJson (document : Document) :
    document.toJson.follow? ["components", "schemas"] =
      some (.object document.definitions.entries) := by
  have hcomponents : document.toJson.get? "components" =
      some (.object document.components.entries) :=
    (document.get?_toJson "components").trans (if_pos rfl)
  have hschemas : (Json.object document.components.entries).get? "schemas" =
      some (.object document.definitions.entries) :=
    (document.get?_components "schemas").trans (if_pos rfl)
  rw [Json.follow?_cons, hcomponents, Option.bind_some, Json.follow?_cons, hschemas]
  rfl

end SchemaMerge
