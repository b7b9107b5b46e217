import SchemaMerge.Proofs.Groups
import SchemaMerge.Proofs.IgnoredChanges
import SchemaMerge.Proofs.Mentions

/-!
The walk into the normal form as it is made: it looks at the depth of every node that it enters, and
changes nodes on the way. On entering a node it takes out what the tier ignores, marks references and
orders the required names; then it goes through what is left, in the order of the walk, and puts each
result in its place; on leaving it orders the branches (`Key.walk?`). None of this changes which nodes
it comes to, so it stops at the first position of the schema as it was that is nested too deeply, at
every tier at the same one, and else it ends with the normal form (`Key.walk?_eq`).
-/

namespace SchemaMerge

open Schema (Role Visitor Position roleUnder visitOrder combinators edit editField)

namespace Key

/-- What the walk makes of the members of a node when it enters the node. -/
def entered (tier : MergeTier) (self : String) (fields : List (String × Json)) :
    List (String × Json) :=
  Fields.mapValues
    (fun keyword value =>
      match value with
      | .string text => if keyword = "$ref" ∧ text = self then .string selfMark else value
      | .array items =>
          if tier ≠ .exact ∧ keyword = "required" then .array (sortOn Json.compact items) else value
      | _ => value)
    (fields.filter fun field => keeps tier field.1)

/-- What the walk makes of the members of a node when it leaves the node. -/
def left (tier : MergeTier) (fields : List (String × Json)) : List (String × Json) :=
  Fields.mapValues
    (fun keyword value =>
      match value with
      | .array items =>
          if tier ≠ .exact ∧ keyword ∈ combinators then .array (sortOn Json.compact items)
          else value
      | _ => value)
    fields

/-- Puts what came out of the walk below a keyword in its place, if the keyword is there. -/
def putBelow? (outcomes : List (String × Except Error Json)) (fields : List (String × Json))
    (keyword : String) : Except Error (List (String × Json)) :=
  match outcomes.lookup keyword with
  | some outcome => do
      let result ← outcome
      return Fields.mapValues (fun key value => if key = keyword then result else value) fields
  | none => .ok fields

mutual

/-- The walk with a guard at every node. Entering a node leaves alone what holds schemas, so the
outcomes below its keywords are those for the members that it had, less the ones taken out. -/
def walk? (limit : UInt64) (tier : MergeTier) (self : String) (role : Role) (path : String)
    (depth : Nat) : Json → Except Error Json
  | .object fields =>
      match role with
      | .schema =>
          if limit.toNat < depth then .error (.tooDeep path limit)
          else do
            let outcomes := (walkFields? limit tier self path depth fields).filter fun outcome =>
              keeps tier outcome.1
            let rebuilt ← visitOrder.foldlM (putBelow? outcomes) (entered tier self fields)
            return .object (left tier rebuilt)
      | .named => do
          return .object (← walkNamed? limit tier self path depth fields)
      | _ => .ok (.object fields)
  | .array items =>
      match role with
      | .schema => if limit.toNat < depth then .error (.tooDeep path limit) else .ok (.array items)
      | .listed => do
          return .array (← walkListed? limit tier self path depth 0 items)
      | _ => .ok (.array items)
  | value =>
      match role with
      | .schema => if limit.toNat < depth then .error (.tooDeep path limit) else .ok value
      | _ => .ok value

/-- The outcomes below each keyword of a node. -/
def walkFields? (limit : UInt64) (tier : MergeTier) (self path : String) (depth : Nat) :
    List (String × Json) → List (String × Except Error Json)
  | [] => []
  | (keyword, value) :: rest =>
      (keyword, walk? limit tier self (roleUnder keyword value) (Pointer.child path keyword)
        (depth + 1) value) :: walkFields? limit tier self path depth rest

def walkNamed? (limit : UInt64) (tier : MergeTier) (self path : String) (depth : Nat) :
    List (String × Json) → Except Error (List (String × Json))
  | [] => .ok []
  | (key, value) :: rest => do
      let result ← walk? limit tier self .schema (Pointer.child path key) depth value
      return (key, result) :: (← walkNamed? limit tier self path depth rest)

def walkListed? (limit : UInt64) (tier : MergeTier) (self path : String) (depth index : Nat) :
    List Json → Except Error (List Json)
  | [] => .ok []
  | value :: rest => do
      let result ← walk? limit tier self .schema (Pointer.child path (toString index)) depth value
      return result :: (← walkListed? limit tier self path depth (index + 1) rest)

end

/-- A result that there is only if none of the positions is nested too deeply. -/
def reaching {α : Type} (limit : UInt64) (positions : List Position) (result : α) :
    Except Error α :=
  match positions.find? fun position => limit.toNat < position.depth with
  | some position => .error (.tooDeep position.path limit)
  | none => .ok result

section Reaching

variable {α β : Type} (limit : UInt64)

theorem reaching_cons (position : Position) (positions : List Position) (result : α) :
    reaching limit (position :: positions) result =
      if limit.toNat < position.depth then .error (.tooDeep position.path limit)
      else reaching limit positions result := by
  rw [reaching, List.find?_cons]
  by_cases hdeep : limit.toNat < position.depth
  · simp [hdeep]
  · simp [hdeep, reaching]

/-- What is done after some positions stops at the first position of all. -/
theorem reaching_bind (positions further : List Position) (result : α) (f : α → β) :
    (reaching limit positions result >>= fun a => reaching limit further (f a)) =
      reaching limit (positions ++ further) (f result) := by
  induction positions with
  | nil => rfl
  | cons position positions ih =>
      rw [List.cons_append, reaching_cons, reaching_cons]
      split
      case isTrue => rfl
      case isFalse => exact ih

theorem reaching_map (positions : List Position) (result : α) (f : α → β) :
    (do return f (← reaching limit positions result)) = reaching limit positions (f result) := by
  have h := reaching_bind limit positions [] result f
  rwa [List.append_nil] at h

end Reaching

end Key

namespace Schema

/-- The schema positions of a value that has a role, in the order of the walk. -/
def seen (role : Role) (path : String) (depth : Nat) (value : Json) : List Position :=
  (trace .still role path depth value).filterMap Event.position?

theorem traceFields_eq (visitor : Visitor) (path : String) (depth : Nat)
    (fields : List (String × Json)) :
    traceFields visitor path depth fields = Fields.mapValues (fun keyword value =>
      trace visitor (roleUnder keyword value) (Pointer.child path keyword) (depth + 1) value)
      fields := by
  induction fields with
  | nil => rfl
  | cons field rest ih =>
      rw [traceFields, ih]
      rfl

theorem seen_node (path : String) (depth : Nat) (fields : List (String × Json)) :
    seen .schema path depth (.object fields) = ⟨path, depth, .object fields⟩ ::
      visitOrder.flatMap fun keyword => ((fields.lookup keyword).map fun value =>
        seen (roleUnder keyword value) (Pointer.child path keyword) (depth + 1) value).getD [] := by
  have htrace : trace .still .schema path depth (.object fields) =
      .enter path depth (.object fields) ::
        (inVisitOrder (traceFields .still path depth fields) ++ [.leave path depth]) := by
    rw [trace]
    rfl
  rw [seen, htrace, traceFields_eq, List.filterMap_cons, List.filterMap_append,
    filterMap_inVisitOrder, Fields.mapValues_mapValues, inVisitOrder]
  simp only [Event.position?, List.filterMap_cons, List.filterMap_nil, List.append_nil,
    Fields.lookup_mapValues]
  rfl

/-- Keywords that the walk does not go through hold no schemas. -/
theorem roleUnder_of_not_mem {keyword : String} (h : keyword ∉ visitOrder) (value : Json) :
    roleUnder keyword value = .leaf := by
  simp only [visitOrder, List.mem_append, List.mem_singleton, not_or] at h
  obtain ⟨⟨⟨hmap, hsingle⟩, hlist⟩, hitems⟩ := h
  cases value <;> simp [roleUnder, hmap, hsingle, hlist, hitems]

end Schema

namespace Key

variable {limit : UInt64} {tier : MergeTier} {self : String}

theorem lookup_walkFields? (path : String) (depth : Nat) (fields : List (String × Json))
    (keyword : String) : (walkFields? limit tier self path depth fields).lookup keyword =
      (fields.lookup keyword).map fun value =>
        walk? limit tier self (roleUnder keyword value) (Pointer.child path keyword) (depth + 1)
          value := by
  induction fields with
  | nil => rfl
  | cons field rest ih =>
      obtain ⟨key, value⟩ := field
      rw [walkFields?, Fields.lookup_cons, Fields.lookup_cons, ih]
      split
      case isTrue hkey =>
        subst hkey
        rfl
      case isFalse => rfl

/-- The walk goes through the keywords in their order. What is below each of them, if it is there,
comes out of the walk unless a position in it is too deep. -/
theorem foldlM_putBelow? {outcomes : List (String × Except Error Json)}
    {below : String → Option (List Position × Json)} {keywords : List String}
    (h : ∀ keyword ∈ keywords, outcomes.lookup keyword =
      (below keyword).map fun found => reaching limit found.1 found.2)
    (fields : List (String × Json)) :
    keywords.foldlM (putBelow? outcomes) fields =
      reaching limit (keywords.flatMap fun keyword => ((below keyword).map (·.1)).getD [])
        (Fields.mapValues (fun key value =>
          if key ∈ keywords then ((below key).map (·.2)).getD value else value) fields) := by
  induction keywords generalizing fields with
  | nil =>
      have hsame : Fields.mapValues (fun key value =>
          if key ∈ ([] : List String) then ((below key).map (·.2)).getD value else value) fields =
            fields :=
        Fields.mapValues_eq_self fun _ _ => if_neg List.not_mem_nil
      rw [hsame]
      rfl
  | cons keyword keywords ih =>
      obtain ⟨hkeyword, hrest⟩ := List.forall_mem_cons.1 h
      rw [List.foldlM_cons, putBelow?, hkeyword, List.flatMap_cons]
      cases hbelow : below keyword with
      | none =>
          have hfields : Fields.mapValues (fun key value =>
              if key ∈ keyword :: keywords then ((below key).map (·.2)).getD value else value)
                fields =
              Fields.mapValues (fun key value =>
                if key ∈ keywords then ((below key).map (·.2)).getD value else value) fields := by
            refine Fields.mapValues_congr fun field _ => ?_
            by_cases hkey : field.1 = keyword
            · simp [hkey, hbelow]
            · simp [hkey]
          rw [hfields]
          exact ih hrest fields
      | some found =>
          have hfields : ∀ result, found.2 = result → Fields.mapValues (fun key value =>
              if key ∈ keywords then ((below key).map (·.2)).getD value else value)
                (Fields.mapValues (fun key value => if key = keyword then result else value)
                  fields) =
              Fields.mapValues (fun key value =>
                if key ∈ keyword :: keywords then ((below key).map (·.2)).getD value else value)
                fields := by
            rintro result rfl
            rw [Fields.mapValues_mapValues]
            refine Fields.mapValues_congr fun field _ => ?_
            by_cases hkey : field.1 = keyword
            · simp [hkey, hbelow]
            · simp [hkey]
          rw [← hfields found.2 rfl]
          simp only [Option.map_some, Option.getD_some, bind_assoc, pure_bind, ih hrest]
          exact reaching_bind limit found.1 _ found.2 _

/-- Below no keyword that the walk goes through stands what it changes on entering a node, and what it
orders on leaving stands below one of them. So both together make the normal form of a node. -/
theorem left_entered {fields : List (String × Json)} (h : Fields.Ascending fields) :
    left tier (Fields.mapValues (fun key value =>
      if key ∈ visitOrder then
        ((fields.lookup key).map (editField (normalFields tier self) key)).getD value
      else value) (entered tier self fields)) =
        normalFields tier self (Fields.mapValues (editField (normalFields tier self)) fields) := by
  have hreference : "$ref" ∉ visitOrder := by decide
  have hrequired : "required" ∉ visitOrder := by decide
  have hbranches : ∀ keyword ∈ combinators, keyword ∈ visitOrder := by decide
  rw [left, entered, normalFields, Fields.filter_mapValues, Fields.mapValues_mapValues,
    Fields.mapValues_mapValues, Fields.mapValues_mapValues]
  refine Fields.mapValues_congr fun field hkept => ?_
  obtain ⟨keyword, value⟩ := field
  have hvalue := h.lookup_eq (List.mem_filter.1 hkept).1
  by_cases hkeyword : keyword ∈ visitOrder
  · have hmark : keyword ≠ "$ref" := ne_of_mem_of_not_mem hkeyword hreference
    have hlist : keyword ≠ "required" := ne_of_mem_of_not_mem hkeyword hrequired
    simp only [hkeyword, if_true, hvalue, Option.map_some, Option.getD_some]
    cases editField (normalFields tier self) keyword value <;>
      simp [normalField, ignoresOrder, hmark, hlist]
  · have hbranch : keyword ∉ combinators := fun h => hkeyword (hbranches keyword h)
    have hleaf : editField (normalFields tier self) keyword value = value := by
      rw [editField, Schema.roleUnder_of_not_mem hkeyword, Schema.edit_leaf]
    simp only [hkeyword, if_false, hleaf]
    cases value with
    | string text =>
        by_cases hmark : keyword = "$ref" ∧ text = self <;> simp [normalField, hmark]
    | array items =>
        by_cases hlist : keyword = "required"
        · subst hlist
          by_cases htier : tier = .exact <;> simp [normalField, ignoresOrder, hbranch, htier]
        · simp [normalField, ignoresOrder, hbranch, hlist]
    | _ => rfl

theorem walkNamed?_eq {fields : List (String × Json)}
    (h : ∀ field ∈ fields, ∀ path depth, walk? limit tier self .schema path depth field.2 =
      reaching limit (Schema.seen .schema path depth field.2)
        (edit (normalFields tier self) .schema field.2)) (path : String) (depth : Nat) :
    walkNamed? limit tier self path depth fields =
      reaching limit ((Schema.traceNamed .still path depth fields).filterMap
        Schema.Event.position?)
        (Fields.mapValues (fun _ => edit (normalFields tier self) .schema) fields) := by
  induction fields with
  | nil => rfl
  | cons field rest ih =>
      obtain ⟨hfield, hrest⟩ := List.forall_mem_cons.1 h
      simp only [walkNamed?, hfield, ih hrest, reaching_map]
      rw [reaching_bind, Schema.traceNamed, List.filterMap_append]
      rfl

theorem walkListed?_eq {items : List Json}
    (h : ∀ item ∈ items, ∀ path depth, walk? limit tier self .schema path depth item =
      reaching limit (Schema.seen .schema path depth item)
        (edit (normalFields tier self) .schema item)) (path : String) (depth index : Nat) :
    walkListed? limit tier self path depth index items =
      reaching limit ((Schema.traceListed .still path depth index items).filterMap
        Schema.Event.position?) (items.map (edit (normalFields tier self) .schema)) := by
  induction items generalizing index with
  | nil => rfl
  | cons item rest ih =>
      obtain ⟨hitem, hrest⟩ := List.forall_mem_cons.1 h
      simp only [walkListed?, hitem, ih hrest, reaching_map]
      rw [reaching_bind, Schema.traceListed, List.filterMap_append]
      rfl

/-- The guard looks at the positions of the value as it was, and only a value that has none nested too
deeply comes out of the walk, edited at every node. -/
theorem walk?_eq {value : Json} (h : value.Ordered) (role : Role) (path : String) (depth : Nat) :
    walk? limit tier self role path depth value =
      reaching limit (Schema.seen role path depth value)
        (edit (normalFields tier self) role value) := by
  induction value using Json.induction generalizing role path depth with
  | array items ih =>
      rw [Json.ordered_array] at h
      cases role with
      | schema => exact (reaching_cons limit ⟨path, depth, _⟩ [] _).symm
      | listed =>
          have hitems := walkListed?_eq (fun item hitem => ih item hitem (h item hitem) .schema)
            path depth 0
          rw [walk?, hitems, reaching_map, Schema.edit_array, Role.item, Schema.seen, Schema.trace]
      | _ => rfl
  | object fields ih =>
      obtain ⟨hascending, hvalues⟩ := Json.ordered_object.1 h
      cases role with
      | schema =>
          have houtcomes : ∀ keyword ∈ visitOrder,
              ((walkFields? limit tier self path depth fields).filter fun outcome =>
                keeps tier outcome.1).lookup keyword =
              ((fields.lookup keyword).map fun value =>
                (Schema.seen (roleUnder keyword value) (Pointer.child path keyword) (depth + 1)
                  value, editField (normalFields tier self) keyword value)).map
                    fun found => reaching limit found.1 found.2 := by
            intro keyword hkeyword
            have hkeep := Schema.keeps_of_mem_visitOrder tier hkeyword
            rw [Fields.lookup_filter _ hkeep, lookup_walkFields?]
            cases hfound : fields.lookup keyword with
            | none => rfl
            | some value =>
                have hmem := Fields.mem_of_lookup hfound
                exact congrArg some (ih _ hmem (hvalues _ hmem) _ _ _)
          have hbelow := foldlM_putBelow? houtcomes (entered tier self fields)
          simp only [walk?, hbelow, reaching_map]
          rw [Schema.seen_node, reaching_cons, Schema.edit_node, ← left_entered hascending]
          simp only [Option.map_map, Function.comp_def]
      | named =>
          have hfields := walkNamed?_eq
            (fun field hfield => ih field hfield (hvalues field hfield) .schema) path depth
          rw [walk?, hfields, reaching_map, Schema.seen, Schema.trace,
            Schema.edit_object _ (by decide), Role.member]
      | _ => rfl
  | _ =>
      cases role with
      | schema => exact (reaching_cons limit ⟨path, depth, _⟩ [] _).symm
      | _ => rfl

/-- The keys of nested structure are what comes out of the guarded walk. -/
theorem ofDefinition_eq_walk? {schema : Json} (h : schema.Ordered)
    (halias : aliasTarget? schema = none) (limit : UInt64) (tier : MergeTier) (name : String) :
    ofDefinition limit tier.toTier name schema = (do
      let form ← walk? limit tier (SchemaRef.ofName name) .schema (SchemaRef.ofName name) 0 schema
      return .content form.compact) := by
  rw [ofDefinition_toTier, halias, walk?_eq h, reaching_map, ← normalForm_eq_edit]
  exact rfl

theorem ofDefinition_eq_error_iff {schema : Json} (halias : aliasTarget? schema = none)
    (limit : UInt64) (tier : MergeTier) (name : String) (error : Error) :
    ofDefinition limit tier.toTier name schema = .error error ↔
      ∃ position, tooDeep? limit (SchemaRef.ofName name) schema = some position ∧
        error = .tooDeep position.path limit := by
  rw [ofDefinition_toTier, halias]
  dsimp only
  rw [ofShape]
  cases tooDeep? limit (SchemaRef.ofName name) schema <;> simp [eq_comm]

/-- The position that is looked for is the first one of its kind. -/
theorem tooDeep?_eq_some_iff {limit : UInt64} {path : String} {schema : Json}
    {position : Position} : tooDeep? limit path schema = some position ↔
      ∃ before after, Schema.positions path schema = before ++ position :: after ∧
        (∀ earlier ∈ before, earlier.depth ≤ limit.toNat) ∧ limit.toNat < position.depth := by
  rw [tooDeep?, List.find?_eq_some_iff_append]
  simp only [decide_eq_true_eq, Bool.not_eq_true', decide_eq_false_iff_not, Nat.not_lt]
  constructor
  · rintro ⟨hdeep, before, after, heq, hbefore⟩
    exact ⟨before, after, heq, hbefore, hdeep⟩
  · rintro ⟨before, after, heq, hbefore, hdeep⟩
    exact ⟨hdeep, before, after, heq, hbefore⟩

/-- The guard against deep nesting is exact, and one for all tiers that look at nested structure: the
key of a definition that is no alias fails exactly if a schema position is nested more deeply than the
limit, and names the first one in the order of the walk. The tier of attributes has no guard. -/
theorem ofDefinition_guarded {schema : Json} (halias : aliasTarget? schema = none)
    (limit : UInt64) (name : String) :
    (∀ tier : MergeTier, (∃ error, ofDefinition limit tier.toTier name schema = .error error) ↔
      ∃ position ∈ Schema.positions (SchemaRef.ofName name) schema,
        limit.toNat < position.depth) ∧
    (∀ (tier : MergeTier) (error : Error),
      ofDefinition limit tier.toTier name schema = .error error ↔
        ∃ before position after,
          Schema.positions (SchemaRef.ofName name) schema = before ++ position :: after ∧
          (∀ earlier ∈ before, earlier.depth ≤ limit.toNat) ∧
          limit.toNat < position.depth ∧ error = .tooDeep position.path limit) ∧
    (schema.Ordered → ∀ tier : MergeTier, ofDefinition limit tier.toTier name schema = (do
      let form ← walk? limit tier (SchemaRef.ofName name) .schema (SchemaRef.ofName name) 0 schema
      return .content form.compact)) ∧
    ∃ text, ofDefinition limit .attributes name schema = .ok (.content text) := by
  refine ⟨fun tier => ?_, fun tier error => ?_,
    fun h tier => ofDefinition_eq_walk? h halias limit tier name, ?_⟩
  · simp only [ofDefinition_eq_error_iff halias]
    have hfails : (∃ error position,
        tooDeep? limit (SchemaRef.ofName name) schema = some position ∧
          error = Error.tooDeep position.path limit) ↔
        (tooDeep? limit (SchemaRef.ofName name) schema).isSome := by
      rw [exists_comm, Option.isSome_iff_exists]
      exact exists_congr fun position => by simp
    rw [hfails, tooDeep?, List.find?_isSome]
    simp only [decide_eq_true_eq]
  · rw [ofDefinition_eq_error_iff halias]
    simp only [tooDeep?_eq_some_iff]
    constructor
    · rintro ⟨position, ⟨before, after, heq, hbefore, hdeep⟩, herror⟩
      exact ⟨before, position, after, heq, hbefore, hdeep, herror⟩
    · rintro ⟨before, position, after, heq, hbefore, hdeep, herror⟩
      exact ⟨position, ⟨before, after, heq, hbefore, hdeep⟩, herror⟩
  · rw [ofDefinition, halias]
    exact ⟨_, rfl⟩

/-- A schema with a branch and an item that are nested two levels deep. -/
def layered : Json :=
  .record [("allOf", .array [.record [("not", .record [("type", .string "null")])]]),
    ("description", .string "layers"),
    ("items", .record [("contains", .record [("type", .string "null")])])]

/-- Both are too deep for a limit of one level, and the walk comes to the branch first. -/
theorem ofDefinition_guarded_layered : aliasTarget? layered = none ∧ layered.Ordered ∧
    (∀ tier : MergeTier, ofDefinition 1 tier.toTier "A" layered =
      .error (.tooDeep "#/components/schemas/A/allOf/0/not" 1)) ∧
    (∀ tier : MergeTier, ofDefinition 1 tier.toTier "A" layered = (do
      let form ← walk? 1 tier "#/components/schemas/A" .schema "#/components/schemas/A" 0 layered
      return .content form.compact)) ∧
    ∃ text, ofDefinition 1 .attributes "A" layered = .ok (.content text) := by
  have halias : aliasTarget? layered = none := by decide
  have hordered : layered.Ordered := by
    simp only [layered, Json.record, Json.ordered_object, Json.ordered_array, Json.ordered_string,
      Fields.Ascending, List.pairwise_cons, List.Pairwise.nil, List.forall_mem_cons,
      List.not_mem_nil, false_imp_iff, implies_true, and_true]
    decide
  obtain ⟨-, hfirst, hwalk, hnever⟩ := ofDefinition_guarded halias 1 "A"
  refine ⟨halias, hordered, fun tier => (hfirst tier _).2 ?_, hwalk hordered, hnever⟩
  refine ⟨[⟨"#/components/schemas/A", 0, layered⟩,
    ⟨"#/components/schemas/A/allOf/0", 1, .record [("not", .record [("type", .string "null")])]⟩],
    ⟨"#/components/schemas/A/allOf/0/not", 2, .record [("type", .string "null")]⟩,
    [⟨"#/components/schemas/A/items", 1,
        .record [("contains", .record [("type", .string "null")])]⟩,
      ⟨"#/components/schemas/A/items/contains", 2, .record [("type", .string "null")]⟩],
    ?_, ?_, ?_, ?_⟩
  · rfl
  · decide
  · decide
  · rfl

end Key

end SchemaMerge
