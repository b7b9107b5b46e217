import SchemaMerge.Proofs.SchemaPositions

/-!
The calls of a walk. A walk that replaces nothing makes two calls for every node, and those for the
nodes below it come in between (`Schema.Bracketed`). If a node is replaced, then the calls below it
and the call on leaving it are left out, and no others (`Schema.trace_eq_filter`). The walk takes the
members of a node out one by one and puts what becomes of them back, and what it does not change is
in the end what it was (`Schema.Rebuilds`).
-/

namespace SchemaMerge

namespace Schema

open Pointer (descend resolve?)

/-- The pointer of the node that a call is made for. -/
def Event.path : Event → String
  | .enter path _ _ => path
  | .leave path _ => path

/-- Calls for nodes below `parent` at a depth, in pairs. Between the two calls for a node stand those
for the nodes below it, which are one level deeper. -/
inductive Bracketed : String → Nat → List Event → Prop where
  | nil {parent : String} {depth : Nat} : Bracketed parent depth []
  | node {parent : String} {depth : Nat} {way : List String} {node : Json}
      {inner rest : List Event} (hway : way ≠ [])
      (hinner : Bracketed (descend parent way) (depth + 1) inner)
      (hrest : Bracketed parent depth rest) :
      Bracketed parent depth (.enter (descend parent way) depth node ::
        (inner ++ .leave (descend parent way) depth :: rest))

/-- What a walk leaves out: the calls below a node that it enters and replaces, and the call on
leaving that node. -/
def LeftOut (visitor : Visitor) (calls : List Event) (event : Event) : Prop :=
  ∃ path depth node, .enter path depth node ∈ calls ∧ (visitor.enter node path depth).isSome ∧
    (event = .leave path depth ∨ ∃ way, way ≠ [] ∧ event.path = descend path way)

/-- A call is made for the node where the walk starts or for one below it. -/
theorem exists_way_of_mem_trace {visitor : Visitor} {path : String} {depth : Nat} {node : Json}
    {event : Event} (h : event ∈ trace visitor .schema path depth node) :
    ∃ way, event.path = descend path way := by
  induction node using induction generalizing path depth with
  | h node ih =>
      rw [trace_schema] at h
      split at h
      · cases List.mem_singleton.1 h
        exact ⟨[], rfl⟩
      · rcases List.mem_cons.1 h with rfl | h
        · exact ⟨[], rfl⟩
        · rcases List.mem_append.1 h with h | h
          · obtain ⟨sub, hsub, hevent⟩ := List.mem_flatMap.1 h
            obtain ⟨way, hway⟩ := ih sub hsub hevent
            exact ⟨sub.1 ++ way, by rw [hway, Pointer.descend_append]⟩
          · cases List.mem_singleton.1 h
            exact ⟨[], rfl⟩

theorem exists_bracketed (path : String) (depth : Nat) (node : Json) :
    ∃ inner, trace .still .schema path depth node =
      .enter path depth node :: (inner ++ [.leave path depth]) ∧
        Bracketed path (depth + 1) inner := by
  induction node using induction generalizing path depth with
  | h node ih =>
      rw [trace_schema]
      refine ⟨_, rfl, ?_⟩
      have hne : ∀ sub ∈ subschemas node, sub.1 ≠ [] := fun sub => ne_nil_of_mem_subschemas
      generalize subschemas node = subs at ih hne
      induction subs with
      | nil => exact .nil
      | cons sub rest ihRest =>
          obtain ⟨inner, htrace, hinner⟩ := ih sub List.mem_cons_self (descend path sub.1) (depth + 1)
          have hrest := ihRest (fun other hother => ih other (List.mem_cons_of_mem _ hother))
            fun other hother => hne other (List.mem_cons_of_mem _ hother)
          rw [List.flatMap_cons, htrace, List.cons_append, List.append_assoc]
          exact .node (hne sub List.mem_cons_self) hinner hrest

theorem LeftOut.mono {visitor : Visitor} {calls further : List Event} {event : Event}
    (h : LeftOut visitor calls event) (hcalls : calls ⊆ further) :
    LeftOut visitor further event := by
  obtain ⟨path, depth, node, hentered, hrest⟩ := h
  exact ⟨path, depth, node, hcalls hentered, hrest⟩

section Sub

variable {visitor : Visitor} {base : List String} {depth : Nat} {node : Json}
  {sub : List String × Json}

/-- Calls in the walk of a sub-schema are for what stands on a way through it. -/
theorem exists_way_of_mem_trace_sub {event : Event}
    (h : event ∈ trace visitor .schema (descend (descend "#" base) sub.1) depth sub.2) :
    ∃ way, event.path = descend "#" (base ++ (sub.1 ++ way)) := by
  obtain ⟨way, hway⟩ := exists_way_of_mem_trace h
  exact ⟨way, by rw [hway, Pointer.descend_append, Pointer.descend_append]⟩

/-- No call of the walk is for something above the node where it starts. -/
theorem ne_descend_of_mem_trace {event : Event}
    (h : event ∈ trace visitor .schema (descend "#" base) depth node) {way : List String}
    (hway : way ≠ []) : descend "#" base ≠ descend event.path way := by
  intro heq
  obtain ⟨below, hbelow⟩ := exists_way_of_mem_trace h
  rw [hbelow, ← Pointer.descend_append, ← Pointer.descend_append] at heq
  have hnil := List.self_eq_append_right.1 (Pointer.descend_injective heq)
  exact hway (List.append_eq_nil_iff.1 hnil).2

/-- What is left out in a sub-schema is left out because of a node in that sub-schema. -/
theorem leftOut_sub_iff (h : node.Ordered) (hsub : sub ∈ subschemas node)
    (hkept : visitor.enter node (descend "#" base) depth = none) {event : Event}
    (hevent : event ∈ trace .still .schema (descend (descend "#" base) sub.1) (depth + 1) sub.2) :
    LeftOut visitor (trace visitor .schema (descend "#" base) depth node) event ↔
      LeftOut visitor (trace visitor .schema (descend (descend "#" base) sub.1) (depth + 1) sub.2)
        event := by
  rw [trace_schema, hkept]
  dsimp only
  constructor
  · rintro ⟨path, level, outer, hentered, hreplaced, hcovers⟩
    refine ⟨path, level, outer, ?_, hreplaced, hcovers⟩
    rcases List.mem_cons.1 hentered with heq | hentered
    · cases heq
      rw [hkept] at hreplaced
      cases hreplaced
    · rcases List.mem_append.1 hentered with hentered | hentered
      · obtain ⟨other, hother, hentered⟩ := List.mem_flatMap.1 hentered
        -- Both ways begin with the sub-schema that they go through, and one goes on from the other.
        suffices other = sub by rwa [← this]
        obtain ⟨way, hway⟩ := exists_way_of_mem_trace_sub hevent
        obtain ⟨outerWay, houter⟩ := exists_way_of_mem_trace_sub hentered
        obtain ⟨further, hfurther⟩ : ∃ further, event.path = descend path further := by
          rcases hcovers with rfl | ⟨further, -, hfurther⟩
          · exact ⟨[], rfl⟩
          · exact ⟨further, hfurther⟩
        have hpath : path = descend "#" (base ++ (other.1 ++ outerWay)) := houter
        rw [hway, hpath, ← Pointer.descend_append, List.append_assoc, List.append_assoc] at hfurther
        exact eq_of_append_eq h hother hsub
          (List.append_cancel_left (Pointer.descend_injective hfurther)).symm
      · cases List.mem_singleton.1 hentered
  · intro hleft
    refine hleft.mono fun call hcall => ?_
    exact List.mem_cons_of_mem _ (List.mem_append_left _ (List.mem_flatMap.2 ⟨sub, hsub, hcall⟩))

/-- The call on entering the node where a walk starts is made. -/
theorem not_leftOut_enter :
    ¬LeftOut visitor (trace visitor .schema (descend "#" base) depth node)
      (.enter (descend "#" base) depth node) := by
  rintro ⟨path, level, outer, hentered, -, heq | ⟨way, hway, hpath⟩⟩
  · cases heq
  · exact ne_descend_of_mem_trace hentered hway hpath

/-- The call on leaving it is made unless the node is replaced. -/
theorem not_leftOut_leave (hkept : visitor.enter node (descend "#" base) depth = none) :
    ¬LeftOut visitor (trace visitor .schema (descend "#" base) depth node)
      (.leave (descend "#" base) depth) := by
  rintro ⟨path, level, outer, hentered, hreplaced, heq | ⟨way, hway, hpath⟩⟩
  · cases heq
    rw [trace_schema, hkept] at hentered
    rcases List.mem_cons.1 hentered with heq | hentered
    · cases heq
      rw [hkept] at hreplaced
      cases hreplaced
    · rcases List.mem_append.1 hentered with hentered | hentered
      · obtain ⟨sub, hsub, hentered⟩ := List.mem_flatMap.1 hentered
        obtain ⟨way, hway⟩ := exists_way_of_mem_trace_sub hentered
        have hnil := List.self_eq_append_right.1 (Pointer.descend_injective hway)
        exact ne_nil_of_mem_subschemas hsub (List.append_eq_nil_iff.1 hnil).1
      · cases List.mem_singleton.1 hentered
  · exact ne_descend_of_mem_trace hentered hway hpath

/-- If the node is replaced where a walk starts, then nothing but the call on entering it is made. -/
theorem leftOut_of_replaced {replacement : Json}
    (hreplaced : visitor.enter node (descend "#" base) depth = some replacement) {event : Event}
    (hcovered : event = .leave (descend "#" base) depth ∨
      ∃ way, way ≠ [] ∧ event.path = descend (descend "#" base) way) :
    LeftOut visitor (trace visitor .schema (descend "#" base) depth node) event := by
  refine ⟨_, _, node, ?_, Option.isSome_iff_exists.2 ⟨_, hreplaced⟩, hcovered⟩
  rw [trace_schema, hreplaced]
  exact List.mem_cons_self

end Sub

open Classical in
/-- A walk makes the calls of the walk that replaces nothing, less those that it leaves out. -/
theorem trace_eq_filter {node : Json} (h : node.Ordered) (visitor : Visitor) (base : List String)
    (depth : Nat) :
    trace visitor .schema (descend "#" base) depth node =
      (trace .still .schema (descend "#" base) depth node).filter fun event =>
        ¬LeftOut visitor (trace visitor .schema (descend "#" base) depth node) event := by
  induction node using induction generalizing base depth with
  | h node ih =>
      generalize hcalls : trace visitor .schema (descend "#" base) depth node = calls
      have hstill : trace .still .schema (descend "#" base) depth node =
          .enter (descend "#" base) depth node :: (((subschemas node).flatMap fun sub =>
            trace .still .schema (descend (descend "#" base) sub.1) (depth + 1) sub.2) ++
              [.leave (descend "#" base) depth]) := trace_schema ..
      have henter : ¬LeftOut visitor calls (.enter (descend "#" base) depth node) :=
        hcalls ▸ not_leftOut_enter
      rw [hstill, List.filter_cons_of_pos (by simpa using henter), List.filter_append,
        List.filter_flatMap]
      cases hentered : visitor.enter node (descend "#" base) depth with
      | some replacement =>
          have hinner : ∀ sub ∈ subschemas node,
              (trace .still .schema (descend (descend "#" base) sub.1) (depth + 1) sub.2).filter
                (fun event => ¬LeftOut visitor calls event) = [] := by
            intro sub hsub
            rw [List.filter_eq_nil_iff]
            intro event hevent
            obtain ⟨way, hway⟩ := exists_way_of_mem_trace hevent
            rw [← Pointer.descend_append] at hway
            have hne := List.append_ne_nil_of_left_ne_nil (ne_nil_of_mem_subschemas hsub) way
            simpa [← hcalls] using leftOut_of_replaced hentered (.inr ⟨_, hne, hway⟩)
          have hleave : LeftOut visitor calls (.leave (descend "#" base) depth) :=
            hcalls ▸ leftOut_of_replaced hentered (.inl rfl)
          rw [List.flatMap_eq_nil_iff.2 hinner, List.filter_cons_of_neg (by simpa using hleave),
            ← hcalls, trace_schema, hentered]
          rfl
      | none =>
          have hinner : ∀ sub ∈ subschemas node,
              (trace .still .schema (descend (descend "#" base) sub.1) (depth + 1) sub.2).filter
                (fun event => ¬LeftOut visitor calls event) =
              trace visitor .schema (descend (descend "#" base) sub.1) (depth + 1) sub.2 := by
            intro sub hsub
            have hbelow := ih sub hsub ((leads_of_mem_subschemas hsub).ordered h) (base ++ sub.1)
              (depth + 1)
            rw [Pointer.descend_append] at hbelow
            refine (List.filter_congr fun event hevent => ?_).trans hbelow.symm
            rw [← hcalls, leftOut_sub_iff h hsub hentered hevent]
          have hleave : ¬LeftOut visitor calls (.leave (descend "#" base) depth) :=
            hcalls ▸ not_leftOut_leave hentered
          rw [List.flatMap_congr hinner, List.filter_cons_of_pos (by simpa using hleave),
            List.filter_nil, ← hcalls, trace_schema, hentered]

section Rebuilding

/-- What becomes of a value with a role and the calls that are made for it, given what becomes of a
schema. An object of schemas is built anew. -/
def walkHeld (walk : String → Nat → Json → Json × List Event) (role : Role) (path : String)
    (depth : Nat) (value : Json) : Json × List Event :=
  match role, value with
  | .schema, schema => walk path depth schema
  | .named, .object entries =>
      let results := entries.map fun entry =>
        (entry.1, walk (Pointer.child path entry.1) depth entry.2)
      (.object (Fields.ofList (results.map fun result => (result.1, result.2.1))),
        results.flatMap (·.2.2))
  | .listed, .array items =>
      let results := items.zipIdx.map fun item =>
        walk (Pointer.child path (toString item.2)) depth item.1
      (.array (results.map (·.1)), results.flatMap (·.2))
  | _, other => (other, [])

/-- Takes what stands under a keyword out of the members of a node, and puts back what becomes of
it. -/
def takeOut (walk : String → Nat → Json → Json × List Event) (path : String) (depth : Nat)
    (state : List (String × Json) × List Event) (keyword : String) :
    List (String × Json) × List Event :=
  match state.1.lookup keyword with
  | some value =>
      let result :=
        walkHeld walk (roleUnder keyword value) (Pointer.child path keyword) (depth + 1) value
      (Fields.insert keyword result.1 (Fields.erase keyword state.1), state.2 ++ result.2)
  | none => state

/-- What becomes of a node that is not replaced, before the walk leaves it. -/
def walkBelow (walk : String → Nat → Json → Json × List Event) (path : String) (depth : Nat) :
    Json → Json × List Event
  | .object fields =>
      let state := visitOrder.foldl (takeOut walk path depth) (fields, [])
      (.object state.1, state.2)
  | other => (other, [])

/-- A walk that takes nodes apart, keyword after keyword, and puts them together again. -/
def Rebuilds (visitor : Visitor) (walk : String → Nat → Json → Json × List Event) : Prop :=
  ∀ path depth node, node.Ordered → walk path depth node =
    match visitor.enter node path depth with
    | some replacement => (replacement, [.enter path depth node])
    | none =>
        let below := walkBelow walk path depth node
        (visitor.leave below.1 path depth,
          .enter path depth node :: (below.2 ++ [.leave path depth]))

variable (visitor : Visitor) (path : String) (depth : Nat)

/-- The value that a walk gives and the calls that it makes. -/
def run (node : Json) : Json × List Event :=
  (fold visitor .schema path depth node, trace visitor .schema path depth node)

/-- What becomes of what stands under a keyword. -/
def foldUnder (keyword : String) (value : Json) : Json :=
  fold visitor (roleUnder keyword value) (Pointer.child path keyword) (depth + 1) value

/-- The calls for what stands under a keyword. -/
def traceUnder (fields : List (String × Json)) (keyword : String) : List Event :=
  ((fields.lookup keyword).map fun value =>
    trace visitor (roleUnder keyword value) (Pointer.child path keyword) (depth + 1) value).getD []

theorem foldFields_eq (fields : List (String × Json)) :
    foldFields visitor path depth fields =
      Fields.mapValues (foldUnder visitor path depth) fields := by
  induction fields with
  | nil => rfl
  | cons field rest ih =>
      rw [foldFields, ih]
      rfl

theorem foldNamed_eq (entries : List (String × Json)) :
    foldNamed visitor path depth entries = Fields.mapValues (fun key value =>
      fold visitor .schema (Pointer.child path key) depth value) entries := by
  induction entries with
  | nil => rfl
  | cons entry rest ih =>
      rw [foldNamed, ih]
      rfl

theorem foldListed_eq (index : Nat) (items : List Json) :
    foldListed visitor path depth index items = (items.zipIdx index).map fun item =>
      fold visitor .schema (Pointer.child path (toString item.2)) depth item.1 := by
  induction items generalizing index with
  | nil => rfl
  | cons item rest ih => rw [foldListed, ih, List.zipIdx_cons, List.map_cons]

theorem fold_leaf (value : Json) : fold visitor .leaf path depth value = value := by
  cases value <;> rfl

theorem walkHeld_run {value : Json} (h : value.Ordered) (role : Role) :
    walkHeld (run visitor) role path depth value =
      (fold visitor role path depth value, trace visitor role path depth value) := by
  rw [trace_held]
  cases role with
  | schema =>
      rw [held, List.flatMap_singleton]
      rfl
  | named =>
      cases value with
      | object entries =>
          have hascending := (Json.ordered_object.1 h).1
          rw [walkHeld, fold, held, foldNamed_eq, List.flatMap_map, List.map_map, List.flatMap_map]
          refine Prod.ext (congrArg Json.object ?_) rfl
          exact Fields.ofList_eq_self (hascending.mapValues fun key value =>
            fold visitor .schema (Pointer.child path key) depth value)
      | _ => rfl
  | listed =>
      cases value with
      | array items =>
          rw [walkHeld, fold, held, foldListed_eq, List.flatMap_map, List.map_map, List.flatMap_map]
          rfl
      | _ => rfl
  | leaf => cases value <;> rfl

/-- Putting back under a keyword changes what stands there and nothing else. -/
theorem insert_erase_eq {fields : List (String × Json)} (h : Fields.Ascending fields)
    {keyword : String} {value : Json} (hvalue : fields.lookup keyword = some value)
    (change : String → Json → Json) :
    Fields.insert keyword (change keyword value) (Fields.erase keyword fields) =
      Fields.mapValues (fun key value => if key = keyword then change key value else value)
        fields := by
  refine ((h.erase keyword).insert keyword _).ext (h.mapValues _) fun key => ?_
  rw [Fields.lookup_insert, Fields.lookup_erase, Fields.lookup_mapValues]
  by_cases hkey : key = keyword
  · rw [if_pos hkey, hkey, hvalue]
    simp
  · simp [hkey]

/-- One turn of the walk changes what stands under one keyword. -/
theorem takeOut_run {fields : List (String × Json)} (h : Fields.Ascending fields) {keyword : String}
    (hordered : ∀ value, fields.lookup keyword = some value → value.Ordered) (calls : List Event) :
    takeOut (run visitor) path depth (fields, calls) keyword =
      (Fields.mapValues (fun key value =>
        if key = keyword then foldUnder visitor path depth key value else value) fields,
      calls ++ traceUnder visitor path depth fields keyword) := by
  rw [takeOut, traceUnder]
  cases hlookup : fields.lookup keyword with
  | none =>
      have hsame : Fields.mapValues (fun key value =>
          if key = keyword then foldUnder visitor path depth key value else value) fields =
            fields := by
        refine Fields.mapValues_eq_self fun field hfield => if_neg ?_
        rintro rfl
        rw [h.lookup_eq hfield] at hlookup
        cases hlookup
      rw [hsame, Option.map_none, Option.getD_none, List.append_nil]
  | some value =>
      rw [← insert_erase_eq h hlookup]
      dsimp only
      rw [walkHeld_run visitor _ _ (hordered value hlookup)]
      rfl

/-- Each keyword is taken out once, so what is walked is what stood there in the beginning. -/
theorem foldl_takeOut {keywords : List String} (hkeywords : keywords.Nodup)
    {fields : List (String × Json)} (h : Fields.Ascending fields)
    (hordered : ∀ keyword ∈ keywords, ∀ value, fields.lookup keyword = some value → value.Ordered)
    (calls : List Event) :
    keywords.foldl (takeOut (run visitor) path depth) (fields, calls) =
      (Fields.mapValues (fun key value =>
        if key ∈ keywords then foldUnder visitor path depth key value else value) fields,
      calls ++ keywords.flatMap (traceUnder visitor path depth fields)) := by
  induction keywords generalizing fields calls with
  | nil =>
      have hsame : Fields.mapValues (fun key value =>
          if key ∈ ([] : List String) then foldUnder visitor path depth key value else value)
          fields = fields :=
        Fields.mapValues_eq_self fun _ _ => if_neg List.not_mem_nil
      rw [hsame, List.flatMap_nil, List.append_nil, List.foldl_nil]
  | cons keyword rest ih =>
      obtain ⟨hnotMem, hrest⟩ := List.nodup_cons.1 hkeywords
      obtain ⟨hvalue, hothers⟩ := List.forall_mem_cons.1 hordered
      let changed := Fields.mapValues (fun key value =>
        if key = keyword then foldUnder visitor path depth key value else value) fields
      -- The keywords that are still to come see what stood under them before.
      have hlookup : ∀ other ∈ rest, changed.lookup other = fields.lookup other := by
        intro other hother
        have hne : other ≠ keyword := ne_of_mem_of_not_mem hother hnotMem
        simp [changed, Fields.lookup_mapValues, hne]
      have hcalls : ∀ other ∈ rest, traceUnder visitor path depth changed other =
          traceUnder visitor path depth fields other := by
        intro other hother
        rw [traceUnder, hlookup other hother, traceUnder]
      have hfields : Fields.mapValues (fun key value =>
          if key ∈ rest then foldUnder visitor path depth key value else value) changed =
          Fields.mapValues (fun key value =>
            if key ∈ keyword :: rest then foldUnder visitor path depth key value else value)
            fields := by
        rw [Fields.mapValues_mapValues]
        refine Fields.mapValues_congr fun field _ => ?_
        by_cases hkey : field.1 = keyword
        · simp [hkey, hnotMem]
        · simp [hkey]
      rw [List.foldl_cons, takeOut_run visitor path depth h hvalue, ih hrest (h.mapValues _)
        fun other hother value hfound => hothers other hother value
          ((hlookup other hother).symm.trans hfound), hfields, List.flatMap_congr hcalls,
        List.flatMap_cons, List.append_assoc]

theorem foldl_takeOut_visitOrder {fields : List (String × Json)} (h : (Json.object fields).Ordered) :
    visitOrder.foldl (takeOut (run visitor) path depth) (fields, []) =
      (foldFields visitor path depth fields,
        inVisitOrder (traceFields visitor path depth fields)) := by
  obtain ⟨hascending, hvalues⟩ := Json.ordered_object.1 h
  have hordered : ∀ keyword ∈ visitOrder, ∀ value, fields.lookup keyword = some value →
      value.Ordered := fun _ _ _ hvalue => hvalues _ (Fields.mem_of_lookup hvalue)
  have hfields : Fields.mapValues (fun key value =>
      if key ∈ visitOrder then foldUnder visitor path depth key value else value) fields =
      foldFields visitor path depth fields := by
    rw [foldFields_eq]
    refine Fields.mapValues_congr fun field _ => ?_
    by_cases hkeyword : field.1 ∈ visitOrder
    · rw [if_pos hkeyword]
    · rw [if_neg hkeyword, foldUnder, roleUnder_of_not_mem hkeyword, fold_leaf]
  have hcalls : visitOrder.flatMap (traceUnder visitor path depth fields) =
      inVisitOrder (traceFields visitor path depth fields) := by
    rw [inVisitOrder, traceFields_eq]
    refine List.flatMap_congr fun keyword _ => ?_
    rw [Fields.lookup_mapValues, traceUnder]
  rw [foldl_takeOut visitor path depth (by decide) hascending hordered, hfields, hcalls,
    List.nil_append]

/-- The walk takes nodes apart and puts them together again. -/
theorem rebuilds_run : Rebuilds visitor (run visitor) := by
  intro path depth node h
  cases node with
  | object fields =>
      rw [walkBelow, foldl_takeOut_visitOrder visitor path depth h, run, fold, trace]
      cases visitor.enter (.object fields) path depth <;> rfl
  | _ =>
      rw [run]
      split
      case h_1 replacement hentered => simp [fold, trace, hentered]
      case h_2 hentered => simp [fold, trace, walkBelow, hentered]

/-- A walk that changes nothing gives the value back. -/
theorem fold_still (value : Json) : fold .still .schema path depth value = value := by
  have hedit : Visitor.ofEdit id = .still := by
    rw [Visitor.ofEdit, Visitor.still]
    congr 1
    funext node _ _
    cases node <;> rfl
  rw [← hedit, fold_ofEdit]
  exact edit_eq_self (fun _ => rfl) value .schema

end Rebuilding

/-- A walk enters the schemas in a value, each of them once and with a pointer that leads to it, and it
leaves a schema when those in it are done. What its visitor does not change stays as it is. If the
visitor replaces a node, then the calls below it and the call on leaving it are not made. -/
theorem fold_visits_once {value : Json} (h : value.Ordered) :
    fold .still .schema "#" 0 value = value ∧
    (∃ inner, trace .still .schema "#" 0 value =
      .enter "#" 0 value :: (inner ++ [.leave "#" 0]) ∧ Bracketed "#" 1 inner) ∧
    ((positions "#" value).map Position.path).Nodup ∧
    (∀ path depth node, ⟨path, depth, node⟩ ∈ positions "#" value ↔
      ∃ way, SchemaAt value way depth node ∧ path = descend "#" way) ∧
    (value.Countable → ∀ position ∈ positions "#" value,
      resolve? value position.path = some position.node) ∧
    ∀ visitor, Rebuilds visitor (run visitor) ∧
      ∃ made : Event → Bool,
        (∀ event, made event ↔ ¬LeftOut visitor (trace visitor .schema "#" 0 value) event) ∧
        trace visitor .schema "#" 0 value = (trace .still .schema "#" 0 value).filter made := by
  have hpositions : ∀ path depth node, ⟨path, depth, node⟩ ∈ positions "#" value ↔
      ∃ way, SchemaAt value way depth node ∧ path = descend "#" way := by
    intro path depth node
    refine (mem_seen_iff h).trans ?_
    constructor
    · rintro ⟨way, levels, hat, hpath, hdepth⟩
      cases hdepth.trans (Nat.zero_add levels)
      exact ⟨way, hat, hpath⟩
    · rintro ⟨way, hat, hpath⟩
      exact ⟨way, depth, hat, hpath, (Nat.zero_add depth).symm⟩
  refine ⟨fold_still "#" 0 value, exists_bracketed "#" 0 value, nodup_seen h [] 0, hpositions,
    ?resolves, fun visitor => ⟨rebuilds_run visitor, ?calls⟩⟩
  case resolves =>
    intro hcount position hposition
    obtain ⟨way, hat, hpath⟩ := (hpositions _ _ _).1 hposition
    rw [hpath]
    exact hat.leads.resolve? h hcount
  case calls =>
    classical
    exact ⟨_, fun event => decide_eq_true_iff, trace_eq_filter h visitor [] 0⟩

/-- Two properties whose names need escapes, an array under `items`, and two keywords with values that
are not of the form for schemas. -/
def paddock : Json :=
  .record [
    ("additionalProperties", .bool false),
    ("allOf", .record [("type", .string "object")]),
    ("items", .array [.record [], .bool true]),
    ("properties", .record [
      ("a/b", .record [("items", .record [])]),
      ("x~y", .record [("$ref", .string "#/properties/a~1b")])])]

/-- Replaces the property with the slash in its name. -/
def fence : Visitor where
  enter _ path _ := if path = "#/properties/a~1b" then some .null else none
  leave node _ _ := node

/-- The fence keeps the walk off what is below the property, and the walk does not leave the
property. -/
theorem fold_visits_once_paddock : paddock.Ordered ∧ paddock.Countable ∧
    ((⟨"#/properties/a~1b/items", 2, .record []⟩ : Position) ∈ positions "#" paddock) ∧
    resolve? paddock "#/properties/a~1b/items" = some (Json.record []) ∧
    (∀ node, .enter "#/properties/a~1b/items" 2 node ∉ trace fence .schema "#" 0 paddock) ∧
    .leave "#/properties/a~1b" 1 ∉ trace fence .schema "#" 0 paddock := by
  have hordered : paddock.Ordered := by
    simp only [paddock, Json.record, Json.ordered_object, Json.ordered_array, Json.ordered_string,
      Json.ordered_bool, Fields.Ascending, List.pairwise_cons, List.Pairwise.nil,
      List.forall_mem_cons, List.not_mem_nil, false_imp_iff, implies_true, and_true]
    decide
  have hcount : paddock.Countable := by
    simp only [paddock, Json.record, Json.countable_object, Json.countable_array,
      Json.countable_string, Json.countable_bool, List.forall_mem_cons, List.not_mem_nil,
      false_imp_iff, implies_true, and_true]
    decide
  have hitems : SchemaAt (.record [("items", .record [])]) ["items"] 1 (.record []) :=
    .within (.head _) (.single (by decide)) (.here _)
  have hat : SchemaAt paddock (["properties", "a/b"] ++ ["items"]) 2 (.record []) :=
    .within (.tail _ (.tail _ (.tail _ (.head _)))) (.named (by decide) (.head _)) hitems
  obtain ⟨-, -, -, hpositions, hresolves, hvisitors⟩ := fold_visits_once hordered
  obtain ⟨-, made, hmade, htrace⟩ := hvisitors fence
  have hposition : (⟨"#/properties/a~1b/items", 2, .record []⟩ : Position) ∈
      positions "#" paddock := (hpositions _ _ _).2 ⟨_, hat, by decide⟩
  have hentered : .enter "#/properties/a~1b" 1 (.record [("items", .record [])]) ∈
      trace fence .schema "#" 0 paddock := List.mem_of_getElem? (i := 1) (by rfl)
  have hout : ∀ event, LeftOut fence (trace fence .schema "#" 0 paddock) event →
      event ∉ trace fence .schema "#" 0 paddock := by
    intro event hleft hevent
    rw [htrace] at hevent
    exact (hmade event).1 (List.mem_filter.1 hevent).2 hleft
  refine ⟨hordered, hcount, hposition, hresolves hcount _ hposition, fun node => ?_, ?_⟩
  · exact hout _ ⟨_, _, _, hentered, by decide, .inr ⟨["items"], by decide, by rfl⟩⟩
  · exact hout _ ⟨_, _, _, hentered, by decide, .inl rfl⟩

end Schema

end SchemaMerge
