import SchemaMerge.Proofs.GuardedWalk
import SchemaMerge.Proofs.InlineWays
import SchemaMerge.Proofs.ResolvedWays

/-!
The schema positions of a value against the walk. Which values are schemas is said without the walk:
the value itself, and what stands under the keywords for schemas if it has the form that the keyword
asks for (`Schema.SchemaAt`). A walk takes the sub-schemas of a node one after the other
(`Schema.trace_schema`), and no way to one of them goes on to another one. So the walk enters every
schema position once.
-/

namespace SchemaMerge

namespace Schema

open Extraction (Apart)
open Pointer (descend)

/-- A member of a schema holds a schema: an object of them holds its members, an array its items, and
an object under a keyword for one schema is that schema. -/
inductive Holds : String → Json → List String → Json → Prop where
  | named {keyword key : String} {entries : List (String × Json)} {schema : Json}
      (hkeyword : keyword ∈ mapKeywords) (hschema : (key, schema) ∈ entries) :
      Holds keyword (.object entries) [key] schema
  | single {keyword : String} {fields : List (String × Json)}
      (hkeyword : keyword ∈ "items" :: singleKeywords) :
      Holds keyword (.object fields) [] (.object fields)
  | listed {keyword : String} {items : List Json} {index : Nat} {schema : Json}
      (hkeyword : keyword ∈ "items" :: listKeywords) (hschema : items[index]? = some schema) :
      Holds keyword (.array items) [toString index] schema

/-- The schemas in a schema: the segments that lead to each of them and how deeply it is nested. -/
inductive SchemaAt : Json → List String → Nat → Json → Prop where
  | here (schema : Json) : SchemaAt schema [] 0 schema
  | within {fields : List (String × Json)} {keyword : String} {child schema found : Json}
      {held way : List String} {depth : Nat} (hchild : (keyword, child) ∈ fields)
      (hheld : Holds keyword child held schema) (hbelow : SchemaAt schema way depth found) :
      SchemaAt (.object fields) (keyword :: held ++ way) (depth + 1) found

/-- The schemas that a value with a role holds, and the segments that lead to them. -/
def held (role : Role) (value : Json) : List (List String × Json) :=
  match role, value with
  | .schema, schema => [([], schema)]
  | .named, .object entries => entries.map fun entry => ([entry.1], entry.2)
  | .listed, .array items => items.zipIdx.map fun item => ([toString item.2], item.1)
  | _, _ => []

/-- The sub-schemas that the members of a node hold under a keyword. -/
def schemasUnder (fields : List (String × Json)) (keyword : String) : List (List String × Json) :=
  match fields.lookup keyword with
  | some child => (held (roleUnder keyword child) child).map fun sub => (keyword :: sub.1, sub.2)
  | none => []

/-- The sub-schemas of a node in the order of the walk. -/
def subschemas : Json → List (List String × Json)
  | .object fields => visitOrder.flatMap (schemasUnder fields)
  | _ => []

/-- The role of a member says what it holds. -/
theorem mem_held_iff {keyword : String} {value : Json} {sub : List String × Json} :
    sub ∈ held (roleUnder keyword value) value ↔ Holds keyword value sub.1 sub.2 := by
  have hdisjoint : ∀ keyword ∈ mapKeywords, keyword ∉ "items" :: singleKeywords := by decide
  obtain ⟨way, schema⟩ := sub
  constructor
  · intro h
    cases value with
    | object fields =>
        rw [roleUnder] at h
        split_ifs at h with hmap hsingle
        · obtain ⟨entry, hentry, heq⟩ := List.mem_map.1 h
          cases heq
          exact .named hmap hentry
        · cases List.mem_singleton.1 h
          exact .single (List.mem_cons.2 hsingle.symm)
        · cases h
    | array items =>
        rw [roleUnder] at h
        split_ifs at h with hlist
        · obtain ⟨⟨item, index⟩, hitem, heq⟩ := List.mem_map.1 h
          cases heq
          exact .listed (List.mem_cons.2 hlist.symm) (List.mem_zipIdx_iff_getElem?.1 hitem)
        · cases h
    | _ => cases h
  · intro h
    cases h with
    | named hmap hentry =>
        rw [roleUnder, if_pos hmap]
        exact List.mem_map.2 ⟨_, hentry, rfl⟩
    | single hsingle =>
        rw [roleUnder, if_neg fun hmap => hdisjoint keyword hmap hsingle,
          if_pos (List.mem_cons.1 hsingle).symm]
        exact List.mem_singleton.2 rfl
    | @listed items index _ hlist hitem =>
        rw [roleUnder, if_pos (List.mem_cons.1 hlist).symm]
        exact List.mem_map.2 ⟨(schema, index), List.mem_zipIdx_iff_getElem?.2 hitem, rfl⟩

theorem trace_held (visitor : Visitor) (role : Role) (path : String) (depth : Nat) (value : Json) :
    trace visitor role path depth value = (held role value).flatMap fun sub =>
      trace visitor .schema (descend path sub.1) depth sub.2 := by
  cases role with
  | schema =>
      rw [held, List.flatMap_singleton]
      rfl
  | named =>
      cases value with
      | object entries =>
          rw [trace, held, List.flatMap_map]
          induction entries with
          | nil => rfl
          | cons entry rest ih =>
              rw [traceNamed, ih, List.flatMap_cons]
              rfl
      | _ => rfl
  | listed =>
      cases value with
      | array items =>
          rw [trace, held, List.flatMap_map]
          generalize 0 = index
          induction items generalizing index with
          | nil => rfl
          | cons item rest ih =>
              rw [traceListed, ih, List.zipIdx_cons, List.flatMap_cons]
              rfl
      | _ => rfl
  | leaf => cases value <;> rfl

theorem inVisitOrder_traceFields (visitor : Visitor) (path : String) (depth : Nat)
    (fields : List (String × Json)) :
    inVisitOrder (traceFields visitor path depth fields) =
      (subschemas (.object fields)).flatMap fun sub =>
        trace visitor .schema (descend path sub.1) (depth + 1) sub.2 := by
  rw [inVisitOrder, subschemas, List.flatMap_assoc, traceFields_eq]
  refine List.flatMap_congr fun keyword _ => ?_
  rw [Fields.lookup_mapValues, schemasUnder]
  cases fields.lookup keyword with
  | none => rfl
  | some value =>
      rw [Option.map_some, Option.getD_some, trace_held, List.flatMap_map]
      rfl

/-- A node is walked by way of its sub-schemas, if it is not replaced. -/
theorem trace_schema (visitor : Visitor) (path : String) (depth : Nat) (node : Json) :
    trace visitor .schema path depth node =
      match visitor.enter node path depth with
      | some _ => [.enter path depth node]
      | none =>
          .enter path depth node :: (((subschemas node).flatMap fun sub =>
            trace visitor .schema (descend path sub.1) (depth + 1) sub.2) ++
              [.leave path depth]) := by
  cases node with
  | object fields =>
      cases hentered : visitor.enter (.object fields) path depth <;>
        simp [trace, inVisitOrder_traceFields, hentered]
  | array items =>
      cases hentered : visitor.enter (.array items) path depth <;> simp [trace, subschemas, hentered]
  | _ => rfl

theorem Holds.leads {keyword : String} {value schema : Json} {way : List String}
    (h : Holds keyword value way schema) : value.Leads way schema := by
  cases h with
  | named _ hschema => exact .member hschema (.here _)
  | single _ => exact .here _
  | listed _ hschema => exact .item hschema (.here _)

theorem Holds.mem_visitOrder {keyword : String} {value schema : Json} {way : List String}
    (h : Holds keyword value way schema) : keyword ∈ visitOrder := by
  by_contra hkeyword
  have hsub : (way, schema) ∈ held (roleUnder keyword value) value := mem_held_iff.2 h
  rw [roleUnder_of_not_mem hkeyword] at hsub
  cases value <;> cases hsub

theorem exists_of_mem_schemasUnder {fields : List (String × Json)} {keyword : String}
    {sub : List String × Json} (h : sub ∈ schemasUnder fields keyword) :
    ∃ child way, (keyword, child) ∈ fields ∧ Holds keyword child way sub.2 ∧
      sub.1 = keyword :: way := by
  rw [schemasUnder] at h
  split at h
  case h_1 child hchild =>
    obtain ⟨inner, hheld, rfl⟩ := List.mem_map.1 h
    exact ⟨child, inner.1, Fields.mem_of_lookup hchild, mem_held_iff.1 hheld, rfl⟩
  case h_2 => cases h

theorem exists_of_mem_subschemas {node : Json} {sub : List String × Json}
    (h : sub ∈ subschemas node) : ∃ fields keyword child way, node = .object fields ∧
      (keyword, child) ∈ fields ∧ Holds keyword child way sub.2 ∧ sub.1 = keyword :: way := by
  cases node with
  | object fields =>
      obtain ⟨keyword, -, hsub⟩ := List.mem_flatMap.1 h
      obtain ⟨child, way, hsub⟩ := exists_of_mem_schemasUnder hsub
      exact ⟨fields, keyword, child, way, rfl, hsub⟩
  | _ => cases h

theorem mem_subschemas {fields : List (String × Json)} (h : Fields.Ascending fields)
    {keyword : String} {child schema : Json} {way : List String} (hchild : (keyword, child) ∈ fields)
    (hheld : Holds keyword child way schema) :
    (keyword :: way, schema) ∈ subschemas (.object fields) := by
  refine List.mem_flatMap.2 ⟨keyword, hheld.mem_visitOrder, ?_⟩
  rw [schemasUnder, h.lookup_eq hchild]
  exact List.mem_map.2 ⟨(way, schema), mem_held_iff.2 hheld, rfl⟩

theorem leads_of_mem_subschemas {node : Json} {sub : List String × Json}
    (h : sub ∈ subschemas node) : node.Leads sub.1 sub.2 := by
  obtain ⟨fields, keyword, child, way, rfl, hchild, hheld, hway⟩ := exists_of_mem_subschemas h
  rw [hway]
  exact .member hchild hheld.leads

/-- Induction from the sub-schemas of a schema to the schema. -/
theorem induction {p : Json → Prop} (h : ∀ node, (∀ sub ∈ subschemas node, p sub.2) → p node)
    (node : Json) : p node := by
  suffices ∀ way found, node.Leads way found → p found from this [] node (.here node)
  induction node using Json.induction with
  | object fields ih =>
      intro way found hway
      cases hway with
      | here =>
          refine h _ fun sub hsub => ?_
          obtain ⟨_, keyword, child, way, heq, hchild, hheld, -⟩ := exists_of_mem_subschemas hsub
          cases heq
          exact ih _ hchild way sub.2 hheld.leads
      | member hchild hbelow => exact ih _ hchild _ _ hbelow
  | array items ih =>
      intro way found hway
      cases hway with
      | here => exact h _ fun sub hsub => nomatch hsub
      | item hchild hbelow => exact ih _ (List.mem_of_getElem? hchild) _ _ hbelow
  | _ =>
      intro way found hway
      cases hway
      exact h _ fun sub hsub => nomatch hsub

theorem pairwise_held {value : Json} (h : value.Ordered) (role : Role) :
    (held role value).Pairwise fun a b => Apart a.1 b.1 := by
  have hsegments : ∀ a b : String, a ≠ b → Apart [a] [b] := fun a b hne => by
    simp [Apart, hne, Ne.symm hne]
  cases role with
  | schema => exact List.pairwise_singleton _ _
  | named =>
      cases value with
      | object entries =>
          rw [held, List.pairwise_map]
          exact (Json.ordered_object.1 h).1.imp fun hlt => hsegments _ _ (String.ne_of_lt hlt)
      | _ => exact .nil
  | listed =>
      cases value with
      | array items =>
          have hindices : (items.zipIdx.map Prod.snd).Nodup := by
            rw [List.zipIdx_map_snd]
            exact List.nodup_range'
          rw [held, List.pairwise_map]
          exact (List.pairwise_map.1 hindices).imp fun hne =>
            hsegments _ _ fun heq => hne (toString_nat_injective heq)
      | _ => exact .nil
  | leaf => cases value <;> exact .nil

/-- No way to a sub-schema goes on to another one. -/
theorem pairwise_subschemas {node : Json} (h : node.Ordered) :
    (subschemas node).Pairwise fun a b => Apart a.1 b.1 := by
  cases node with
  | object fields =>
      have hfields := Json.ordered_object.1 h
      have hkeywords : visitOrder.Nodup := by decide
      rw [subschemas, List.pairwise_flatMap]
      refine ⟨fun keyword _ => ?_, hkeywords.imp fun {keyword other} hne a ha b hb => ?_⟩
      · rw [schemasUnder]
        cases hchild : fields.lookup keyword with
        | none => exact .nil
        | some value =>
            refine List.pairwise_map.2 ((pairwise_held ?_ _).imp Extraction.apart_cons_iff.2)
            exact hfields.2 _ (Fields.mem_of_lookup hchild)
      · obtain ⟨_, _, -, -, heq⟩ := exists_of_mem_schemasUnder ha
        obtain ⟨_, _, -, -, heq'⟩ := exists_of_mem_schemasUnder hb
        rw [heq, heq']
        simp [Apart, hne, Ne.symm hne]
  | _ => exact .nil

/-- Ways that go on from different sub-schemas are different. -/
theorem eq_of_append_eq {node : Json} (h : node.Ordered) {a b : List String × Json}
    (ha : a ∈ subschemas node) (hb : b ∈ subschemas node) {way other : List String}
    (heq : a.1 ++ way = b.1 ++ other) : a = b := by
  by_contra hne
  have hsymm : Std.Symm fun a b : List String × Json => Apart a.1 b.1 := ⟨fun _ _ h => h.symm⟩
  exact ((pairwise_subschemas h).forall ha hb hne).append_ne way other heq

/-- The positions of a schema are the schema itself and those of its sub-schemas. -/
theorem seen_schema (path : String) (depth : Nat) (node : Json) :
    seen .schema path depth node = ⟨path, depth, node⟩ :: (subschemas node).flatMap fun sub =>
      seen .schema (descend path sub.1) (depth + 1) sub.2 := by
  rw [seen, trace_schema, Visitor.still]
  dsimp only
  rw [List.filterMap_cons, List.filterMap_append, List.filterMap_flatMap]
  exact congrArg (_ :: ·) (List.append_nil _)

/-- What a walk enters are the schemas in the schema. -/
theorem mem_seen_iff {node : Json} (h : node.Ordered) {path : String} {depth : Nat}
    {position : Position} : position ∈ seen .schema path depth node ↔
      ∃ way levels, SchemaAt node way levels position.node ∧
        position.path = descend path way ∧ position.depth = depth + levels := by
  induction node using induction generalizing path depth with
  | h node ih =>
      rw [seen_schema, List.mem_cons, List.mem_flatMap]
      constructor
      · rintro (rfl | ⟨sub, hsub, hposition⟩)
        · exact ⟨[], 0, .here _, rfl, rfl⟩
        · obtain ⟨fields, keyword, child, held, rfl, hchild, hheld, heq⟩ :=
            exists_of_mem_subschemas hsub
          have hordered := (leads_of_mem_subschemas hsub).ordered h
          obtain ⟨way, levels, hat, hpath, hdepth⟩ := (ih sub hsub hordered).1 hposition
          refine ⟨keyword :: held ++ way, levels + 1, .within hchild hheld hat, ?_, ?_⟩
          · rw [hpath, heq, Pointer.descend_append]
          · omega
      · rintro ⟨way, levels, hat, hpath, hdepth⟩
        obtain ⟨path', depth', found⟩ := position
        dsimp only at hat hpath hdepth
        subst hpath hdepth
        cases hat with
        | here => exact .inl rfl
        | @within fields keyword child schema _ held way levels hchild hheld hbelow =>
            have hsub := mem_subschemas (Json.ordered_object.1 h).1 hchild hheld
            have hordered := (leads_of_mem_subschemas hsub).ordered h
            refine .inr ⟨_, hsub, (ih _ hsub hordered).2 ⟨way, levels, hbelow, ?_, ?_⟩⟩
            · exact Pointer.descend_append ..
            · dsimp only
              omega

/-- A schema in a schema is where the segments lead. -/
theorem SchemaAt.leads {node found : Json} {way : List String} {depth : Nat}
    (h : SchemaAt node way depth found) : node.Leads way found := by
  induction h with
  | here => exact .here _
  | within hchild hheld _ ih =>
      rw [List.cons_append]
      exact .member hchild (hheld.leads.trans ih)

theorem ne_nil_of_mem_subschemas {node : Json} {sub : List String × Json}
    (h : sub ∈ subschemas node) : sub.1 ≠ [] := by
  obtain ⟨_, _, _, _, -, -, -, heq⟩ := exists_of_mem_subschemas h
  rw [heq]
  exact List.cons_ne_nil _ _

/-- No pointer is entered twice. -/
theorem nodup_seen {node : Json} (h : node.Ordered) (base : List String) (depth : Nat) :
    ((seen .schema (descend "#" base) depth node).map Position.path).Nodup := by
  induction node using induction generalizing base depth with
  | h node ih =>
      have hsub : ∀ sub ∈ subschemas node, sub.2.Ordered := fun sub hsub =>
        (leads_of_mem_subschemas hsub).ordered h
      have hbelow : ∀ sub ∈ subschemas node, ∀ path ∈ (seen .schema
          (descend (descend "#" base) sub.1) (depth + 1) sub.2).map Position.path,
          ∃ way, path = descend "#" (base ++ (sub.1 ++ way)) := by
        intro sub hmem path hpath
        obtain ⟨position, hposition, rfl⟩ := List.mem_map.1 hpath
        obtain ⟨way, _, -, heq, -⟩ := (mem_seen_iff (hsub sub hmem)).1 hposition
        refine ⟨way, heq.trans ?_⟩
        rw [Pointer.descend_append, Pointer.descend_append]
      rw [seen_schema, List.map_cons, List.map_flatMap, List.nodup_cons, List.nodup_flatMap]
      refine ⟨fun hroot => ?_, fun sub hmem => ?_, ?_⟩
      · obtain ⟨sub, hmem, hpath⟩ := List.mem_flatMap.1 hroot
        obtain ⟨way, heq⟩ := hbelow sub hmem _ hpath
        have hnil := List.self_eq_append_right.1 (Pointer.descend_injective heq)
        exact ne_nil_of_mem_subschemas hmem (List.append_eq_nil_iff.1 hnil).1
      · have hnodup := ih sub hmem (hsub sub hmem) (base ++ sub.1) (depth + 1)
        rwa [Pointer.descend_append] at hnodup
      · refine List.Pairwise.imp_of_mem (fun {a b} ha hb hapart path hpath hpath' => ?_)
          (pairwise_subschemas h)
        obtain ⟨way, rfl⟩ := hbelow a ha path hpath
        obtain ⟨other, heq⟩ := hbelow b hb _ hpath'
        exact hapart.append_ne way other (List.append_cancel_left (Pointer.descend_injective heq))

end Schema

end SchemaMerge
