import SchemaMerge.Proofs.NormalWays
import SchemaMerge.Proofs.Restoration

/-!
The inline objects that are free, which are those that an extraction may take out. What pins an
object pins what stands around it, so an object inside a free one is free. Free objects with one key
have one normal form and so the same inline objects inside (`Extraction.Shapes.exists_twin`). Hence
an object does not stand inside one with its key, some group of repeated shapes is innermost
(`Extraction.Shapes.innermost_ne_nil`), and the objects of such a group have no inline objects
inside (`Extraction.Shapes.bare`).
-/

namespace SchemaMerge

namespace Occurrence

variable {outer inner : Occurrence} {references way : List String}

theorem isPinned_iff : outer.isPinned references ↔ ∃ reference ∈ references, ∃ rest,
    reference = outer.pointer ++ rest ∧ (rest = "" ∨ ∃ more, rest = "/" ++ more) := by
  rw [isPinned, List.any_eq_true]
  refine exists_congr fun reference => and_congr_right fun _ => ?_
  constructor
  · intro h
    split at h
    case h_1 rest hrest =>
      rw [Bool.or_eq_true, String.isEmpty_iff, Text.startsWith_iff] at h
      exact ⟨rest, Text.afterStart?_eq_some_iff.1 hrest, h⟩
    case h_2 => cases h
  · rintro ⟨rest, hreference, hrest⟩
    rw [Text.afterStart?_eq_some_iff.2 hreference]
    dsimp only
    rwa [Bool.or_eq_true, String.isEmpty_iff, Text.startsWith_iff]

theorem pointer_descend (occurrence : Occurrence) (way : List String) :
    (occurrence.descend way).pointer =
      occurrence.pointer ++ String.ofList (Pointer.written way) := by
  rw [← String.toList_inj, pointer, descend, Pointer.descend_append, Pointer.toList_descend,
    String.toList_append, String.toList_ofList]
  rfl

/-- What pins an object pins what stands around it. -/
theorem isPinned_of_descend (h : (outer.descend way).isPinned references) :
    outer.isPinned references := by
  obtain ⟨reference, hmem, rest, hreference, hrest⟩ := isPinned_iff.1 h
  rw [pointer_descend, String.append_assoc] at hreference
  refine isPinned_iff.2 ⟨reference, hmem, _, hreference, ?_⟩
  cases way with
  | nil =>
      have hnil : String.ofList (Pointer.written []) = "" := rfl
      rwa [hnil, String.empty_append]
  | cons segment way =>
      refine .inr ⟨String.ofList ((Pointer.escape segment).toList ++ Pointer.written way) ++ rest,
        String.toList_inj.1 ?_⟩
      simp [Pointer.written]

end Occurrence

namespace Extraction

variable {limit : UInt64} {pinned : List String} {definitions : NameMap Json}
  {occurrence : Occurrence} {groups : List (List Occurrence)}

/-- The search comes to an inline object at the occurrence. -/
structure InlineAt (definitions : NameMap Json) (occurrence : Occurrence) : Prop where
  inner : occurrence.segments ≠ []
  way : ∃ depth, Way .schema depth occurrence.segments
  inline : ∃ schema, occurrence.value? definitions = some schema ∧ isInlineObject schema

theorem InlineAt.isSome_value? (h : InlineAt definitions occurrence) :
    (occurrence.value? definitions).isSome := by
  obtain ⟨schema, hschema, _⟩ := h.inline
  rw [hschema]
  rfl

/-- The inline objects of all definitions, in document order. -/
def inlineObjects (definitions : NameMap Json) : List Occurrence :=
  definitions.entries.flatMap fun entry =>
    ((nodes .schema [] entry.2).filter fun node =>
      !node.1.isEmpty && isInlineObject node.2).map fun node => ⟨entry.1, node.1⟩

/-- Those that nothing points at or into. -/
def freeObjects (pinned : List String) (definitions : NameMap Json) : List Occurrence :=
  (inlineObjects definitions).filter fun occurrence => !occurrence.isPinned pinned

theorem allInlineObjects?_eq_ok {found : List Occurrence}
    (h : allInlineObjects? limit definitions = .ok found) : found = inlineObjects definitions := by
  obtain ⟨lists, hlists, h⟩ := bind_eq_ok.1 h
  rw [pure_eq_ok] at h
  subst h
  have heach := mapM_eq_ok.1 hlists
  unfold inlineObjects
  rw [List.flatMap_def]
  refine congrArg List.flatten ?_
  rw [← List.forall₂_eq_eq_eq, List.forall₂_map_right_iff]
  refine List.Forall₂.flip (heach.imp fun entry list hlist => ?_)
  rw [inlineObjects?] at hlist
  split at hlist
  case h_1 => cases hlist
  case h_2 => exact (Except.ok.inj hlist).symm

section Searching

variable {role : Schema.Role} {depth : Nat} {pre way : List String} {value node : Json}

theorem nodesNamed_eq (pre : List String) (fields : List (String × Json)) : nodesNamed pre fields =
    fields.flatMap fun field => nodes .schema (pre ++ [field.1]) field.2 := by
  induction fields with
  | nil => rfl
  | cons field rest ih => rw [nodesNamed, ih, List.flatMap_cons]

/-- Below an object at the end of a way the search comes to what it comes to from there. -/
theorem Way.mem_nodes_below {fields : List (String × Json)} {below : List String}
    (h : Way role depth way) (hfound : value.follow? way = some (.object fields))
    (hmem : (below, node) ∈ nodes .schema (pre ++ way) (.object fields)) :
    (below, node) ∈ nodes role pre value := by
  induction h generalizing value pre with
  | here =>
      cases hfound
      rwa [List.append_nil] at hmem
  | items _ ih =>
      obtain ⟨outer, inner, rfl, hlookup, hbelow⟩ := Json.follow?_cons_eq_some hfound
      obtain ⟨members, rfl⟩ := Key.exists_object_of_follow? hbelow
      rw [← List.singleton_append, ← List.append_assoc] at hmem
      exact mem_nodes_object.2 (.inr (.inr ⟨members, hlookup, ih hbelow hmem⟩))
  | properties _ ih =>
      obtain ⟨outer, inner, rfl, hlookup, hbelow⟩ := Json.follow?_cons_eq_some hfound
      obtain ⟨members, rfl⟩ := Key.exists_object_of_follow? hbelow
      rw [← List.singleton_append, ← List.append_assoc] at hmem
      exact mem_nodes_object.2 (.inr (.inl ⟨members, hlookup, ih hbelow hmem⟩))
  | name name _ ih =>
      obtain ⟨outer, inner, rfl, hlookup, hbelow⟩ := Json.follow?_cons_eq_some hfound
      rw [← List.singleton_append, ← List.append_assoc] at hmem
      exact mem_nodes_named.2 ⟨_, Fields.mem_of_lookup hlookup, ih hbelow hmem⟩

/-- The search comes to every object that such a way leads to. -/
theorem mem_nodes_of_follow? {fields : List (String × Json)} (h : Way role depth way)
    (hfound : value.follow? way = some (.object fields)) (pre : List String) :
    (pre ++ way, .object fields) ∈ nodes role pre value :=
  h.mem_nodes_below hfound (mem_nodes_object.2 (.inl ⟨rfl, rfl⟩))

theorem prefix_of_mem_nodes (h : (way, node) ∈ nodes role pre value) : pre <+: way := by
  obtain ⟨_, below, rfl, _⟩ := exists_way_of_mem_nodes 0 h
  exact ⟨below, rfl⟩

/-- Ways that part at a key are different. -/
theorem eq_of_prefix_concat {key other : String} (h : pre ++ [key] <+: way)
    (hother : pre ++ [other] <+: way) : key = other := by
  obtain ⟨below, rfl⟩ := h
  obtain ⟨below', heq⟩ := hother
  simp only [List.append_assoc, List.append_cancel_left_eq, List.singleton_append] at heq
  exact (List.cons.inj heq).1.symm

/-- The search comes to no node twice. -/
theorem nodup_nodes (h : value.Ordered) (role : Schema.Role) (pre : List String) :
    ((nodes role pre value).map (·.1)).Nodup := by
  induction value using Json.induction generalizing role pre with
  | object fields ih =>
      obtain ⟨hascending, hvalues⟩ := Json.ordered_object.1 h
      cases role with
      | schema =>
          have hbelow : ∀ key, ((((nodesBelow pre fields).lookup key).getD []).map (·.1)).Nodup ∧
              ∀ way ∈ (((nodesBelow pre fields).lookup key).getD []).map (·.1),
                pre ++ [key] <+: way := by
            intro key
            rw [lookup_nodesBelow]
            cases hfound : fields.lookup key with
            | none => simp
            | some value =>
                have hmem := Fields.mem_of_lookup hfound
                refine ⟨ih _ hmem (hvalues _ hmem) _ _, fun way hway => ?_⟩
                obtain ⟨node, hnode, rfl⟩ := List.mem_map.1 hway
                exact prefix_of_mem_nodes hnode
          have hlonger : ∀ key, ¬pre ++ [key] <+: pre := by
            intro key hprefix
            have hlength := hprefix.length_le
            rw [List.length_append, List.length_singleton] at hlength
            omega
          rw [nodes, List.map_cons, List.nodup_cons, List.map_append]
          refine ⟨fun hpre => ?_, (hbelow _).1.append (hbelow _).1 fun way hway hway' => ?_⟩
          · rcases List.mem_append.1 hpre with hpre | hpre
            · exact hlonger _ ((hbelow _).2 _ hpre)
            · exact hlonger _ ((hbelow _).2 _ hpre)
          · have hkeys := eq_of_prefix_concat ((hbelow _).2 _ hway) ((hbelow _).2 _ hway')
            exact absurd hkeys (by decide)
      | named =>
          rw [nodes, nodesNamed_eq, List.map_flatMap, List.nodup_flatMap]
          refine ⟨fun field hfield => ih field hfield (hvalues field hfield) _ _, ?_⟩
          refine hascending.imp fun {field other} hless way hway hway' => ?_
          obtain ⟨node, hnode, rfl⟩ := List.mem_map.1 hway
          obtain ⟨node', hnode', heq⟩ := List.mem_map.1 hway'
          have hprefix := prefix_of_mem_nodes hnode'
          rw [heq] at hprefix
          rw [eq_of_prefix_concat (prefix_of_mem_nodes hnode) hprefix] at hless
          exact String.lt_irrefl _ hless
      | _ => exact .nil
  | _ => cases role <;> simp [nodes]

end Searching

theorem mem_inlineObjects_iff (hordered : (Json.object definitions.entries).Ordered) :
    occurrence ∈ inlineObjects definitions ↔ InlineAt definitions occurrence := by
  obtain ⟨name, segments⟩ := occurrence
  unfold inlineObjects
  rw [List.mem_flatMap]
  constructor
  · rintro ⟨⟨_, body⟩, hentry, hmem⟩
    obtain ⟨⟨way, node⟩, hnode, heq⟩ := List.mem_map.1 hmem
    cases heq
    obtain ⟨hnode, hinline⟩ := List.mem_filter.1 hnode
    rw [Bool.and_eq_true] at hinline
    obtain ⟨depth, below, rfl, hway, _, hfollow⟩ := exists_way_of_mem_nodes 0 hnode
    have hbody := NameMap.get?_eq_some_iff.2 hentry
    refine ⟨by simpa using hinline.1, ⟨depth, hway⟩, node, ?_, hinline.2⟩
    rw [Occurrence.value?_eq, hbody]
    exact hfollow (Json.ordered_entries.1 hordered _ body hbody)
  · rintro ⟨hinner, ⟨depth, hway⟩, schema, hschema, hinline⟩
    obtain ⟨body, hbody, hfollow⟩ := Option.bind_eq_some_iff.1 hschema
    obtain ⟨⟨fields, rfl⟩, _⟩ := isInlineObject_get? hinline
    refine ⟨(name, body), NameMap.get?_eq_some_iff.1 hbody,
      List.mem_map.2 ⟨(segments, .object fields), ?_, rfl⟩⟩
    refine List.mem_filter.2 ⟨mem_nodes_of_follow? hway hfollow [], ?_⟩
    simpa [hinline] using hinner

theorem mem_freeObjects_iff (hordered : (Json.object definitions.entries).Ordered) :
    occurrence ∈ freeObjects pinned definitions ↔
      InlineAt definitions occurrence ∧ occurrence.isPinned pinned = false := by
  rw [freeObjects, List.mem_filter, mem_inlineObjects_iff hordered, Bool.not_eq_true']

/-- What stands inside a free object is free. -/
theorem descend_mem_freeObjects (hordered : (Json.object definitions.entries).Ordered)
    (h : occurrence ∈ freeObjects pinned definitions) {way : List String}
    (hbelow : InlineAt definitions (occurrence.descend way)) :
    occurrence.descend way ∈ freeObjects pinned definitions := by
  have hunpinned := ((mem_freeObjects_iff hordered).1 h).2
  rw [Bool.eq_false_iff] at hunpinned
  rw [mem_freeObjects_iff hordered, Bool.eq_false_iff]
  exact ⟨hbelow, fun hpinned => hunpinned (Occurrence.isPinned_of_descend hpinned)⟩

theorem nodup_inlineObjects (hordered : (Json.object definitions.entries).Ordered) :
    (inlineObjects definitions).Nodup := by
  unfold inlineObjects
  rw [List.nodup_flatMap]
  constructor
  · rintro ⟨name, body⟩ hentry
    have hbody := Json.ordered_entries.1 hordered name body (NameMap.get?_eq_some_iff.2 hentry)
    refine List.Nodup.of_map (fun occurrence : Occurrence => occurrence.segments) ?_
    rw [List.map_map]
    exact (nodup_nodes hbody .schema []).sublist (List.filter_sublist.map _)
  · refine (List.pairwise_map.1 definitions.nodup_names).imp fun {entry other} hne => ?_
    intro occurrence hhere hthere
    obtain ⟨_, _, rfl⟩ := List.mem_map.1 hhere
    obtain ⟨_, _, heq⟩ := List.mem_map.1 hthere
    exact hne (congrArg Occurrence.definition heq).symm

theorem nodup_freeObjects (hordered : (Json.object definitions.entries).Ordered)
    (pinned : List String) : (freeObjects pinned definitions).Nodup :=
  (nodup_inlineObjects hordered).filter _

/-- The normal form by which the object at an occurrence is compared. -/
noncomputable def formAt (definitions : NameMap Json) (occurrence : Occurrence) : Option Json :=
  (occurrence.value? definitions).map (Key.form (SchemaRef.ofName "") .schema)

theorem Way.append {role : Schema.Role} {d e : Nat} {way below : List String}
    (h : Way role d way) (hbelow : Way .schema e below) : Way role (d + e) (way ++ below) := by
  induction h with
  | here =>
      rw [Nat.zero_add]
      exact hbelow
  | items _ ih =>
      rw [Nat.add_right_comm]
      exact .items ih
  | properties _ ih =>
      rw [Nat.add_right_comm]
      exact .properties ih
  | name name _ ih => exact .name name ih

section Twins

variable {outer twin : Occurrence} {way : List String}

/-- The normal form of an object has those of the objects inside. -/
theorem exists_follow?_formAt (houter : InlineAt definitions outer)
    (hinner : InlineAt definitions (outer.descend way)) : ∃ whole part,
      formAt definitions outer = some whole ∧
      formAt definitions (outer.descend way) = some part ∧ whole.follow? way = some part := by
  obtain ⟨_, hway⟩ := houter.way
  obtain ⟨_, hways⟩ := hinner.way
  obtain ⟨_, hbelow⟩ := hway.exists_below hways
  obtain ⟨schema, hschema, _⟩ := houter.inline
  obtain ⟨inside, hinside, hinline⟩ := hinner.inline
  obtain ⟨⟨fields, rfl⟩, _⟩ := isInlineObject_get? hinline
  rw [formAt, formAt, hschema, hinside]
  refine ⟨_, _, rfl, rfl, ?_⟩
  rw [Occurrence.value?_descend, hschema] at hinside
  rw [Key.form_node]
  exact (Key.follow?_form_iff hbelow).2 ⟨fields, hinside, Key.form_node fields⟩

/-- Objects with one normal form have the same objects inside. -/
theorem exists_twin (houter : InlineAt definitions outer) (htwin : InlineAt definitions twin)
    (hform : formAt definitions outer = formAt definitions twin) (hway : way ≠ [])
    (hinner : InlineAt definitions (outer.descend way)) :
    InlineAt definitions (twin.descend way) ∧
      formAt definitions (twin.descend way) = formAt definitions (outer.descend way) := by
  obtain ⟨_, hways⟩ := hinner.way
  obtain ⟨_, houtway⟩ := houter.way
  obtain ⟨_, hbelow⟩ := houtway.exists_below hways
  obtain ⟨_, htwinway⟩ := htwin.way
  obtain ⟨schema, hschema, _⟩ := htwin.inline
  obtain ⟨inside, hinside, hinline⟩ := hinner.inline
  obtain ⟨⟨fields, rfl⟩, _⟩ := isInlineObject_get? hinline
  obtain ⟨whole, part, hwhole, hpart, hfollow⟩ := exists_follow?_formAt houter hinner
  rw [formAt, hinside, Option.map_some, Option.some.injEq, Key.form_node] at hpart
  rw [hform, formAt, hschema, Option.map_some, Option.some.injEq] at hwhole
  subst hwhole hpart
  obtain ⟨fields', hfound, hsame⟩ := (Key.follow?_form_iff hbelow).1 hfollow
  have hvalue : (twin.descend way).value? definitions = some (.object fields') := by
    rw [Occurrence.value?_descend, hschema]
    exact hfound
  refine ⟨⟨fun hnil => hway (List.append_eq_nil_iff.1 hnil).2, ⟨_, htwinway.append hbelow⟩, _,
    hvalue, ?_⟩, ?_⟩
  · rw [← Key.isInlineObject_form (SchemaRef.ofName ""), hsame, ← Key.form_node,
      Key.isInlineObject_form]
    exact hinline
  · rw [formAt, formAt, hvalue, hinside, Option.map_some, Option.map_some, hsame, Key.form_node]

end Twins

/-- Objects with one normal form do not stand inside each other. -/
theorem not_contains_of_formAt {outer inner : Occurrence} (houter : InlineAt definitions outer)
    (hinner : InlineAt definitions inner)
    (hform : formAt definitions outer = formAt definitions inner) :
    outer.contains inner = false := by
  by_contra hcontains
  rw [Bool.not_eq_false] at hcontains
  obtain ⟨way, hway, rfl⟩ := Occurrence.contains_iff.1 hcontains
  obtain ⟨whole, part, hwhole, hpart, hfollow⟩ := exists_follow?_formAt houter hinner
  have hsame : whole = part := by
    rwa [hwhole, hpart, Option.some.injEq] at hform
  subst hsame
  exact absurd (Json.sizeOf_follow?_lt hway hfollow) (Nat.lt_irrefl _)

theorem ofDefinition_of_isInlineObject {schema : Json} {key : Key} (h : isInlineObject schema)
    (hkey : Key.ofDefinition limit .structural "" schema = .ok key) :
    key = .content (Key.normalForm .structural "" schema).compact := by
  have hshape := Key.ofDefinition_toTier limit .structural "" schema
  rw [aliasTarget?_of_isInlineObject h] at hshape
  have htier : MergeTier.structural.toTier = .structural := rfl
  rw [← htier, hshape] at hkey
  dsimp only [Key.ofShape] at hkey
  split at hkey
  · cases hkey
  · exact (Except.ok.inj hkey).symm

/-- Inline objects with keys have one key iff they have one normal form. -/
theorem key_eq_iff_formAt_eq {a b : Occurrence} {u v : Json} {k l : Key}
    (ha : InlineAt definitions a) (hb : InlineAt definitions b)
    (hu : a.value? definitions = some u) (hv : b.value? definitions = some v)
    (hk : Key.ofDefinition limit .structural "" u = .ok k)
    (hl : Key.ofDefinition limit .structural "" v = .ok l) :
    k = l ↔ formAt definitions a = formAt definitions b := by
  have hinline : ∀ {occurrence : Occurrence} {schema : Json}, InlineAt definitions occurrence →
      occurrence.value? definitions = some schema → isInlineObject schema := by
    intro occurrence schema hat hschema
    obtain ⟨found, hfound, hinline⟩ := hat.inline
    rw [hschema, Option.some.injEq] at hfound
    exact hfound ▸ hinline
  rw [ofDefinition_of_isInlineObject (hinline ha hu) hk,
    ofDefinition_of_isInlineObject (hinline hb hv) hl, Key.content.injEq, Json.compact_eq_iff,
    Key.unified_normalForm_eq_form, Key.unified_normalForm_eq_form, formAt, formAt, hu, hv,
    Option.map_some, Option.map_some, Option.some.injEq]

/-- An object that is listed with its key. -/
def Keyed (limit : UInt64) (definitions : NameMap Json) (entry : Key × Occurrence) : Prop :=
  ∃ schema, entry.2.value? definitions = some schema ∧
    Key.ofDefinition limit .structural "" schema = .ok entry.1

theorem listed_of_keyOf? {found : List Occurrence} {keyed : List (Option (Key × Occurrence))}
    (h : List.Forall₂ (fun occurrence entry => keyOf? limit definitions occurrence = .ok entry)
      found keyed)
    (hthere : ∀ occurrence ∈ found, (occurrence.value? definitions).isSome) :
    (keyed.filterMap id).map (·.2) = found ∧
      ∀ entry ∈ keyed.filterMap id, Keyed limit definitions entry := by
  induction h with
  | nil => exact ⟨rfl, fun _ hentry => absurd hentry List.not_mem_nil⟩
  | @cons occurrence entry found keyed hkey _ ih =>
      rw [List.forall_mem_cons] at hthere
      obtain ⟨hrest, hall⟩ := ih hthere.2
      obtain ⟨schema, hschema⟩ := Option.isSome_iff_exists.1 hthere.1
      have hsome : ∃ key, entry = some (key, occurrence) := by
        rw [keyOf?, hschema] at hkey
        dsimp only at hkey
        cases hof : Key.ofDefinition limit .structural "" schema with
        | error error =>
            rw [hof] at hkey
            cases hkey
        | ok key =>
            rw [hof] at hkey
            exact ⟨key, (Except.ok.inj hkey).symm⟩
      obtain ⟨key, rfl⟩ := hsome
      have hcons : (some (key, occurrence) :: keyed).filterMap id =
          (key, occurrence) :: keyed.filterMap id := rfl
      rw [hcons, List.map_cons, hrest, List.forall_mem_cons]
      exact ⟨rfl, (keyOf?_eq_ok hkey).2, hall⟩

/-- The free objects are listed with their keys, and the groups gathered from the list. -/
theorem exists_listed (hordered : (Json.object definitions.entries).Ordered)
    (h : repeatedShapes? limit pinned definitions = .ok groups) :
    ∃ listed : List (Key × Occurrence), listed.map (·.2) = freeObjects pinned definitions ∧
      (∀ entry ∈ listed, Keyed limit definitions entry) ∧
      groups = ((gather listed).map (·.2)).filter fun group => 1 < group.length := by
  obtain ⟨found, hfound, h⟩ := bind_eq_ok.1 h
  obtain ⟨keyed, hkeyed, h⟩ := bind_eq_ok.1 h
  rw [pure_eq_ok] at h
  rw [allInlineObjects?_eq_ok hfound] at hkeyed
  obtain ⟨hlisted, hall⟩ := listed_of_keyOf? (mapM_eq_ok.1 hkeyed) fun occurrence hmem =>
    ((mem_freeObjects_iff hordered).1 hmem).1.isSome_value?
  exact ⟨_, hlisted, hall, h.symm⟩

/-- What the repeated shapes are: the free objects, grouped by their normal forms, where that is
more than one. -/
structure Shapes (limit : UInt64) (pinned : List String) (definitions : NameMap Json)
    (groups : List (List Occurrence)) : Prop where
  keyed : ∀ occurrence ∈ freeObjects pinned definitions, ∃ key,
    Keyed limit definitions (key, occurrence)
  free : ∀ group ∈ groups, ∀ occurrence ∈ group, occurrence ∈ freeObjects pinned definitions
  alike : ∀ group ∈ groups, ∀ a ∈ group, ∀ b ∈ group, formAt definitions a = formAt definitions b
  full : ∀ group ∈ groups, ∀ a ∈ group, ∀ b ∈ freeObjects pinned definitions,
    formAt definitions a = formAt definitions b → b ∈ group
  every : ∀ a ∈ freeObjects pinned definitions, ∀ b ∈ freeObjects pinned definitions, a ≠ b →
    formAt definitions a = formAt definitions b → ∃ group ∈ groups, a ∈ group
  nodup : ∀ group ∈ groups, group.Nodup
  two : ∀ group ∈ groups, 1 < group.length

theorem shapes_of_repeatedShapes? (hordered : (Json.object definitions.entries).Ordered)
    (h : repeatedShapes? limit pinned definitions = .ok groups) :
    Shapes limit pinned definitions groups := by
  obtain ⟨listed, hlisted, hkeyed, rfl⟩ := exists_listed hordered h
  have hentry : ∀ {occurrence}, occurrence ∈ freeObjects pinned definitions →
      ∃ key, (key, occurrence) ∈ listed := by
    intro occurrence hmem
    rw [← hlisted] at hmem
    obtain ⟨⟨key, _⟩, hin, rfl⟩ := List.mem_map.1 hmem
    exact ⟨key, hin⟩
  have hfree : ∀ {entry}, entry ∈ listed → entry.2 ∈ freeObjects pinned definitions :=
    fun hin => hlisted ▸ List.mem_map_of_mem hin
  have hsame : ∀ {k l : Key} {a b : Occurrence}, (k, a) ∈ listed → (l, b) ∈ listed →
      (k = l ↔ formAt definitions a = formAt definitions b) := by
    intro k l a b ha hb
    obtain ⟨u, hu, hk⟩ := hkeyed _ ha
    obtain ⟨v, hv, hl⟩ := hkeyed _ hb
    exact key_eq_iff_formAt_eq ((mem_freeObjects_iff hordered).1 (hfree ha)).1
      ((mem_freeObjects_iff hordered).1 (hfree hb)).1 hu hv hk hl
  refine ⟨fun occurrence hmem => ?_, fun group hgroup occurrence hmem => ?_,
    fun group hgroup a ha b hb => ?_, fun group hgroup a ha b hb hform => ?_,
    fun a ha b hb hne hform => ?_, fun group hgroup => ?_,
    fun group hgroup => (mem_several_iff.1 hgroup).2⟩
  · obtain ⟨key, hin⟩ := hentry hmem
    exact ⟨key, hkeyed _ hin⟩
  · obtain ⟨⟨key, hin⟩, _⟩ := mem_several_iff.1 hgroup
    exact hfree ((mem_gathered_iff hin).1 hmem)
  · obtain ⟨⟨key, hin⟩, _⟩ := mem_several_iff.1 hgroup
    exact (hsame ((mem_gathered_iff hin).1 ha) ((mem_gathered_iff hin).1 hb)).1 rfl
  · obtain ⟨⟨key, hin⟩, _⟩ := mem_several_iff.1 hgroup
    obtain ⟨other, hother⟩ := hentry hb
    rw [← hsame ((mem_gathered_iff hin).1 ha) hother] at hform
    exact (mem_gathered_iff hin).2 (hform ▸ hother)
  · obtain ⟨key, hkey⟩ := hentry ha
    obtain ⟨other, hother⟩ := hentry hb
    rw [← hsame hkey hother] at hform
    subst hform
    obtain ⟨group, hgroup⟩ := exists_mem_gather hkey
    have ha := (mem_gathered_iff hgroup).2 hkey
    have hlength : 1 < group.length := two_le_length hne ha ((mem_gathered_iff hgroup).2 hother)
    exact ⟨group, mem_several_iff.2 ⟨⟨_, hgroup⟩, hlength⟩, ha⟩
  · obtain ⟨⟨key, hin⟩, _⟩ := mem_several_iff.1 hgroup
    rw [eq_filter_of_mem_gather hin]
    exact (List.filter_sublist.map _).nodup (hlisted ▸ nodup_freeObjects hordered pinned)

namespace Shapes

variable (h : Shapes limit pinned definitions groups)
  (hordered : (Json.object definitions.entries).Ordered)

include h hordered

theorem inlineAt {group : List Occurrence} (hgroup : group ∈ groups) (hmem : occurrence ∈ group) :
    InlineAt definitions occurrence :=
  ((mem_freeObjects_iff hordered).1 (h.free group hgroup occurrence hmem)).1

/-- Inside the objects of a group that is not innermost there are objects of another group, with a
smaller normal form. -/
theorem exists_smaller {group : List Occurrence} (hgroup : group ∈ groups)
    (hnot : group ∉ innermost groups) (hmem : occurrence ∈ group) {whole : Json}
    (hwhole : formAt definitions occurrence = some whole) :
    ∃ other ∈ groups, ∃ inner ∈ other, ∃ part, formAt definitions inner = some part ∧
      sizeOf part < sizeOf whole := by
  rw [mem_innermost, and_iff_right hgroup] at hnot
  push Not at hnot
  obtain ⟨outer, houter, other, hother, _, inner, hinner, hcontains⟩ := hnot
  obtain ⟨way, hway, rfl⟩ := Occurrence.contains_iff.1 (Bool.of_not_eq_false hcontains)
  obtain ⟨full, part, hfull, hpart, hfollow⟩ := exists_follow?_formAt
    (h.inlineAt hordered hgroup houter) (h.inlineAt hordered hother hinner)
  rw [h.alike group hgroup outer houter occurrence hmem, hwhole, Option.some.injEq] at hfull
  subst hfull
  exact ⟨other, hother, _, hinner, part, hpart, Json.sizeOf_follow?_lt hway hfollow⟩

/-- Some group is innermost, for the normal forms cannot get smaller and smaller. -/
theorem innermost_ne_nil (hne : groups ≠ []) : innermost groups ≠ [] := by
  suffices ∀ size, ∀ group ∈ groups, ∀ occurrence ∈ group, ∀ whole,
      formAt definitions occurrence = some whole → sizeOf whole = size → innermost groups ≠ [] by
    obtain ⟨group, hgroup⟩ := List.exists_mem_of_ne_nil groups hne
    have htwo := h.two group hgroup
    obtain ⟨occurrence, hmem⟩ := List.exists_mem_of_length_pos (by omega : 0 < group.length)
    obtain ⟨schema, hschema, _⟩ := (h.inlineAt hordered hgroup hmem).inline
    exact this _ group hgroup occurrence hmem _ (by rw [formAt, hschema]; rfl) rfl
  intro size
  induction size using Nat.strongRecOn with
  | _ size ih =>
      rintro group hgroup occurrence hmem whole hwhole rfl
      by_cases hinnermost : group ∈ innermost groups
      · exact List.ne_nil_of_mem hinnermost
      · obtain ⟨other, hother, inner, hinner, part, hpart, hsmaller⟩ :=
          h.exists_smaller hordered hgroup hinnermost hmem hwhole
        exact ih _ hsmaller other hother inner hinner part hpart rfl

/-- An innermost shape has no inline object inside: what stands inside one of its objects stands
inside another one too, so it is repeated. -/
theorem bare {group : List Occurrence} (hgroup : group ∈ innermost groups) {outer : Occurrence}
    (houter : outer ∈ group) {inner : Occurrence} (hinner : InlineAt definitions inner) :
    outer.contains inner = false := by
  by_contra hcontains
  rw [Bool.not_eq_false] at hcontains
  obtain ⟨way, hway, rfl⟩ := Occurrence.contains_iff.1 hcontains
  obtain ⟨hmember, hinnermost⟩ := mem_innermost.1 hgroup
  have hinline : ∀ {occurrence : Occurrence}, occurrence ∈ group → InlineAt definitions occurrence :=
    fun hmem => h.inlineAt hordered hmember hmem
  have hfree : ∀ {occurrence : Occurrence}, occurrence ∈ group →
      InlineAt definitions (occurrence.descend way) →
        occurrence.descend way ∈ freeObjects pinned definitions :=
    fun hmem => descend_mem_freeObjects hordered (h.free group hmember _ hmem)
  obtain ⟨twin, htwin, hne⟩ := exists_mem_ne (h.nodup group hmember) (h.two group hmember) outer
  obtain ⟨hbelow, hform⟩ := exists_twin (hinline houter) (hinline htwin)
    (h.alike group hmember outer houter twin htwin) hway hinner
  obtain ⟨other, hother, hmem⟩ := h.every _ (hfree houter hinner) _ (hfree htwin hbelow)
    (fun heq => hne (Occurrence.descend_inj heq).symm) hform.symm
  refine absurd hcontains (ne_true_of_eq_false
    (hinnermost outer houter other hother (fun hhead => ?_) _ hmem))
  -- Were it the group itself, an object would stand inside one with its normal form.
  obtain ⟨first, hfirst⟩ : ∃ first, group.head? = some first :=
    ⟨_, List.head?_eq_some_head (List.ne_nil_of_mem houter)⟩
  have hsame : formAt definitions outer = formAt definitions (outer.descend way) :=
    (h.alike group hmember _ houter _ (List.mem_of_mem_head? hfirst)).trans
      (h.alike other hother _ (List.mem_of_mem_head? (hhead ▸ hfirst)) _ hmem)
  rw [not_contains_of_formAt (hinline houter) hinner hsame] at hcontains
  cases hcontains

end Shapes

end Extraction

end SchemaMerge
