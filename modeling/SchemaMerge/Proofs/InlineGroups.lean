import SchemaMerge.Proofs.Extracting
import SchemaMerge.Proofs.Groups
import SchemaMerge.Proofs.InlineWays

/-!
The groups of one round of an extraction. Each object of a group stands at the end of a way that the
search takes, nothing points at it or into it, and all objects of the group have one key
(`Extraction.Repeats`). The objects of two groups that are taken out in one round stand apart from
each other (`Extraction.Repeats.pairwise_apart`), so the round may take out its groups one after the
other although it has looked for them once (`Extraction.Repeats.round_induction`).
So what is kept whenever a group is taken out is kept by the whole extraction
(`Extraction.extraction_induction`).
-/

namespace SchemaMerge

open Extraction (Way replaceAt replace)

namespace Occurrence

/-- The objects stand in two definitions, or neither of them below the other. -/
def Apart (a b : Occurrence) : Prop :=
  a.definition = b.definition → Extraction.Apart a.segments b.segments

section Replacing

variable (new : Json) (definitions : NameMap Json) (occurrence : Occurrence)

theorem get?_replace (name : String) :
    (replace new definitions occurrence).get? name =
      (definitions.get? name).map fun schema =>
        if name = occurrence.definition then replaceAt new occurrence.segments schema
        else schema :=
  NameMap.get?_map ..

theorem value?_eq : occurrence.value? definitions =
    (definitions.get? occurrence.definition).bind (·.follow? occurrence.segments) := rfl

/-- What stands further down stands below what stands at the occurrence. -/
theorem value?_append (further : List String) :
    (⟨occurrence.definition, occurrence.segments ++ further⟩ : Occurrence).value? definitions =
      (occurrence.value? definitions).bind (·.follow? further) := by
  rw [value?_eq, value?_eq, Option.bind_assoc]
  exact congrArg (Option.bind _) (funext fun body => Json.follow?_append body _ further)

theorem value?_replace_above (further : List String) :
    occurrence.value? (replace new definitions
        ⟨occurrence.definition, occurrence.segments ++ further⟩) =
      (occurrence.value? definitions).map (replaceAt new further) := by
  rw [value?_eq, value?_eq, get?_replace]
  cases definitions.get? occurrence.definition with
  | none => rfl
  | some schema =>
      rw [Option.map_some, if_pos rfl]
      exact Extraction.follow?_replaceAt_above ..

theorem value?_replace_self :
    occurrence.value? (replace new definitions occurrence) =
      (occurrence.value? definitions).map fun _ => new := by
  have h := value?_replace_above new definitions occurrence []
  rwa [List.append_nil,
    show replaceAt new [] = fun _ => new from funext (Extraction.replaceAt_nil new)] at h

variable {occurrence}

theorem value?_replace_of_apart {other : Occurrence} (h : occurrence.Apart other) :
    other.value? (replace new definitions occurrence) = other.value? definitions := by
  rw [value?_eq, value?_eq, get?_replace]
  cases definitions.get? other.definition with
  | none => rfl
  | some schema =>
      rw [Option.map_some]
      split
      case isTrue heq =>
        exact Extraction.follow?_replaceAt_of_apart new schema (h heq.symm)
      case isFalse => rfl

theorem replace_replace (other : Json) :
    replace new (replace other definitions occurrence) occurrence =
      replace new definitions occurrence := by
  apply NameMap.ext_get?
  intro name
  rw [get?_replace, get?_replace, get?_replace, Option.map_map]
  refine congrArg (Option.map · _) (funext fun schema => ?_)
  dsimp only [Function.comp]
  split
  · exact Extraction.replaceAt_replaceAt new schema other
  · rfl

theorem replace_comm (other : Json) {away : Occurrence} (h : occurrence.Apart away) :
    replace new (replace other definitions away) occurrence =
      replace other (replace new definitions occurrence) away := by
  apply NameMap.ext_get?
  intro name
  rw [get?_replace, get?_replace, get?_replace, get?_replace, Option.map_map, Option.map_map]
  refine congrArg (Option.map · _) (funext fun schema => ?_)
  dsimp only [Function.comp]
  by_cases hhere : name = occurrence.definition
  · by_cases haway : name = away.definition
    · rw [if_pos hhere, if_pos haway, if_pos hhere, if_pos haway]
      exact Extraction.replaceAt_comm new schema other (h (hhere.symm.trans haway))
    · rw [if_pos hhere, if_neg haway, if_pos hhere, if_neg haway]
  · rw [if_neg hhere, if_neg hhere]

end Replacing

section Descending

variable {outer inner : Occurrence} {way : List String}

/-- Where a way down from an occurrence ends. -/
def descend (occurrence : Occurrence) (way : List String) : Occurrence :=
  ⟨occurrence.definition, occurrence.segments ++ way⟩

theorem descend_inj (h : outer.descend way = inner.descend way) : outer = inner := by
  obtain ⟨hdefinition, hsegments⟩ := Occurrence.mk.inj h
  cases outer
  cases inner
  exact congr (congrArg mk hdefinition) ((List.append_left_inj way).1 hsegments)

theorem value?_descend (occurrence : Occurrence) (way : List String) (definitions : NameMap Json) :
    (occurrence.descend way).value? definitions =
      (occurrence.value? definitions).bind (·.follow? way) :=
  value?_append definitions occurrence way

theorem contains_iff : outer.contains inner ↔ ∃ way, way ≠ [] ∧ inner = outer.descend way := by
  obtain ⟨name, segments⟩ := outer
  obtain ⟨other, further⟩ := inner
  rw [contains, Bool.and_eq_true, Bool.and_eq_true, decide_eq_true_eq, decide_eq_true_eq,
    List.isPrefixOf_iff_prefix]
  constructor
  · rintro ⟨⟨rfl, hlength⟩, way, rfl⟩
    refine ⟨way, ?_, rfl⟩
    rintro rfl
    simp at hlength
  · rintro ⟨way, hway, heq⟩
    cases heq
    have hlength := List.length_pos_of_ne_nil hway
    refine ⟨⟨rfl, ?_⟩, List.prefix_append segments way⟩
    rw [List.length_append]
    omega

theorem Apart.symm (h : outer.Apart inner) : inner.Apart outer :=
  fun hdefinition => And.symm (h hdefinition.symm)

/-- Occurrences of which none contains the other stand apart. -/
theorem apart_of_not_contains (hne : outer ≠ inner) (h : outer.contains inner = false)
    (h' : inner.contains outer = false) : outer.Apart inner := by
  have hstart : ∀ {a b : Occurrence}, a ≠ b → a.contains b = false →
      a.definition = b.definition → ¬a.segments <+: b.segments := by
    rintro ⟨name, segments⟩ ⟨_, _⟩ hne hcontains rfl ⟨way, rfl⟩
    by_cases hway : way = []
    · subst hway
      simp at hne
    · exact absurd (contains_iff.2 ⟨way, hway, rfl⟩) (ne_true_of_eq_false hcontains)
  exact fun hdefinition =>
    ⟨hstart hne h hdefinition, hstart (Ne.symm hne) h' hdefinition.symm⟩

end Descending

/-- The search comes to the occurrence: below a definition, on a way to a schema, it stands at a
depth that the definition has. -/
structure Found (definitions : NameMap Json) (occurrence : Occurrence) : Prop where
  inner : occurrence.segments ≠ []
  way : ∃ body depth, definitions.get? occurrence.definition = some body ∧
    Way .schema depth occurrence.segments ∧ depth ∈ Schema.depths .schema 0 body
  inline : (Json.object definitions.entries).Ordered →
    ∃ schema, occurrence.value? definitions = some schema ∧ Extraction.isInlineObject schema

end Occurrence

namespace Extraction

variable {limit : UInt64} {pinned : List String} {definitions : NameMap Json}

/-- The search of a definition comes to an end iff no way of it is longer than twice the limit. -/
theorem inlineObjects?_isOk_iff {name : String} {body : Json} :
    (∃ found, inlineObjects? limit name body = .ok found) ↔
      ∀ node ∈ nodes .schema [] body, node.1.length ≤ (limit * 2).toNat := by
  rw [inlineObjects?]
  cases hfound : (nodes .schema [] body).find?
      fun node => (limit * 2).toNat < node.1.length with
  | none =>
      rw [List.find?_eq_none] at hfound
      simpa using hfound
  | some node =>
      have hlonger := List.find?_some hfound
      refine iff_of_false (by simp) fun hall => ?_
      have hle := hall node (List.mem_of_find?_eq_some hfound)
      rw [decide_eq_true_eq] at hlonger
      omega

theorem found_of_mem_inlineObjects? {name : String} {body : Json} {found : List Occurrence}
    (hbody : definitions.get? name = some body) (h : inlineObjects? limit name body = .ok found)
    {occurrence : Occurrence} (hmem : occurrence ∈ found) : occurrence.Found definitions := by
  rw [inlineObjects?] at h
  split at h
  case h_1 => cases h
  case h_2 =>
    cases h
    obtain ⟨⟨way, node⟩, hnode, rfl⟩ := List.mem_map.1 hmem
    obtain ⟨hnode, hinline⟩ := List.mem_filter.1 hnode
    rw [Bool.and_eq_true] at hinline
    obtain ⟨depth, below, rfl, hway, hdepth, hfollow⟩ := exists_way_of_mem_nodes 0 hnode
    rw [Nat.zero_add] at hdepth
    refine ⟨by simpa using hinline.1, ⟨body, depth, hbody, hway, hdepth⟩, fun hordered => ?_⟩
    refine ⟨node, ?_, hinline.2⟩
    rw [Occurrence.value?_eq, hbody]
    exact hfollow (Json.ordered_entries.1 hordered name body hbody)

theorem found_of_mem_allInlineObjects? {found : List Occurrence}
    (h : allInlineObjects? limit definitions = .ok found) {occurrence : Occurrence}
    (hmem : occurrence ∈ found) : occurrence.Found definitions := by
  obtain ⟨lists, hlists, h⟩ := bind_eq_ok.1 h
  rw [pure_eq_ok] at h
  subst h
  obtain ⟨list, hlist, hmem⟩ := List.mem_flatten.1 hmem
  obtain ⟨entry, hentry, hof⟩ := exists_left_of_forall₂ (mapM_eq_ok.1 hlists) hlist
  exact found_of_mem_inlineObjects? (NameMap.get?_eq_some_iff.2 hentry) hof hmem

/-- What is known of the repeated shapes among the definitions. -/
structure Repeats (limit : UInt64) (pinned : List String) (definitions : NameMap Json)
    (groups : List (List Occurrence)) : Prop where
  found : ∀ group ∈ groups, ∀ occurrence ∈ group, occurrence.Found definitions
  free : ∀ group ∈ groups, ∀ occurrence ∈ group, occurrence.isPinned pinned = false
  alike : ∀ group ∈ groups, ∃ key, ∀ occurrence ∈ group, ∃ schema,
    occurrence.value? definitions = some schema ∧
      Key.ofDefinition limit .structural "" schema = .ok key
  disjoint : groups.Pairwise List.Disjoint

theorem keyOf?_eq_ok {occurrence other : Occurrence} {key : Key}
    (h : keyOf? limit definitions occurrence = .ok (some (key, other))) :
    other = occurrence ∧ ∃ schema, occurrence.value? definitions = some schema ∧
      Key.ofDefinition limit .structural "" schema = .ok key := by
  rw [keyOf?] at h
  split at h
  case h_1 => cases h
  case h_2 schema hschema =>
    cases hkey : Key.ofDefinition limit .structural "" schema with
    | error error =>
        rw [hkey] at h
        cases h
    | ok found =>
        rw [hkey] at h
        cases h
        exact ⟨rfl, schema, hschema, hkey⟩

theorem repeats_of_repeatedShapes? {groups : List (List Occurrence)}
    (h : repeatedShapes? limit pinned definitions = .ok groups) :
    Repeats limit pinned definitions groups := by
  obtain ⟨found, hfound, h⟩ := bind_eq_ok.1 h
  obtain ⟨keyed, hkeyed, h⟩ := bind_eq_ok.1 h
  rw [pure_eq_ok] at h
  subst h
  -- An object is listed with its key, if it is found and free.
  have hlisted : ∀ key occurrence, (key, occurrence) ∈ keyed.filterMap id →
      occurrence ∈ found ∧ occurrence.isPinned pinned = false ∧ ∃ schema,
        occurrence.value? definitions = some schema ∧
          Key.ofDefinition limit .structural "" schema = .ok key := by
    intro key occurrence hmem
    obtain ⟨pair, hpair, rfl⟩ := List.mem_filterMap.1 hmem
    obtain ⟨origin, horigin, hof⟩ := exists_left_of_forall₂ (mapM_eq_ok.1 hkeyed) hpair
    obtain ⟨rfl, hkey⟩ := keyOf?_eq_ok hof
    obtain ⟨horigin, hfree⟩ := List.mem_filter.1 horigin
    exact ⟨horigin, by simpa using hfree, hkey⟩
  have hentry : ∀ group ∈ ((gather (keyed.filterMap id)).map (·.2)).filter
      (fun group => 1 < group.length), ∃ key, ∀ occurrence ∈ group,
        (key, occurrence) ∈ keyed.filterMap id := by
    intro group hgroup
    obtain ⟨⟨key, hkey⟩, _⟩ := mem_several_iff.1 hgroup
    exact ⟨key, fun occurrence hmem => (mem_gathered_iff hkey).1 hmem⟩
  refine ⟨fun group hgroup occurrence hmem => ?_, fun group hgroup occurrence hmem => ?_,
    fun group hgroup => ?_, ?_⟩
  · obtain ⟨key, hall⟩ := hentry group hgroup
    exact found_of_mem_allInlineObjects? hfound (hlisted key occurrence (hall occurrence hmem)).1
  · obtain ⟨key, hall⟩ := hentry group hgroup
    exact (hlisted key occurrence (hall occurrence hmem)).2.1
  · obtain ⟨key, hall⟩ := hentry group hgroup
    exact ⟨key, fun occurrence hmem => (hlisted key occurrence (hall occurrence hmem)).2.2⟩
  · -- An object has one key, and the groups have different ones.
    refine List.Pairwise.filter _ (List.pairwise_map.2 ?_)
    refine (List.pairwise_map.1 (nodup_keys_gather _)).imp_of_mem fun ha hb hne => ?_
    intro occurrence hina hinb
    obtain ⟨_, _, schema, hschema, hkey⟩ := hlisted _ _ ((mem_gathered_iff ha).1 hina)
    obtain ⟨_, _, _, hschema', hkey'⟩ := hlisted _ _ ((mem_gathered_iff hb).1 hinb)
    rw [hschema, Option.some.injEq] at hschema'
    rw [← hschema', hkey, Except.ok.injEq] at hkey'
    exact hne hkey'

theorem mem_innermost {groups : List (List Occurrence)} {group : List Occurrence} :
    group ∈ innermost groups ↔ group ∈ groups ∧ ∀ outer ∈ group, ∀ other ∈ groups,
      other.head? ≠ group.head? → ∀ inner ∈ other, outer.contains inner = false := by
  rw [innermost, List.mem_filter]
  refine and_congr_right' ?_
  simp only [Bool.not_eq_true', List.any_eq_false, Bool.and_eq_true, decide_eq_true_eq, not_and,
    Bool.not_eq_true]

/-- The objects of two groups of one round stand apart. -/
theorem Repeats.pairwise_apart {groups : List (List Occurrence)}
    (h : Repeats limit pinned definitions groups) :
    (innermost groups).Pairwise fun a b => ∀ here ∈ a, ∀ there ∈ b, here.Apart there := by
  -- No object of the one group is or contains one of the other.
  have hcontains : ∀ {a b : List Occurrence}, a ∈ innermost groups → b ∈ innermost groups →
      a.Disjoint b → ∀ outer ∈ a, ∀ inner ∈ b, outer.contains inner = false := by
    intro a b ha hb hdisjoint outer houter inner hinner
    refine (mem_innermost.1 ha).2 outer houter b (mem_innermost.1 hb).1 (fun hhead => ?_) inner hinner
    cases b with
    | nil => cases hinner
    | cons first rest =>
        exact hdisjoint (List.mem_of_mem_head? (hhead ▸ List.head?_cons)) List.mem_cons_self
  refine (List.Pairwise.filter _ h.disjoint).imp_of_mem fun ha hb hdisjoint => ?_
  intro here hhere there hthere
  refine Occurrence.apart_of_not_contains ?_ (hcontains ha hb hdisjoint here hhere there hthere)
    (hcontains hb ha (List.disjoint_comm.1 hdisjoint) there hthere here hhere)
  rintro rfl
  exact hdisjoint hhere hthere

/-- A group is taken out: its first object becomes a definition, to which references point from
where the objects of the group have been. -/
structure TakesOut (state : State) (group : List Occurrence) (name : String) (body : Json)
    (next : State) : Prop where
  named : ∃ first, group.head? = some first ∧ first.value? state.definitions = some body ∧
    name = uniqueName first.nameHint state.definitions
  definitions : next.definitions = (group.foldl (replace (.refTo (SchemaRef.ofName name)))
    state.definitions).insert name body
  extracted : next.extracted = state.extracted ++ [⟨name, group.map Occurrence.pointer⟩]

theorem TakesOut.fresh {state next : State} {group : List Occurrence} {name : String} {body : Json}
    (h : TakesOut state group name body next) : state.definitions.get? name = none := by
  obtain ⟨_, _, _, rfl⟩ := h.named
  exact uniqueName_free ..

theorem extractGroup_cases (state : State) (group : List Occurrence) :
    extractGroup state group = state ∨
      ∃ name body, TakesOut state group name body (extractGroup state group) := by
  cases group with
  | nil => exact .inl rfl
  | cons first rest =>
      rw [extractGroup]
      split
      case h_1 => exact .inl rfl
      case h_2 body hbody => exact .inr ⟨_, body, ⟨first, rfl, hbody, rfl⟩, rfl, rfl⟩

section Values

variable {state next : State} {group : List Occurrence} {name : String} {body : Json}
  {occurrence : Occurrence}

theorem value?_foldl_replace_of_apart {new : Json} (definitions : NameMap Json)
    (h : ∀ other ∈ group, other.Apart occurrence) :
    occurrence.value? (group.foldl (replace new) definitions) = occurrence.value? definitions := by
  induction group generalizing definitions with
  | nil => rfl
  | cons first rest ih =>
      rw [List.forall_mem_cons] at h
      rw [List.foldl_cons, ih _ h.2, Occurrence.value?_replace_of_apart new definitions h.1]

/-- A new definition is none that an object stands in. -/
theorem value?_insert_of_fresh (definitions : NameMap Json) {value : Json}
    (hfresh : definitions.get? name = none) (hvalue : occurrence.value? definitions = some value) :
    occurrence.value? (definitions.insert name body) = some value := by
  rw [Occurrence.value?_eq] at hvalue
  obtain ⟨whole, hwhole, _⟩ := Option.bind_eq_some_iff.1 hvalue
  have hne : occurrence.definition ≠ name := by
    rintro heq
    rw [heq, hfresh] at hwhole
    cases hwhole
  rw [Occurrence.value?_eq, NameMap.get?_insert, if_neg hne, hvalue]

/-- The shape comes to the definitions that are there. -/
theorem TakesOut.contains_iff (h : TakesOut state group name body next) {other : String} :
    next.definitions.contains other ↔ other = name ∨ state.definitions.contains other := by
  have hold : (group.foldl (replace (.refTo (SchemaRef.ofName name))) state.definitions).contains
      other ↔ state.definitions.contains other := by
    rw [← NameMap.mem_names_iff, names_foldl_replace, NameMap.mem_names_iff]
  rw [h.definitions, NameMap.contains, NameMap.get?_insert, ← hold]
  by_cases hother : other = name
  · simp [hother]
  · simp [hother, NameMap.contains]

/-- What stands apart from a group that is taken out stays where it is. -/
theorem TakesOut.value? (h : TakesOut state group name body next)
    (hapart : ∀ other ∈ group, other.Apart occurrence) {value : Json}
    (hvalue : occurrence.value? state.definitions = some value) :
    occurrence.value? next.definitions = some value := by
  rw [h.definitions]
  refine value?_insert_of_fresh _ (get?_foldl_replace_eq_none _ h.fresh) ?_
  rwa [value?_foldl_replace_of_apart _ hapart]

end Values

/-- What is kept when a group of a round is taken out, the round keeps. The objects of the group are
still what they were when the round began. -/
theorem Repeats.round_induction {p : State → Prop} {state : State}
    {groups : List (List Occurrence)} (h : Repeats limit pinned state.definitions groups)
    (hstep : ∀ group ∈ innermost groups, ∀ before name body next,
      (∀ occurrence ∈ group, occurrence.value? before.definitions =
        occurrence.value? state.definitions) →
      TakesOut before group name body next → p before → p next)
    (hstart : p state) : p ((innermost groups).foldl extractGroup state) := by
  suffices ∀ (rest : List (List Occurrence)) (before : State), rest ⊆ innermost groups →
      (rest.Pairwise fun a b => ∀ here ∈ a, ∀ there ∈ b, here.Apart there) →
      (∀ group ∈ rest, ∀ occurrence ∈ group, occurrence.value? before.definitions =
        occurrence.value? state.definitions) → p before → p (rest.foldl extractGroup before) from
    this _ state (List.Subset.refl _) h.pairwise_apart (fun _ _ _ _ => rfl) hstart
  intro rest
  induction rest with
  | nil => exact fun _ _ _ _ hp => hp
  | cons group rest ih =>
      intro before hsub hapart hvalues hp
      rw [List.pairwise_cons] at hapart
      rw [List.forall_mem_cons] at hvalues
      have hgroup := hsub List.mem_cons_self
      rw [List.foldl_cons]
      refine ih _ (fun _ hmem => hsub (List.mem_cons_of_mem _ hmem)) hapart.2 ?_ ?_
      · intro other hother occurrence hmem
        obtain ⟨_, hschemas⟩ := h.alike other (mem_innermost.1 (hsub (.tail _ hother))).1
        obtain ⟨schema, hschema, _⟩ := hschemas occurrence hmem
        have hbefore := hvalues.2 other hother occurrence hmem
        rcases extractGroup_cases before group with hsame | ⟨name, body, htakes⟩
        · rw [hsame, hbefore]
        · rw [hschema] at hbefore ⊢
          exact htakes.value? (fun here hhere => hapart.1 other hother here hhere occurrence hmem)
            hbefore
      · rcases extractGroup_cases before group with hsame | ⟨name, body, htakes⟩
        · rwa [hsame]
        · exact hstep group hgroup before name body _ hvalues.1 htakes hp

/-- What every round keeps, the extraction keeps. -/
theorem rounds?_induction {p : State → Prop} {state final : State} {fuel : Nat}
    (hround : ∀ state groups, p state →
      repeatedShapes? limit pinned state.definitions = .ok groups →
        p ((innermost groups).foldl extractGroup state))
    (h : rounds? limit pinned state fuel = .ok final) (hstart : p state) : p final := by
  induction fuel generalizing state with
  | zero =>
      rw [rounds?, Except.ok.injEq] at h
      exact h ▸ hstart
  | succ fuel ih =>
      obtain ⟨groups, hgroups, h⟩ := bind_eq_ok.1 h
      have hnext := hround state groups hstart hgroups
      dsimp only at h
      split at h
      · rw [pure_eq_ok] at h
        exact h ▸ hnext
      · exact ih h hnext

theorem replace_entries (new : Json) (definitions : NameMap Json) (occurrence : Occurrence) :
    Json.object (replace new definitions occurrence).entries =
      replaceAt new (occurrence.definition :: occurrence.segments) (.object definitions.entries) :=
  (replaceAt_cons_object ..).symm

theorem ordered_refTo (reference : String) : (Json.refTo reference).Ordered := by
  simp [Json.refTo, Json.record, Fields.Ascending]

theorem ordered_foldl_replace {new : Json} (hnew : new.Ordered)
    (h : (Json.object definitions.entries).Ordered) (group : List Occurrence) :
    (Json.object (group.foldl (replace new) definitions).entries).Ordered := by
  induction group generalizing definitions with
  | nil => exact h
  | cons first rest ih =>
      rw [List.foldl_cons]
      refine ih ?_
      rw [replace_entries]
      exact ordered_replaceAt hnew h _

theorem ordered_value? (h : (Json.object definitions.entries).Ordered) {occurrence : Occurrence}
    {value : Json} (hvalue : occurrence.value? definitions = some value) : value.Ordered := by
  obtain ⟨body, hbody, hfollow⟩ := Option.bind_eq_some_iff.1 hvalue
  exact (Json.ordered_entries.1 h _ body hbody).follow? hfollow

/-- Taking out a group gives no object a key twice. -/
theorem TakesOut.ordered {state next : State} {group : List Occurrence} {name : String}
    {body : Json} (h : TakesOut state group name body next)
    (hordered : (Json.object state.definitions.entries).Ordered) :
    (Json.object next.definitions.entries).Ordered := by
  obtain ⟨first, _, hbody, _⟩ := h.named
  rw [h.definitions, Json.ordered_insert (get?_foldl_replace_eq_none _ h.fresh)]
  exact ⟨ordered_value? hordered hbody,
    Json.ordered_entries.1 (ordered_foldl_replace (ordered_refTo _) hordered group)⟩

/-- What is known of a group when it is taken out. -/
structure Ready (limit : UInt64) (pinned : List String) (definitions : NameMap Json)
    (group : List Occurrence) : Prop where
  ordered : (Json.object definitions.entries).Ordered
  inner : ∀ occurrence ∈ group, occurrence.segments ≠ []
  way : ∀ occurrence ∈ group, ∃ depth, Way .schema depth occurrence.segments
  free : ∀ occurrence ∈ group, occurrence.isPinned pinned = false
  inline : ∀ occurrence ∈ group, ∃ schema, occurrence.value? definitions = some schema ∧
    isInlineObject schema
  alike : ∃ key, ∀ occurrence ∈ group, ∀ schema, occurrence.value? definitions = some schema →
    Key.ofDefinition limit .structural "" schema = .ok key

/-- What is kept when a group is taken out, the extraction keeps. -/
theorem extraction_induction {p : State → Prop} {state final : State} {fuel : Nat}
    (hstep : ∀ before group name body next, Ready limit pinned before.definitions group →
      TakesOut before group name body next → p before → p next)
    (h : rounds? limit pinned state fuel = .ok final)
    (hordered : (Json.object state.definitions.entries).Ordered) (hstart : p state) :
    (Json.object final.definitions.entries).Ordered ∧ p final := by
  refine rounds?_induction (p := fun state =>
    (Json.object state.definitions.entries).Ordered ∧ p state) ?_ h ⟨hordered, hstart⟩
  intro state groups hp hgroups
  have hrepeats := repeats_of_repeatedShapes? hgroups
  refine hrepeats.round_induction (p := fun state =>
    (Json.object state.definitions.entries).Ordered ∧ p state) ?_ hp
  rintro group hgroup before name body next hvalues htakes ⟨hbefore, hpbefore⟩
  have hgroup := (mem_innermost.1 hgroup).1
  have hfound := hrepeats.found group hgroup
  obtain ⟨key, hkey⟩ := hrepeats.alike group hgroup
  refine ⟨htakes.ordered hbefore, hstep before group name body next ⟨hbefore,
    fun occurrence hmem => (hfound occurrence hmem).inner, fun occurrence hmem => ?_,
    hrepeats.free group hgroup, fun occurrence hmem => ?_, key, fun occurrence hmem => ?_⟩
    htakes hpbefore⟩
  · obtain ⟨_, depth, _, hway, _⟩ := (hfound occurrence hmem).way
    exact ⟨depth, hway⟩
  · rw [hvalues occurrence hmem]
    exact (hfound occurrence hmem).inline hp.1
  · intro schema hschema
    obtain ⟨other, hother, hof⟩ := hkey occurrence hmem
    rw [hvalues occurrence hmem, hother] at hschema
    exact Option.some.inj hschema ▸ hof

end Extraction

end SchemaMerge
