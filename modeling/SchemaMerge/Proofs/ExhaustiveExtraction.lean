import SchemaMerge.Proofs.InlineObjects

/-!
That an extraction is exhaustive. The objects of the innermost repeated shapes have no inline objects
inside, so they can be taken out one after the other, and what is taken out is all that is missing
afterwards (`Extraction.Clear.round`). So a round leaves fewer free objects, and the loop of rounds,
which knows no bound on their number, ends (`Extraction.Ends`). It ends when no shape is repeated:
any two free objects that are left have two keys (`Document.extractInline?_exhaustive`).
-/

namespace SchemaMerge

namespace Extraction

variable {limit : UInt64} {pinned : List String} {definitions : NameMap Json}
  {occurrence other : Occurrence} {reference : String}

theorem isInlineObject_refTo (reference : String) : isInlineObject (.refTo reference) = false := rfl

/-- No way of the search goes on from a reference. -/
theorem Way.follow?_refTo {depth : Nat} {way : List String} (h : Way .schema depth way)
    (hway : way ≠ []) : (Json.refTo reference).follow? way = none := by
  cases h with
  | here => exact absurd rfl hway
  | items => rfl
  | properties => rfl

/-- An inline object is still one when something inside has been replaced. -/
theorem Way.isInlineObject_replaceAt {depth : Nat} {way : List String} (h : Way .schema depth way)
    (hway : way ≠ []) (new value : Json) :
    isInlineObject (replaceAt new way value) = isInlineObject value := by
  unfold isInlineObject
  cases h with
  | here => exact absurd rfl hway
  | items =>
      simp only [get?_replaceAt]
      rfl
  | properties h =>
      cases h with
      | name name h =>
          simp only [get?_replaceAt]
          cases hproperties : value.get? "properties" with
          | none => rfl
          | some properties =>
              cases properties with
              | object fields => cases fields <;> rfl
              | _ => rfl

theorem inlineAt_congr {before after : NameMap Json}
    (h : occurrence.value? after = occurrence.value? before) :
    InlineAt after occurrence ↔ InlineAt before occurrence := by
  constructor
  · rintro ⟨hinner, hway, hinline⟩
    exact ⟨hinner, hway, h ▸ hinline⟩
  · rintro ⟨hinner, hway, hinline⟩
    exact ⟨hinner, hway, h ▸ hinline⟩

/-- What is replaced inside an object leaves it an inline object. -/
theorem inlineAt_replace_descend_iff {way : List String}
    (hinside : ∃ depth, Way .schema depth (other.descend way).segments) (hway : way ≠ [])
    (new : Json) (definitions : NameMap Json) :
    InlineAt (replace new definitions (other.descend way)) other ↔ InlineAt definitions other := by
  have hvalue : other.value? (replace new definitions (other.descend way)) =
      (other.value? definitions).map (replaceAt new way) :=
    Occurrence.value?_replace_above ..
  have hsame : ∀ {depth}, Way .schema depth other.segments → ∀ schema,
      isInlineObject (replaceAt new way schema) = isInlineObject schema := by
    intro _ hother schema
    obtain ⟨_, hinside⟩ := hinside
    obtain ⟨_, hbelow⟩ := hother.exists_below hinside
    exact hbelow.isInlineObject_replaceAt hway new schema
  constructor
  · rintro ⟨hinner, ⟨_, hother⟩, found, hfound, hinline⟩
    rw [hvalue] at hfound
    obtain ⟨old, hold, rfl⟩ := Option.map_eq_some_iff.1 hfound
    rw [hsame hother] at hinline
    exact ⟨hinner, ⟨_, hother⟩, old, hold, hinline⟩
  · rintro ⟨hinner, ⟨_, hother⟩, old, hold, hinline⟩
    refine ⟨hinner, ⟨_, hother⟩, _, by rw [hvalue, hold]; rfl, ?_⟩
    rwa [hsame hother]

/-- Nothing inside a reference is an inline object. -/
theorem not_inlineAt_descend {way : List String} (hway : ∃ depth, Way .schema depth other.segments)
    (hvalue : other.value? definitions = some (.refTo reference)) (hne : way ≠ []) :
    ¬InlineAt definitions (other.descend way) := by
  intro hinside
  obtain ⟨_, hway⟩ := hway
  obtain ⟨_, hall⟩ := hinside.way
  obtain ⟨_, hbelow⟩ := hway.exists_below hall
  obtain ⟨found, hfound, _⟩ := hinside.inline
  rw [Occurrence.value?_descend, hvalue, Option.bind_some, hbelow.follow?_refTo hne] at hfound
  cases hfound

/-- An object that has no inline object inside is all that goes when a reference takes its place. -/
theorem inlineAt_replace_iff (hat : InlineAt definitions occurrence)
    (hbare : ∀ inner, InlineAt definitions inner → occurrence.contains inner = false) :
    InlineAt (replace (.refTo reference) definitions occurrence) other ↔
      InlineAt definitions other ∧ other ≠ occurrence := by
  obtain ⟨schema, hschema, _⟩ := hat.inline
  have hself : occurrence.value? (replace (.refTo reference) definitions occurrence) =
      some (.refTo reference) := by
    rw [Occurrence.value?_replace_self, hschema, Option.map_some]
  by_cases hsame : other = occurrence
  · subst hsame
    refine iff_of_false (fun h => ?_) fun h => h.2 rfl
    obtain ⟨found, hfound, hinline⟩ := h.inline
    rw [hself, Option.some.injEq] at hfound
    rw [← hfound, isInlineObject_refTo] at hinline
    cases hinline
  · rw [and_iff_left hsame]
    by_cases hbelow : occurrence.contains other
    · obtain ⟨way, hne, rfl⟩ := Occurrence.contains_iff.1 hbelow
      refine iff_of_false (not_inlineAt_descend hat.way hself hne) fun h => ?_
      exact absurd hbelow (ne_true_of_eq_false (hbare _ h))
    · by_cases habove : other.contains occurrence
      · obtain ⟨way, hne, rfl⟩ := Occurrence.contains_iff.1 habove
        exact inlineAt_replace_descend_iff hat.way hne _ definitions
      · rw [Bool.not_eq_true] at hbelow habove
        exact inlineAt_congr (Occurrence.value?_replace_of_apart _ _
          (Occurrence.apart_of_not_contains (Ne.symm hsame) hbelow habove))

/-- What stands apart from each other is replaced one after the other. -/
theorem value?_foldl_replace_of_mem {new : Json} {group : List Occurrence}
    (hapart : group.Pairwise Occurrence.Apart) (hmem : occurrence ∈ group)
    (hthere : (occurrence.value? definitions).isSome) :
    occurrence.value? (group.foldl (replace new) definitions) = some new := by
  induction group generalizing definitions with
  | nil => cases hmem
  | cons first rest ih =>
      rw [List.pairwise_cons] at hapart
      rw [List.foldl_cons]
      rcases List.mem_cons.1 hmem with rfl | hrest
      · obtain ⟨schema, hschema⟩ := Option.isSome_iff_exists.1 hthere
        rw [value?_foldl_replace_of_apart _ fun other hother => (hapart.1 other hother).symm,
          Occurrence.value?_replace_self, hschema, Option.map_some]
      · refine ih hapart.2 hrest ?_
        rwa [Occurrence.value?_replace_of_apart _ _ (hapart.1 _ hrest)]

/-- Different inline objects of which none has an inline object inside. -/
structure Clear (definitions : NameMap Json) (occurrences : List Occurrence) : Prop where
  nodup : occurrences.Nodup
  inline : ∀ occurrence ∈ occurrences, InlineAt definitions occurrence
  bare : ∀ outer ∈ occurrences, ∀ inner, InlineAt definitions inner → outer.contains inner = false

namespace Clear

variable {occurrences group rest : List Occurrence} {groups : List (List Occurrence)}
  {state next : State} {name : String} {body : Json}

theorem apart_of_ne (h : Clear definitions occurrences) (hmem : occurrence ∈ occurrences)
    (hmem' : other ∈ occurrences) (hne : occurrence ≠ other) : occurrence.Apart other :=
  Occurrence.apart_of_not_contains hne (h.bare _ hmem _ (h.inline _ hmem'))
    (h.bare _ hmem' _ (h.inline _ hmem))

theorem pairwise_apart (h : Clear definitions occurrences) :
    occurrences.Pairwise Occurrence.Apart :=
  List.Pairwise.imp_of_mem (fun hmem hmem' hne => h.apart_of_ne hmem hmem' hne) h.nodup

theorem left (h : Clear definitions (group ++ rest)) : Clear definitions group :=
  ⟨(List.nodup_append.1 h.nodup).1, fun _ hmem => h.inline _ (List.mem_append_left _ hmem),
    fun _ hmem => h.bare _ (List.mem_append_left _ hmem)⟩

theorem apart (h : Clear definitions (group ++ rest)) (hmem : occurrence ∈ group)
    (hmem' : other ∈ rest) : occurrence.Apart other :=
  h.apart_of_ne (List.mem_append_left _ hmem) (List.mem_append_right _ hmem')
    ((List.nodup_append.1 h.nodup).2.2 _ hmem _ hmem')

/-- What is left can still be taken out when some objects have been. -/
theorem right {after : NameMap Json} (h : Clear definitions (group ++ rest))
    (hafter : ∀ other, InlineAt after other ↔ InlineAt definitions other ∧ other ∉ group) :
    Clear after rest := by
  obtain ⟨_, hnodup, hdisjoint⟩ := List.nodup_append.1 h.nodup
  refine ⟨hnodup, fun occurrence hmem => ?_, fun outer hmem inner hinner => ?_⟩
  · exact (hafter occurrence).2 ⟨h.inline _ (List.mem_append_right _ hmem),
      fun hgroup => hdisjoint _ hgroup _ hmem rfl⟩
  · exact h.bare outer (List.mem_append_right _ hmem) inner ((hafter inner).1 hinner).1

theorem inlineAt_foldl_replace_iff (h : Clear definitions group) :
    InlineAt (group.foldl (replace (.refTo reference)) definitions) other ↔
      InlineAt definitions other ∧ other ∉ group := by
  induction group generalizing definitions with
  | nil => simp
  | cons first rest ih =>
      have hfirst : ∀ other, InlineAt (replace (.refTo reference) definitions first) other ↔
          InlineAt definitions other ∧ other ∉ [first] := by
        intro other
        rw [List.mem_singleton]
        exact inlineAt_replace_iff (h.inline first List.mem_cons_self)
          (h.bare first List.mem_cons_self)
      have hrest : Clear (replace (.refTo reference) definitions first) rest :=
        right (h : Clear definitions ([first] ++ rest)) hfirst
      rw [List.foldl_cons, ih hrest, hfirst, List.mem_singleton, List.mem_cons, not_or, and_assoc]

/-- There is no inline object inside the body of a shape. -/
theorem not_inlineAt_insert (h : Clear definitions occurrences) (hmem : occurrence ∈ occurrences)
    (hbody : occurrence.value? definitions = some body) (others : NameMap Json)
    (hname : other.definition = name) : ¬InlineAt (others.insert name body) other := by
  intro hat
  obtain ⟨_, hway⟩ := (h.inline occurrence hmem).way
  obtain ⟨_, hbelow⟩ := hat.way
  obtain ⟨schema, hschema, hinline⟩ := hat.inline
  rw [Occurrence.value?_eq, NameMap.get?_insert, if_pos hname, Option.bind_some] at hschema
  have hvalue : (occurrence.descend other.segments).value? definitions = some schema := by
    rw [Occurrence.value?_descend, hbody]
    exact hschema
  have hinside : InlineAt definitions (occurrence.descend other.segments) :=
    ⟨List.append_ne_nil_of_right_ne_nil _ hat.inner, ⟨_, hway.append hbelow⟩, schema, hvalue, hinline⟩
  exact absurd (Occurrence.contains_iff.2 ⟨_, hat.inner, rfl⟩)
    (ne_true_of_eq_false (h.bare occurrence hmem _ hinside))

/-- No inline object comes when a group is taken out, and those of the group go. -/
theorem inlineAt_takesOut_iff (h : Clear state.definitions group)
    (htakes : TakesOut state group name body next) :
    InlineAt next.definitions other ↔ InlineAt state.definitions other ∧ other ∉ group := by
  rw [htakes.definitions]
  by_cases hname : other.definition = name
  · obtain ⟨first, hfirst, hbody, _⟩ := htakes.named
    refine iff_of_false
      (h.not_inlineAt_insert (List.mem_of_mem_head? hfirst) hbody _ hname) fun hat => ?_
    have hthere := hat.1.isSome_value?
    rw [Occurrence.value?_eq, hname, htakes.fresh] at hthere
    cases hthere
  · have hold : InlineAt (group.foldl (replace (.refTo (SchemaRef.ofName name))) state.definitions)
        other ↔ InlineAt state.definitions other ∧ other ∉ group := h.inlineAt_foldl_replace_iff
    rw [← hold]
    refine inlineAt_congr ?_
    rw [Occurrence.value?_eq, NameMap.get?_insert, if_neg hname]
    rfl

theorem exists_takesOut (h : Clear state.definitions group) (hne : group ≠ []) :
    ∃ name body, TakesOut state group name body (extractGroup state group) := by
  cases group with
  | nil => exact absurd rfl hne
  | cons first rest =>
      obtain ⟨body, hbody, _⟩ := (h.inline first List.mem_cons_self).inline
      rw [extractGroup, hbody]
      exact ⟨_, body, ⟨first, rfl, hbody, rfl⟩, rfl, rfl⟩

/-- One group is taken out, and the others can still be. -/
theorem exists_step {rest : List Occurrence} (h : Clear state.definitions (group ++ rest))
    (hne : group ≠ []) :
    ∃ name body, TakesOut state group name body (extractGroup state group) ∧
      Clear (extractGroup state group).definitions rest ∧
      ∀ other, InlineAt (extractGroup state group).definitions other ↔
        InlineAt state.definitions other ∧ other ∉ group := by
  obtain ⟨name, body, htakes⟩ := h.left.exists_takesOut hne
  have hafter : ∀ other, InlineAt (extractGroup state group).definitions other ↔
      InlineAt state.definitions other ∧ other ∉ group :=
    fun _ => h.left.inlineAt_takesOut_iff htakes
  exact ⟨name, body, htakes, h.right hafter, hafter⟩

end Clear

section Rounds

variable {groups : List (List Occurrence)} {state next : State}

/-- What stands apart from everything that a round takes out stays where it is. -/
theorem value?_foldl_extractGroup (hapart : ∀ other ∈ groups.flatten, other.Apart occurrence)
    {value : Json} (hvalue : occurrence.value? state.definitions = some value) :
    occurrence.value? (groups.foldl extractGroup state).definitions = some value := by
  induction groups generalizing state with
  | nil => exact hvalue
  | cons group rest ih =>
      rw [List.flatten_cons, List.forall_mem_append] at hapart
      rw [List.foldl_cons]
      refine ih hapart.2 ?_
      rcases extractGroup_cases state group with hsame | ⟨name, body, htakes⟩
      · rwa [hsame]
      · exact htakes.value? hapart.1 hvalue

theorem ordered_foldl_extractGroup (hordered : (Json.object state.definitions.entries).Ordered)
    (groups : List (List Occurrence)) :
    (Json.object (groups.foldl extractGroup state).definitions.entries).Ordered := by
  induction groups generalizing state with
  | nil => exact hordered
  | cons group rest ih =>
      rw [List.foldl_cons]
      rcases extractGroup_cases state group with hsame | ⟨name, body, htakes⟩
      · rw [hsame]
        exact ih hordered
      · exact ih (htakes.ordered hordered)

/-- What a group has become: a definition has the shape, and references to it stand where its
objects have been. -/
structure Hoisted (before after : State) (group : List Occurrence) (shape : ExtractedShape) :
    Prop where
  found : ∀ occurrence ∈ group, InlineAt before.definitions occurrence
  pointers : shape.occurrences = group.map Occurrence.pointer
  fresh : before.definitions.get? shape.name = none
  body : ∃ first body, group.head? = some first ∧ first.value? before.definitions = some body ∧
    after.definitions.get? shape.name = some body
  replaced : ∀ occurrence ∈ group,
    occurrence.value? after.definitions = some (.refTo (SchemaRef.ofName shape.name))

namespace Clear

theorem inlineAt_round_iff (h : Clear state.definitions groups.flatten)
    (hne : ∀ group ∈ groups, group ≠ []) :
    InlineAt (groups.foldl extractGroup state).definitions other ↔
      InlineAt state.definitions other ∧ other ∉ groups.flatten := by
  induction groups generalizing state with
  | nil => simp
  | cons group rest ih =>
      rw [List.forall_mem_cons] at hne
      rw [List.flatten_cons] at h
      obtain ⟨_, _, _, hrest, hafter⟩ := h.exists_step hne.1
      rw [List.foldl_cons, ih hrest hne.2, hafter, List.flatten_cons, List.mem_append, not_or,
        and_assoc]

/-- A group that is taken out first is taken out of what was there, and stays so. -/
theorem hoisted {group : List Occurrence} {name : String} {body : Json}
    (h : Clear state.definitions (group ++ groups.flatten))
    (htakes : TakesOut state group name body next) :
    Hoisted state (groups.foldl extractGroup next) group ⟨name, group.map Occurrence.pointer⟩ := by
  obtain ⟨first, hfirst, hbody, _⟩ := htakes.named
  refine ⟨h.left.inline, rfl, htakes.fresh, ⟨first, body, hfirst, hbody, ?_⟩,
    fun occurrence hmem => ?_⟩
  · -- The new definition is none that an object of a later group stands in.
    have hnew : (⟨name, []⟩ : Occurrence).value? next.definitions = some body := by
      rw [Occurrence.value?_eq, htakes.definitions, NameMap.get?_insert, if_pos rfl]
      rfl
    have hkept : (⟨name, []⟩ : Occurrence).value? (groups.foldl extractGroup next).definitions =
        some body := by
      refine value?_foldl_extractGroup (fun other hother hdefinition => ?_) hnew
      have hthere := (h.inline other (List.mem_append_right _ hother)).isSome_value?
      rw [Occurrence.value?_eq, hdefinition, htakes.fresh] at hthere
      cases hthere
    obtain ⟨found, hfound, hsame⟩ := Option.bind_eq_some_iff.1 hkept
    rw [hfound, ← hsame]
    rfl
  · refine value?_foldl_extractGroup (fun other hother => (h.apart hmem hother).symm) ?_
    rw [htakes.definitions]
    refine value?_insert_of_fresh _ (get?_foldl_replace_eq_none _ htakes.fresh) ?_
    exact value?_foldl_replace_of_mem h.left.pairwise_apart hmem
      (h.inline occurrence (List.mem_append_left _ hmem)).isSome_value?

/-- A round takes out every group, one after the other. -/
theorem exists_shapes (h : Clear state.definitions groups.flatten)
    (hne : ∀ group ∈ groups, group ≠ []) :
    ∃ shapes, (groups.foldl extractGroup state).extracted = state.extracted ++ shapes ∧
      List.Forall₂ (Hoisted state (groups.foldl extractGroup state)) groups shapes := by
  induction groups generalizing state with
  | nil => exact ⟨[], (List.append_nil _).symm, .nil⟩
  | cons group rest ih =>
      rw [List.forall_mem_cons] at hne
      rw [List.flatten_cons] at h
      obtain ⟨name, body, htakes, hclear, hafter⟩ := h.exists_step hne.1
      obtain ⟨shapes, hshapes, hrest⟩ := ih hclear hne.2
      rw [List.foldl_cons]
      refine ⟨⟨name, group.map Occurrence.pointer⟩ :: shapes, ?_, .cons (h.hoisted htakes) ?_⟩
      · rw [hshapes, htakes.extracted, List.append_assoc, List.singleton_append]
      · -- The later groups are what they were when the round began.
        refine ((List.forall₂_and_left _ _).2 ⟨fun _ => id, hrest⟩).imp ?_
        rintro other shape ⟨hother, hlater⟩
        obtain ⟨first, found, hfirst, hfound, hbody⟩ := hlater.body
        have hflat : first ∈ rest.flatten :=
          List.mem_flatten.2 ⟨other, hother, List.mem_of_mem_head? hfirst⟩
        obtain ⟨schema, hschema, _⟩ := (h.inline first (List.mem_append_right _ hflat)).inline
        have hkept := htakes.value? (fun _ hmem => h.apart hmem hflat) hschema
        rw [hfound, Option.some.injEq] at hkept
        refine ⟨fun occurrence hmem => ((hafter occurrence).1 (hlater.found occurrence hmem)).1,
          hlater.pointers, ?_, ⟨first, found, hfirst, hkept ▸ hschema, hbody⟩, hlater.replaced⟩
        have hfresh := hlater.fresh
        rw [← NameMap.not_contains_iff, Bool.eq_false_iff] at hfresh ⊢
        exact fun hcontains => hfresh (htakes.contains_iff.2 (.inr hcontains))

/-- What is missing from the free objects after a round is what it has taken out. -/
theorem perm_freeObjects (h : Clear state.definitions groups.flatten)
    (hne : ∀ group ∈ groups, group ≠ [])
    (hfree : ∀ occurrence ∈ groups.flatten, occurrence ∈ freeObjects pinned state.definitions)
    (hordered : (Json.object state.definitions.entries).Ordered) :
    (freeObjects pinned state.definitions).Perm
      (freeObjects pinned (groups.foldl extractGroup state).definitions ++ groups.flatten) := by
  have hnext := ordered_foldl_extractGroup hordered groups
  refine (List.perm_ext_iff_of_nodup (nodup_freeObjects hordered pinned)
    (List.nodup_append.2 ⟨nodup_freeObjects hnext pinned, h.nodup, ?_⟩)).2 fun other => ?_
  · rintro occurrence hleft _ hmem rfl
    exact ((h.inlineAt_round_iff hne).1 ((mem_freeObjects_iff hnext).1 hleft).1).2 hmem
  · rw [List.mem_append, mem_freeObjects_iff hordered, mem_freeObjects_iff hnext,
      h.inlineAt_round_iff hne]
    constructor
    · rintro ⟨hat, hunpinned⟩
      by_cases hmem : other ∈ groups.flatten
      · exact .inr hmem
      · exact .inl ⟨⟨hat, hmem⟩, hunpinned⟩
    · rintro (⟨⟨hat, _⟩, hunpinned⟩ | hmem)
      · exact ⟨hat, hunpinned⟩
      · exact (mem_freeObjects_iff hordered).1 (hfree other hmem)

end Clear

/-- What a round has done: the objects of the groups, of which none stands inside another, have been
replaced, and they are all that is missing from the free objects. -/
structure Advance (pinned : List String) (taken : List (List Occurrence)) (before after : State) :
    Prop where
  apart : taken.flatten.Pairwise Occurrence.Apart
  replaced : ∃ shapes, after.extracted = before.extracted ++ shapes ∧
    List.Forall₂ (Hoisted before after) taken shapes
  left : (freeObjects pinned before.definitions).Perm
    (freeObjects pinned after.definitions ++ taken.flatten)
  fewer : (freeObjects pinned after.definitions).length <
    (freeObjects pinned before.definitions).length

theorem Shapes.clear (h : Shapes limit pinned state.definitions groups)
    (hordered : (Json.object state.definitions.entries).Ordered)
    (hrepeats : Repeats limit pinned state.definitions groups) :
    Clear state.definitions (innermost groups).flatten := by
  refine ⟨List.nodup_flatten.2 ⟨fun group hgroup => h.nodup group (mem_innermost.1 hgroup).1,
    List.Pairwise.filter _ hrepeats.disjoint⟩, fun occurrence hmem => ?_, fun outer hmem inner => ?_⟩
  · obtain ⟨group, hgroup, hmem⟩ := List.mem_flatten.1 hmem
    exact h.inlineAt hordered (mem_innermost.1 hgroup).1 hmem
  · obtain ⟨group, hgroup, hmem⟩ := List.mem_flatten.1 hmem
    exact h.bare hordered hgroup hmem

/-- Where shapes are repeated, some group is innermost, and the round takes out all that are. -/
theorem advance_of_repeatedShapes? (hordered : (Json.object state.definitions.entries).Ordered)
    (h : repeatedShapes? limit pinned state.definitions = .ok groups) (hne : groups ≠ []) :
    innermost groups ≠ [] ∧
      Advance pinned (innermost groups) state ((innermost groups).foldl extractGroup state) := by
  have hshapes := shapes_of_repeatedShapes? hordered h
  have hclear := hshapes.clear hordered (repeats_of_repeatedShapes? h)
  have hinnermost := hshapes.innermost_ne_nil hordered hne
  have hsome : ∀ group ∈ innermost groups, group ≠ [] := by
    rintro group hgroup rfl
    exact absurd (hshapes.two _ (mem_innermost.1 hgroup).1) (by decide)
  have hfree : ∀ occurrence ∈ (innermost groups).flatten,
      occurrence ∈ freeObjects pinned state.definitions := by
    intro occurrence hmem
    obtain ⟨group, hgroup, hmem⟩ := List.mem_flatten.1 hmem
    exact hshapes.free group (mem_innermost.1 hgroup).1 occurrence hmem
  have hleft := hclear.perm_freeObjects hsome hfree hordered
  refine ⟨hinnermost, hclear.pairwise_apart, hclear.exists_shapes hsome, hleft, ?_⟩
  obtain ⟨group, hgroup⟩ := List.exists_mem_of_ne_nil _ hinnermost
  obtain ⟨occurrence, hmem⟩ := List.exists_mem_of_ne_nil group (hsome group hgroup)
  have hlength := hleft.length_eq
  have hpos := List.length_pos_of_mem (List.mem_flatten.2 ⟨group, hgroup, hmem⟩)
  rw [List.length_append] at hlength
  omega

end Rounds

/-- The loop of rounds, started from this state, ends in this way after so many rounds. -/
inductive Ends (limit : UInt64) (pinned : List String) :
    State → Nat → Except Error State → Prop where
  /-- The search for objects goes too deep, or the comparison of two does. -/
  | refused {state : State} {error : Error}
      (hgroups : repeatedShapes? limit pinned state.definitions = .error error) :
      Ends limit pinned state 0 (.error error)
  /-- No shape is repeated. -/
  | done {state : State} (hgroups : repeatedShapes? limit pinned state.definitions = .ok []) :
      Ends limit pinned state 0 (.ok state)
  /-- Shapes are repeated, but none has been extracted. -/
  | stuck {state : State} {groups : List (List Occurrence)}
      (hgroups : repeatedShapes? limit pinned state.definitions = .ok groups) (hne : groups ≠ [])
      (hstill : ((innermost groups).foldl extractGroup state).extracted.length =
        state.extracted.length) :
      Ends limit pinned state 0 (.ok ((innermost groups).foldl extractGroup state))
  | round {state : State} {groups : List (List Occurrence)} {rounds : Nat}
      {outcome : Except Error State}
      (hgroups : repeatedShapes? limit pinned state.definitions = .ok groups) (hne : groups ≠ [])
      (hmore : ((innermost groups).foldl extractGroup state).extracted.length ≠
        state.extracted.length)
      (hrest : Ends limit pinned ((innermost groups).foldl extractGroup state) rounds outcome) :
      Ends limit pinned state (rounds + 1) outcome

/-- A round extracts as many shapes as there are innermost groups. -/
theorem Advance.extracted_length {taken : List (List Occurrence)} {before after : State}
    (h : Advance pinned taken before after) :
    after.extracted.length = before.extracted.length + taken.length := by
  obtain ⟨shapes, hshapes, hall⟩ := h.replaced
  rw [hshapes, List.length_append, hall.length_eq]

/-- The extraction goes through as many rounds as it needs. -/
theorem exists_ends_rounds? (limit : UInt64) (pinned : List String) (state : State)
    (hordered : (Json.object state.definitions.entries).Ordered) {fuel : Nat}
    (hfuel : (freeObjects pinned state.definitions).length < fuel) :
    ∃ rounds ≤ (freeObjects pinned state.definitions).length,
      Ends limit pinned state rounds (rounds? limit pinned state fuel) := by
  induction fuel generalizing state with
  | zero => omega
  | succ fuel ih =>
      rw [rounds?]
      cases hgroups : repeatedShapes? limit pinned state.definitions with
      | error error => exact ⟨0, Nat.zero_le _, .refused hgroups⟩
      | ok groups =>
          by_cases hne : groups = []
          · subst hne
            refine ⟨0, Nat.zero_le _, ?_⟩
            change Ends limit pinned state 0
              (if state.extracted.length = state.extracted.length then .ok state else _)
            rw [if_pos rfl]
            exact .done hgroups
          · obtain ⟨hinnermost, hadvance⟩ := advance_of_repeatedShapes? hordered hgroups hne
            have hlonger := hadvance.extracted_length
            have htaken := List.length_pos_of_ne_nil hinnermost
            have hfewer := hadvance.fewer
            obtain ⟨rounds, hle, hends⟩ :=
              ih _ (ordered_foldl_extractGroup hordered (innermost groups)) (by omega)
            refine ⟨rounds + 1, by omega, ?_⟩
            change Ends limit pinned state (rounds + 1) (if _ then _ else _)
            rw [if_neg (by omega)]
            exact .round hgroups hne (by omega) hends

/-- The loop ends in one way only. -/
theorem Ends.unique {state : State} {m n : Nat} {outcome other : Except Error State}
    (h : Ends limit pinned state m outcome) (h' : Ends limit pinned state n other) :
    m = n ∧ outcome = other := by
  induction h generalizing n with
  | refused hgroups => cases h' <;> simp_all
  | done hgroups => cases h' <;> simp_all
  | stuck hgroups hne hstill => cases h' <;> simp_all
  | round hgroups hne hmore _ ih =>
      cases h' with
      | round hgroups' hne' hmore' hrest' =>
          rw [hgroups, Except.ok.injEq] at hgroups'
          subst hgroups'
          exact (ih hrest').imp (congrArg (· + 1)) id
      | _ => simp_all

/-- When the loop ends well, no shape is repeated. -/
theorem Ends.settled {state final : State} {rounds : Nat} {outcome : Except Error State}
    (h : Ends limit pinned state rounds outcome)
    (hordered : (Json.object state.definitions.entries).Ordered) (hfinal : outcome = .ok final) :
    (Json.object final.definitions.entries).Ordered ∧
      repeatedShapes? limit pinned final.definitions = .ok [] := by
  induction h with
  | refused => cases hfinal
  | done hgroups =>
      cases hfinal
      exact ⟨hordered, hgroups⟩
  | stuck hgroups hne hstill =>
      obtain ⟨hinnermost, hadvance⟩ := advance_of_repeatedShapes? hordered hgroups hne
      have hlonger := hadvance.extracted_length
      have htaken := List.length_pos_of_ne_nil hinnermost
      omega
  | round _ _ _ _ ih => exact ih (ordered_foldl_extractGroup hordered _) hfinal

/-- Where no shape is repeated, any two free objects have two keys. -/
theorem Shapes.exists_keys_ne {a b : Occurrence} (h : Shapes limit pinned definitions [])
    (ha : a ∈ freeObjects pinned definitions) (hb : b ∈ freeObjects pinned definitions)
    (hne : a ≠ b) (hordered : (Json.object definitions.entries).Ordered) :
    ∃ k l, Keyed limit definitions (k, a) ∧ Keyed limit definitions (l, b) ∧ k ≠ l := by
  obtain ⟨k, hk⟩ := h.keyed a ha
  obtain ⟨l, hl⟩ := h.keyed b hb
  refine ⟨k, l, hk, hl, ?_⟩
  rintro rfl
  obtain ⟨u, hu, hku⟩ := hk
  obtain ⟨v, hv, hkv⟩ := hl
  have hform := (key_eq_iff_formAt_eq ((mem_freeObjects_iff hordered).1 ha).1
    ((mem_freeObjects_iff hordered).1 hb).1 hu hv hku hkv).1 rfl
  obtain ⟨group, hgroup, _⟩ := h.every a ha b hb hne hform
  cases hgroup

end Extraction

namespace Document

variable {document out : Document} {limit : UInt64} {extracted : List ExtractedShape}

open Extraction

/-- The rounds that an extraction may go through are enough for all objects to go. -/
theorem extractInline?_eq_map (document : Document) (limit : UInt64) :
    document.extractInline? limit =
      (rounds? limit (deepReferences document) ⟨document.definitions, []⟩
        ((inlineObjects document.definitions).length + 1)).map fun state =>
          (document.withDefinitions state.definitions, state.extracted) := by
  unfold extractInline?
  cases hfound : allInlineObjects? limit document.definitions with
  | error error =>
      rw [rounds?, repeatedShapes?, hfound]
      rfl
  | ok found =>
      rw [← allInlineObjects?_eq_ok hfound]
      change (rounds? limit (deepReferences document) ⟨document.definitions, []⟩
        (found.length + 1) >>= _) = _
      cases rounds? limit (deepReferences document) ⟨document.definitions, []⟩
        (found.length + 1) <;> rfl

/-- Where shapes are repeated, a round finds and replaces the innermost ones and leaves fewer free
objects. So the loop of rounds ends, the extraction has what it ends with, and no two objects that
are free then have one key. -/
theorem extractInline?_exhaustive (document : Document) (limit : UInt64)
    (hordered : document.toJson.Ordered) :
    (∀ pinned state groups, (Json.object state.definitions.entries).Ordered →
      repeatedShapes? limit pinned state.definitions = .ok groups → groups ≠ [] →
      innermost groups ≠ [] ∧
        Advance pinned (innermost groups) state ((innermost groups).foldl extractGroup state)) ∧
    (∃ rounds ≤ (freeObjects (deepReferences document) document.definitions).length, ∃ outcome,
      Ends limit (deepReferences document) ⟨document.definitions, []⟩ rounds outcome ∧
      (∀ other ending, Ends limit (deepReferences document) ⟨document.definitions, []⟩ other ending →
        other = rounds ∧ ending = outcome) ∧
      document.extractInline? limit = outcome.map fun state =>
        (document.withDefinitions state.definitions, state.extracted)) ∧
    ∀ out extracted, document.extractInline? limit = .ok (out, extracted) → ∀ a b, a ≠ b →
      InlineAt out.definitions a → a.isPinned (deepReferences document) = false →
      InlineAt out.definitions b → b.isPinned (deepReferences document) = false →
      ∃ k l, Keyed limit out.definitions (k, a) ∧ Keyed limit out.definitions (l, b) ∧ k ≠ l := by
  have hstart := Json.ordered_entries.2 (ordered_toJson_iff.1 hordered).1
  obtain ⟨rounds, hle, hends⟩ := exists_ends_rounds? limit (deepReferences document)
    ⟨document.definitions, []⟩ hstart
    (Nat.lt_succ_of_le (List.length_filter_le _ (inlineObjects document.definitions)))
  have hrun := extractInline?_eq_map document limit
  refine ⟨fun pinned state groups horder hgroups hne => advance_of_repeatedShapes? horder hgroups hne,
    ⟨rounds, hle, _, hends, fun other ending hother => hother.unique hends, hrun⟩, ?_⟩
  intro out extracted hout a b hne ha hfreeA hb hfreeB
  rw [hrun] at hout
  cases hrounds : rounds? limit (deepReferences document) ⟨document.definitions, []⟩
      ((inlineObjects document.definitions).length + 1) with
  | error error =>
      rw [hrounds] at hout
      cases hout
  | ok state =>
      rw [hrounds] at hout
      cases hout
      obtain ⟨horder, hnone⟩ := hends.settled hstart hrounds
      exact (shapes_of_repeatedShapes? horder hnone).exists_keys_ne
        ((mem_freeObjects_iff horder).2 ⟨ha, hfreeA⟩) ((mem_freeObjects_iff horder).2 ⟨hb, hfreeB⟩)
        hne horder

/-- Three definitions with a guest who has an address. A reference points into one of the guests. -/
def lodgings : Document :=
  let guest : Json := .record [
    ("properties", .record [("address", .record [
      ("properties", .record [("city", .record [("type", .string "string")])]),
      ("type", .string "object")])]),
    ("type", .string "object")]
  let holder : Json := .record [("properties", .record [("guest", guest)])]
  ofSchemas [("Camp", holder), ("Hotel", holder), ("Inn", holder),
    ("Town", .refTo "#/components/schemas/Inn/properties/guest/properties/address/properties/city")]

set_option maxRecDepth 100000 in
/-- The addresses go first, and then the guests, except for those that are pinned. -/
theorem extractInline?_exhaustive_lodgings : ∃ groups out extracted,
    lodgings.toJson.Ordered ∧
    repeatedShapes? 64 (deepReferences lodgings) lodgings.definitions = .ok groups ∧
    groups.length = 2 ∧ innermost groups ≠ [] ∧
    Advance (deepReferences lodgings) (innermost groups) ⟨lodgings.definitions, []⟩
      ((innermost groups).foldl extractGroup ⟨lodgings.definitions, []⟩) ∧
    lodgings.extractInline? 64 = .ok (out, extracted) ∧
    extracted.map (·.name) = ["Address", "Guest"] ∧
    ∀ a b, a ≠ b →
      InlineAt out.definitions a → a.isPinned (deepReferences lodgings) = false →
      InlineAt out.definitions b → b.isPinned (deepReferences lodgings) = false →
      ∃ k l, Keyed 64 out.definitions (k, a) ∧ Keyed 64 out.definitions (l, b) ∧ k ≠ l := by
  obtain ⟨groups, hgroups, hlength⟩ : ∃ groups,
      repeatedShapes? 64 (deepReferences lodgings) lodgings.definitions = .ok groups ∧
        groups.length = 2 :=
    exists_ok_of_toOption (by decide +kernel)
  obtain ⟨⟨out, extracted⟩, hrun, hnames⟩ : ∃ result, lodgings.extractInline? 64 = .ok result ∧
      result.2.map (·.name) = ["Address", "Guest"] :=
    exists_ok_of_toOption (by decide +kernel)
  have hordered : lodgings.toJson.Ordered := by
    refine ordered_ofSchemas ?_
    simp only [Json.record, Json.refTo, Json.ordered_object, Json.ordered_string, Fields.Ascending,
      List.pairwise_cons, List.Pairwise.nil, List.forall_mem_cons, List.not_mem_nil, false_imp_iff,
      implies_true, and_true]
    decide
  have hne : groups ≠ [] := by
    rintro rfl
    cases hlength
  obtain ⟨hrounds, _, hkeys⟩ := extractInline?_exhaustive lodgings 64 hordered
  obtain ⟨hinnermost, hadvance⟩ := hrounds (deepReferences lodgings) ⟨lodgings.definitions, []⟩
    groups (Json.ordered_entries.2 (ordered_toJson_iff.1 hordered).1) hgroups hne
  exact ⟨groups, out, extracted, hordered, hgroups, hlength, hinnermost, hadvance, hrun, hnames,
    hkeys out extracted hrun⟩

end Document

end SchemaMerge
