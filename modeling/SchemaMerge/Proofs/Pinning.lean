import SchemaMerge.Proofs.InlineGroups
import SchemaMerge.Proofs.SaidReferences

/-!
What an extraction does to the references of a document. A reference that leads through an object
that is taken out comes to the reference in its place, and does not get any further
(`Extraction.Severed`); all others lead where they led. An object that a reference leads into is
pinned, but the references are compared with pointers as texts. So a reference gets lost exactly when
it leads through such an object and is not spelled the way pointers are written
(`Document.extractInline?_dangling_iff`).
-/

namespace SchemaMerge

open Extraction (Way replaceAt replace)

namespace Json

/-- What a pointer with the given segments leads to, through objects and arrays. -/
def walk? (value : Json) (segments : List String) : Option Json :=
  segments.foldlM Pointer.step? value

variable {value found : Json}

theorem walk?_cons (value : Json) (segment : String) (more : List String) :
    value.walk? (segment :: more) = (Pointer.step? value segment).bind (·.walk? more) := by
  rw [walk?, List.foldlM_cons]
  rfl

theorem step?_of_get? {key : String} (h : value.get? key = some found) :
    Pointer.step? value key = some found := by
  obtain ⟨fields, rfl, hlookup⟩ := get?_eq_some h
  exact hlookup

/-- A way through objects is a way for a pointer. -/
theorem walk?_append_of_follow? {way : List String} (h : value.follow? way = some found)
    (below : List String) : value.walk? (way ++ below) = found.walk? below := by
  induction way generalizing value with
  | nil =>
      cases h
      rfl
  | cons segment way ih =>
      rw [follow?_cons] at h
      obtain ⟨inner, hinner, h⟩ := Option.bind_eq_some_iff.1 h
      rw [List.cons_append, walk?_cons, step?_of_get? hinner]
      exact ih h

/-- A pointer leads somewhere as before unless it leads below something that is replaced. -/
theorem isSome_walk?_replaceAt (new : Json) {way segments : List String}
    (h : ∀ below, segments = way ++ below → below ≠ [] → value.follow? way = none) :
    ((replaceAt new way value).walk? segments).isSome = (value.walk? segments).isSome := by
  induction way generalizing value segments with
  | nil =>
      cases segments with
      | nil => rfl
      | cons segment more => cases h (segment :: more) rfl (List.cons_ne_nil _ _)
  | cons segment way ih =>
      cases segments with
      | nil => rfl
      | cons key more =>
          cases value with
          | object fields =>
              rw [Extraction.replaceAt_cons_object, walk?_cons, walk?_cons, Pointer.step?,
                Pointer.step?, Fields.lookup_mapValues]
              cases hfound : fields.lookup key with
              | none => rfl
              | some inner =>
                  rw [Option.map_some, Option.bind_some, Option.bind_some]
                  split
                  case isTrue heq =>
                    subst heq
                    refine ih fun below hmore hne => ?_
                    have hnone := h below (by rw [hmore]; rfl) hne
                    rwa [follow?_cons, get?, hfound] at hnone
                  case isFalse => rfl
          | _ => rfl

/-- A reference to something else leads nowhere further. -/
theorem walk?_refTo {reference : String} {below : List String} (hne : below ≠ [])
    (hself : below ≠ ["$ref"]) : (refTo reference).walk? below = none := by
  cases below with
  | nil => exact absurd rfl hne
  | cons key more =>
      have hstep : Pointer.step? (refTo reference) key =
          if key = "$ref" then some (.string reference) else none := Fields.lookup_cons ..
      rw [walk?_cons, hstep]
      split
      case isTrue hkey =>
        cases more with
        | nil => exact absurd (by rw [hkey]) hself
        | cons => rfl
      case isFalse => rfl

end Json

namespace Document

/-- A pointer into a definition leads through the definitions, whatever else is in the document. -/
theorem resolves_eq_walk? {document : Document} {reference name tail : String}
    (hsplit : SchemaRef.split? reference = some (name, tail)) :
    document.resolves document.toJson reference =
      ((Json.object document.definitions.entries).walk?
        (name :: Pointer.segments tail)).isSome := by
  rw [resolves_eq_isSome_resolve? hsplit, resolve?_of_split? hsplit, Json.walk?_cons]
  rfl

end Document

namespace Extraction

/-- A way goes into nothing that is a reference. -/
theorem Way.replaceAt_refTo {depth : Nat} {way : List String} (h : Way .schema depth way)
    (hne : way ≠ []) (new : Json) (reference : String) :
    replaceAt new way (.refTo reference) = .refTo reference := by
  cases h with
  | here => exact absurd rfl hne
  | items => rfl
  | properties => rfl

/-- The way from a definition leads through a reference that stands in the place of an object. -/
def Severed (definitions : NameMap Json) (name : String) (segments : List String) : Prop :=
  ∃ way below depth reference, segments = way ++ below ∧ below ≠ [] ∧ below ≠ ["$ref"] ∧
    Way .schema depth way ∧
      (⟨name, way⟩ : Occurrence).value? definitions = some (.refTo reference)

namespace Severed

variable {definitions : NameMap Json} {name : String} {segments : List String}

theorem walk?_eq_none (h : Severed definitions name segments) :
    (Json.object definitions.entries).walk? (name :: segments) = none := by
  obtain ⟨way, below, _, reference, rfl, hne, hself, _, hvalue⟩ := h
  obtain ⟨body, hbody, hfollow⟩ := Option.bind_eq_some_iff.1 hvalue
  have hfrom : (Json.object definitions.entries).follow? (name :: way) =
      some (.refTo reference) := by
    rw [Json.follow?_cons]
    exact Option.bind_eq_some_iff.2 ⟨body, hbody, hfollow⟩
  exact (Json.walk?_append_of_follow? hfrom below).trans (Json.walk?_refTo hne hself)

theorem insert (h : Severed definitions name segments) {other : String} {body : Json}
    (hfresh : definitions.get? other = none) :
    Severed (definitions.insert other body) name segments := by
  obtain ⟨way, below, depth, reference, hsegments, hne, hself, hway, hvalue⟩ := h
  exact ⟨way, below, depth, reference, hsegments, hne, hself, hway,
    value?_insert_of_fresh definitions hfresh hvalue⟩

end Severed

theorem append_ne_singleton {further below : List String} {segment : String} (hne : below ≠ [])
    (hself : below ≠ [segment]) : further ++ below ≠ [segment] := by
  cases further with
  | nil => exact hself
  | cons first rest =>
      intro heq
      exact hne (List.append_eq_nil_iff.1 (List.cons.inj heq).2).2

section Replacing

variable {definitions : NameMap Json} {there : Occurrence} {e : Nat} {value : Json}
  {below : List String} (hthere : Way .schema e there.segments) (reference : String)

include hthere

/-- What leads further down from an object is cut off when a reference takes its place. -/
theorem severed_of_value? (hvalue : there.value? definitions = some value) (hne : below ≠ [])
    (hself : below ≠ ["$ref"]) :
    Severed (Extraction.replace (.refTo reference) definitions there) there.definition
      (there.segments ++ below) := by
  refine ⟨there.segments, below, e, reference, rfl, hne, hself, hthere, ?_⟩
  exact (Occurrence.value?_replace_self _ definitions there).trans (by rw [hvalue]; rfl)

/-- What is cut off stays so. -/
theorem Severed.replace {name : String} {segments : List String}
    (h : Severed definitions name segments) :
    Severed (Extraction.replace (.refTo reference) definitions there) name segments := by
  obtain ⟨way, below, depth, old, rfl, hne, hself, hway, hvalue⟩ := h
  by_cases hdefinition : there.definition = name
  · subst hdefinition
    by_cases habove : there.segments <+: way
    · obtain ⟨further, rfl⟩ := habove
      rw [Occurrence.value?_append] at hvalue
      obtain ⟨found, hfound, _⟩ := Option.bind_eq_some_iff.1 hvalue
      rw [List.append_assoc]
      exact severed_of_value? hthere reference hfound (List.append_ne_nil_of_right_ne_nil _ hne)
        (append_ne_singleton hne hself)
    · by_cases hbelow : way <+: there.segments
      · obtain ⟨further, hfurther⟩ := hbelow
        have hsame : there = ⟨there.definition, way ++ further⟩ := by rw [hfurther]
        obtain ⟨_, hrest⟩ := hway.exists_below (hfurther ▸ hthere)
        have hfar : further ≠ [] := by
          rintro rfl
          exact habove ⟨[], by rw [List.append_nil, ← hfurther, List.append_nil]⟩
        refine ⟨way, below, depth, old, rfl, hne, hself, hway, ?_⟩
        rw [hsame, Occurrence.value?_replace_above _ _ ⟨there.definition, way⟩, hvalue,
          Option.map_some, hrest.replaceAt_refTo hfar]
      · exact ⟨way, below, depth, old, rfl, hne, hself, hway,
          (Occurrence.value?_replace_of_apart _ _ fun _ => ⟨habove, hbelow⟩).trans hvalue⟩
  · exact ⟨way, below, depth, old, rfl, hne, hself, hway,
      (Occurrence.value?_replace_of_apart _ _ fun heq => absurd heq hdefinition).trans hvalue⟩

/-- What leads on from an object still does so when another one is replaced by a reference, or it is
cut off by that reference. -/
theorem severed_or_walk?_replace {here : Occurrence} (hne : below ≠ [])
    (hvalue : here.value? definitions = some value) (hwalk : (value.walk? below).isSome)
    (hself : there.definition = here.definition →
      here.segments ++ below ≠ there.segments ++ ["$ref"]) :
    Severed (Extraction.replace (.refTo reference) definitions there) here.definition
        (here.segments ++ below) ∨
      here ≠ there ∧
        ∃ next, here.value? (Extraction.replace (.refTo reference) definitions there) = some next ∧
          (next.walk? below).isSome := by
  obtain ⟨name, way⟩ := here
  by_cases hdefinition : there.definition = name
  · subst hdefinition
    have hself := hself rfl
    by_cases habove : there.segments <+: way
    · obtain ⟨further, rfl⟩ := habove
      rw [Occurrence.value?_append] at hvalue
      obtain ⟨found, hfound, _⟩ := Option.bind_eq_some_iff.1 hvalue
      dsimp only at hself ⊢
      rw [List.append_assoc] at hself ⊢
      exact .inl (severed_of_value? hthere reference hfound
        (List.append_ne_nil_of_right_ne_nil _ hne) fun heq => hself (heq ▸ rfl))
    · have hother : (⟨there.definition, way⟩ : Occurrence) ≠ there := by
        intro heq
        exact habove (heq ▸ List.prefix_refl _)
      by_cases hbelow : way <+: there.segments
      · obtain ⟨further, hfurther⟩ := hbelow
        have hsame : there = ⟨there.definition, way ++ further⟩ := by rw [hfurther]
        by_cases hcut : ∃ rest, below = further ++ rest ∧ rest ≠ [] ∧ value.follow? further ≠ none
        · obtain ⟨rest, rfl, hrest, hfollow⟩ := hcut
          obtain ⟨found, hfound⟩ := Option.ne_none_iff_exists'.1 hfollow
          have hthereValue : there.value? definitions = some found := by
            rw [hsame, Occurrence.value?_append _ ⟨there.definition, way⟩, hvalue]
            exact hfound
          dsimp only at hself ⊢
          rw [← List.append_assoc, hfurther] at hself ⊢
          exact .inl (severed_of_value? hthere reference hthereValue hrest
            fun heq => hself (heq ▸ rfl))
        · refine .inr ⟨hother, replaceAt (.refTo reference) further value, ?_, ?_⟩
          · rw [hsame, Occurrence.value?_replace_above _ _ ⟨there.definition, way⟩, hvalue]
            rfl
          · rw [Json.isSome_walk?_replaceAt]
            · exact hwalk
            · intro rest hsplit hrest
              by_contra hfollow
              exact hcut ⟨rest, hsplit, hrest, hfollow⟩
      · exact .inr ⟨hother, value, (Occurrence.value?_replace_of_apart _ _
          fun _ => ⟨habove, hbelow⟩).trans hvalue, hwalk⟩
  · exact .inr ⟨fun heq => hdefinition (heq ▸ rfl), value, (Occurrence.value?_replace_of_apart _ _
      fun heq => absurd heq hdefinition).trans hvalue, hwalk⟩

end Replacing

theorem isInlineObject_get? {schema : Json} (h : isInlineObject schema) :
    (∃ fields, schema = .object fields) ∧ schema.get? "$ref" = none := by
  rw [isInlineObject, Bool.and_eq_true, Bool.and_eq_true] at h
  refine ⟨?_, by simpa using h.1.1⟩
  cases schema with
  | object fields => exact ⟨fields, rfl⟩
  | _ => simp [Json.get?] at h

/-- The pointer with the given segments leads through an object that has been taken out. -/
def LeadsThrough (extracted : List ExtractedShape) (segments : List String) : Prop :=
  ∃ shape ∈ extracted, ∃ pointer ∈ shape.occurrences, ∃ below, below ≠ [] ∧
    segments = Pointer.segments pointer ++ below

theorem segments_pointer (occurrence : Occurrence) : Pointer.segments occurrence.pointer =
    "components" :: "schemas" :: occurrence.definition :: occurrence.segments := by
  rw [Occurrence.pointer, SchemaRef.descend_ofName, Pointer.segments_descend]

theorem leadsThrough_append_iff {extracted : List ExtractedShape} {group : List Occurrence}
    {name definition : String} {segments : List String} :
    LeadsThrough (extracted ++ [⟨name, group.map Occurrence.pointer⟩])
        ("components" :: "schemas" :: definition :: segments) ↔
      LeadsThrough extracted ("components" :: "schemas" :: definition :: segments) ∨
        ∃ occurrence ∈ group, ∃ below, below ≠ [] ∧
          definition = occurrence.definition ∧ segments = occurrence.segments ++ below := by
  have hmember : ∀ occurrence : Occurrence, ∀ below,
      ("components" :: "schemas" :: definition :: segments =
        Pointer.segments occurrence.pointer ++ below ↔
          definition = occurrence.definition ∧ segments = occurrence.segments ++ below) := by
    intro occurrence below
    rw [segments_pointer]
    simp
  constructor
  · rintro ⟨shape, hshape, pointer, hpointer, below, hne, heq⟩
    rcases List.mem_append.1 hshape with hold | hnew
    · exact .inl ⟨shape, hold, pointer, hpointer, below, hne, heq⟩
    · cases List.mem_singleton.1 hnew
      obtain ⟨occurrence, hoccurrence, rfl⟩ := List.mem_map.1 hpointer
      exact .inr ⟨occurrence, hoccurrence, below, hne, (hmember occurrence below).1 heq⟩
  · rintro (⟨shape, hshape, hrest⟩ | ⟨occurrence, hoccurrence, below, hne, heq⟩)
    · exact ⟨shape, List.mem_append_left _ hshape, hrest⟩
    · exact ⟨_, List.mem_append_right _ (List.mem_singleton_self _), occurrence.pointer,
        List.mem_map_of_mem hoccurrence, below, hne, (hmember occurrence below).2 heq⟩

/-- A pointer into a definition is cut off if it leads through an object that has been taken out, and
it leads to something otherwise. -/
structure Tracks (state : State) (name : String) (segments : List String) : Prop where
  defined : state.definitions.contains name
  cut : LeadsThrough state.extracted ("components" :: "schemas" :: name :: segments) →
    Severed state.definitions name segments
  leads : ¬LeadsThrough state.extracted ("components" :: "schemas" :: name :: segments) →
    ((Json.object state.definitions.entries).walk? (name :: segments)).isSome

section Groups

variable {definitions : NameMap Json} {group : List Occurrence} {name : String}
  {segments : List String} {limit : UInt64} {pinned : List String}

theorem isSome_walk?_foldl_replace (new : Json)
    (h : ∀ occurrence ∈ group, ∀ below, below ≠ [] →
      ¬(name = occurrence.definition ∧ segments = occurrence.segments ++ below)) :
    ((Json.object (group.foldl (replace new) definitions).entries).walk?
        (name :: segments)).isSome =
      ((Json.object definitions.entries).walk? (name :: segments)).isSome := by
  induction group generalizing definitions with
  | nil => rfl
  | cons first rest ih =>
      rw [List.forall_mem_cons] at h
      rw [List.foldl_cons, ih h.2, replace_entries]
      refine Json.isSome_walk?_replaceAt new fun below hbelow hne => ?_
      exact absurd (List.cons.inj hbelow) (h.1 below hne)

theorem walk?_insert {other : String} {body : Json} (hne : name ≠ other) :
    (Json.object (definitions.insert other body).entries).walk? (name :: segments) =
      (Json.object definitions.entries).walk? (name :: segments) := by
  have hstep : Pointer.step? (.object (definitions.insert other body).entries) name =
      Pointer.step? (.object definitions.entries) name :=
    (definitions.get?_insert other name body).trans (if_neg hne)
  rw [Json.walk?_cons, Json.walk?_cons, hstep]

theorem Severed.foldl_replace (h : Severed definitions name segments) (reference : String)
    (hways : ∀ occurrence ∈ group, ∃ depth, Way .schema depth occurrence.segments) :
    Severed (group.foldl (Extraction.replace (.refTo reference)) definitions) name segments := by
  induction group generalizing definitions with
  | nil => exact h
  | cons first rest ih =>
      rw [List.forall_mem_cons] at hways
      obtain ⟨_, hway⟩ := hways.1
      exact ih (h.replace hway reference) hways.2

/-- What leads through an object of the group is cut off once the group has been replaced. -/
theorem severed_foldl_replace {here : Occurrence} {below : List String} {value : Json}
    (reference : String)
    (hways : ∀ occurrence ∈ group, ∃ depth, Way .schema depth occurrence.segments)
    (hself : ∀ occurrence ∈ group, occurrence.definition = here.definition →
      here.segments ++ below ≠ occurrence.segments ++ ["$ref"]) (hne : below ≠ [])
    (hmem : here ∈ group) (hvalue : here.value? definitions = some value)
    (hwalk : (value.walk? below).isSome) :
    Severed (group.foldl (replace (.refTo reference)) definitions) here.definition
      (here.segments ++ below) := by
  induction group generalizing definitions value with
  | nil => cases hmem
  | cons first rest ih =>
      rw [List.forall_mem_cons] at hways hself
      obtain ⟨_, hway⟩ := hways.1
      rcases severed_or_walk?_replace hway reference hne hvalue hwalk hself.1 with
        hsevered | ⟨hother, next, hnext, hon⟩
      · exact hsevered.foldl_replace reference hways.2
      · exact ih hways.2 hself.2 ((List.mem_cons.1 hmem).resolve_left hother) hnext hon

theorem follow?_of_value? {occurrence : Occurrence} {value : Json}
    (h : occurrence.value? definitions = some value) : (Json.object definitions.entries).follow?
      (occurrence.definition :: occurrence.segments) = some value := by
  rw [Json.follow?_cons]
  exact h

/-- A pointer that leads through an object of a group leads on from the inline object there. -/
theorem Ready.exists_walk? (h : Ready limit pinned definitions group) {occurrence : Occurrence}
    (hmem : occurrence ∈ group) {below : List String}
    (hwalk : ((Json.object definitions.entries).walk?
      (occurrence.definition :: (occurrence.segments ++ below))).isSome) :
    ∃ value, occurrence.value? definitions = some value ∧ isInlineObject value ∧
      (value.walk? below).isSome := by
  obtain ⟨value, hvalue, hinline⟩ := h.inline occurrence hmem
  rw [← List.cons_append, Json.walk?_append_of_follow? (follow?_of_value? hvalue)] at hwalk
  exact ⟨value, hvalue, hinline, hwalk⟩

/-- No pointer that leads somewhere leads into a reference of an object of a group. -/
theorem Ready.walk?_ref (h : Ready limit pinned definitions group) {occurrence : Occurrence}
    (hmem : occurrence ∈ group) : ¬((Json.object definitions.entries).walk?
      (occurrence.definition :: (occurrence.segments ++ ["$ref"]))).isSome := by
  intro hwalk
  obtain ⟨_, _, hinline, hstep⟩ := h.exists_walk? hmem hwalk
  obtain ⟨⟨fields, rfl⟩, hnone⟩ := isInlineObject_get? hinline
  rw [Json.walk?_cons, show Pointer.step? (.object fields) "$ref" = none from hnone] at hstep
  cases hstep

/-- What is known of a pointer is still known of it when a group has been taken out. -/
theorem Tracks.next {before next : State} {shape : String} {body : Json}
    (h : Tracks before name segments) (hready : Ready limit pinned before.definitions group)
    (htakes : TakesOut before group shape body next) : Tracks next name segments := by
  have hne : name ≠ shape := by
    rintro rfl
    have hdefined := h.defined
    rw [NameMap.contains, htakes.fresh] at hdefined
    cases hdefined
  refine ⟨htakes.contains_iff.2 (.inr h.defined), ?_, ?_⟩
  · rw [htakes.extracted, leadsThrough_append_iff, htakes.definitions]
    intro hleads
    refine Severed.insert ?_ (get?_foldl_replace_eq_none _ htakes.fresh)
    by_cases hold : LeadsThrough before.extracted ("components" :: "schemas" :: name :: segments)
    · exact (h.cut hold).foldl_replace _ hready.way
    · obtain ⟨occurrence, hmem, below, hbelow, rfl, rfl⟩ := hleads.resolve_left hold
      obtain ⟨value, hvalue, _, hon⟩ := hready.exists_walk? hmem (h.leads hold)
      refine severed_foldl_replace _ hready.way (fun other hother hdefinition heq => ?_) hbelow
        hmem hvalue hon
      refine hready.walk?_ref hother ?_
      rw [← heq, hdefinition]
      exact h.leads hold
  · rw [htakes.extracted, leadsThrough_append_iff, htakes.definitions, not_or]
    rintro ⟨hold, hnew⟩
    rw [walk?_insert hne, isSome_walk?_foldl_replace]
    · exact h.leads hold
    · rintro occurrence hmem below hbelow heq
      exact hnew ⟨occurrence, hmem, below, hbelow, heq⟩

/-- What the definitions say and what has been taken out, as an extraction goes on from the given
definitions. -/
structure Accounts (pinned : List String) (start : NameMap Json) (state : State) : Prop where
  said : ∀ text, (Json.object state.definitions.entries).Says text →
    (Json.object start.entries).Says text ∨
      ∃ name, name ≠ "" ∧ text = SchemaRef.ofName name ∧ state.definitions.contains name
  free : ∀ shape ∈ state.extracted, ∀ pointer ∈ shape.occurrences, ∃ occurrence : Occurrence,
    pointer = occurrence.pointer ∧ occurrence.segments ≠ [] ∧ occurrence.isPinned pinned = false

theorem said_foldl_replace {reference text : String} (hreference : ¬SchemaRef.isBareName reference)
    (h : (Json.object (group.foldl (replace (.refTo reference)) definitions).entries).Says text) :
    (Json.object definitions.entries).Says text ∨ text = reference := by
  induction group generalizing definitions with
  | nil => exact .inl h
  | cons first rest ih =>
      refine (ih h).elim (fun hold => ?_) .inr
      rw [replace_entries] at hold
      exact (reduced_replaceAt reference _ _).said hreference hold

theorem Accounts.next {start : NameMap Json} {before next : State} {shape : String} {body : Json}
    (h : Accounts pinned start before) (hready : Ready limit pinned before.definitions group)
    (htakes : TakesOut before group shape body next) : Accounts pinned start next := by
  obtain ⟨first, hfirst, hbody, hshape⟩ := htakes.named
  have hname : shape ≠ "" ∧ shape ≠ "discriminator" :=
    hshape ▸ uniqueName_nameHint_ne first before.definitions
  refine ⟨fun text hsaid => ?_, fun taken htaken pointer hpointer => ?_⟩
  · have hbefore : (Json.object before.definitions.entries).Says text ∨
        text = SchemaRef.ofName shape := by
      obtain ⟨schema, hschema, hinline⟩ := hready.inline first (List.mem_of_mem_head? hfirst)
      rw [hbody, Option.some.injEq] at hschema
      obtain ⟨⟨fields, hfields⟩, _⟩ := isInlineObject_get? hinline
      have hobject : ∀ string, body ≠ .string string := by
        rintro string rfl
        rw [← hschema] at hfields
        cases hfields
      have hbare : ¬SchemaRef.isBareName (SchemaRef.ofName shape) := by
        have hnot := SchemaRef.not_isBareName_ofName shape ""
        rwa [String.append_empty] at hnot
      rw [htakes.definitions] at hsaid
      rcases said_insert hname.2 hobject hsaid with hrest | hinside
      · exact said_foldl_replace hbare hrest
      · exact .inl (hinside.of_follow? (follow?_of_value? hbody))
    rcases hbefore with hold | rfl
    · rcases h.said text hold with hstart | ⟨name, hne, rfl, hdefined⟩
      · exact .inl hstart
      · exact .inr ⟨name, hne, rfl, htakes.contains_iff.2 (.inr hdefined)⟩
    · exact .inr ⟨shape, hname.1, rfl, htakes.contains_iff.2 (.inl rfl)⟩
  · rw [htakes.extracted] at htaken
    rcases List.mem_append.1 htaken with hold | hnew
    · exact h.free taken hold pointer hpointer
    · cases List.mem_singleton.1 hnew
      obtain ⟨occurrence, hmem, rfl⟩ := List.mem_map.1 hpointer
      exact ⟨occurrence, rfl, hready.inner occurrence hmem, hready.free occurrence hmem⟩

end Groups

/-- A reference that is spelled the way pointers are written pins what it leads through. -/
theorem isPinned_of_leads {occurrence : Occurrence} {pinned : List String} {reference : String}
    {below : List String} (hmem : reference ∈ pinned)
    (hspelled : Pointer.descend "#" (Pointer.segments reference) = reference)
    (hleads : Pointer.segments reference = Pointer.segments occurrence.pointer ++ below) :
    occurrence.isPinned pinned := by
  have htext : reference = Pointer.descend occurrence.pointer below := by
    rw [← hspelled, hleads, segments_pointer, Occurrence.pointer, SchemaRef.descend_ofName,
      ← Pointer.descend_append]
  have hrest : reference = occurrence.pointer ++ String.ofList (Pointer.written below) := by
    rw [← String.toList_inj, htext, Pointer.toList_descend, String.toList_append,
      String.toList_ofList]
  refine List.any_eq_true.2 ⟨reference, hmem, ?_⟩
  rw [Text.afterStart?_eq_some_iff.2 hrest]
  cases below with
  | nil => rfl
  | cons segment more =>
      have hslash : Text.startsWith "/" (String.ofList (Pointer.written (segment :: more))) :=
        Text.startsWith_iff.2 ⟨String.ofList ((Pointer.escape segment).toList ++
          Pointer.written more), String.toList_inj.1 (by simp [Pointer.written])⟩
      exact Bool.or_eq_true _ _ ▸ .inr hslash

end Extraction

namespace Document

variable {document out : Document} {limit : UInt64} {extracted : List ExtractedShape}

open Extraction (LeadsThrough Tracks)

/-- A pointer into a definition leads to something after an extraction iff it led to something and
does not lead through an object that has been taken out. -/
theorem resolves_extractInline?_iff (hordered : document.toJson.Ordered)
    (h : document.extractInline? limit = .ok (out, extracted)) {reference name tail : String}
    (hsplit : SchemaRef.split? reference = some (name, tail))
    (hresolves : document.resolves document.toJson reference) :
    out.resolves out.toJson reference ↔ ¬LeadsThrough extracted (Pointer.segments reference) := by
  obtain ⟨fuel, state, hstate, rfl, rfl⟩ := extractInline?_eq_ok h
  obtain ⟨_, hsegments⟩ := SchemaRef.segments_of_split? hsplit
  have hstart : Tracks ⟨document.definitions, []⟩ name (Pointer.segments tail) := by
    refine ⟨contains_of_resolves hsplit hresolves, ?_, fun _ => ?_⟩
    · rintro ⟨_, hnone, _⟩
      cases hnone
    · rwa [← resolves_eq_walk? hsplit]
  obtain ⟨_, hfinal⟩ := Extraction.extraction_induction
    (p := fun state => Tracks state name (Pointer.segments tail))
    (fun _ _ _ _ _ hready htakes hbefore => hbefore.next hready htakes) hstate
    (Json.ordered_entries.2 (ordered_toJson_iff.1 hordered).1) hstart
  rw [resolves_eq_walk? hsplit, hsegments]
  constructor
  · intro hwalk hleads
    have hnone := (hfinal.cut hleads).walk?_eq_none
    have hcontainer : (document.withDefinitions state.definitions).definitions =
        state.definitions := rfl
    rw [hcontainer, hnone] at hwalk
    cases hwalk
  · exact hfinal.leads

/-- The reference led to something below an object that has been taken out, and it is not spelled the
way pointers are written. -/
structure Slips (document : Document) (extracted : List ExtractedShape) (reference : String) :
    Prop where
  deep : reference ∈ Extraction.deepReferences document
  resolves : document.resolves document.toJson reference
  misspelled : Pointer.descend "#" (Pointer.segments reference) ≠ reference
  through : LeadsThrough extracted (Pointer.segments reference)

theorem exists_accounts (hordered : document.toJson.Ordered)
    (h : document.extractInline? limit = .ok (out, extracted)) :
    ∃ state, out = document.withDefinitions state.definitions ∧ extracted = state.extracted ∧
      Extraction.Accounts (Extraction.deepReferences document) document.definitions state := by
  obtain ⟨fuel, state, hstate, hout, hextracted⟩ := extractInline?_eq_ok h
  obtain ⟨_, haccounts⟩ := Extraction.extraction_induction
    (p := Extraction.Accounts (Extraction.deepReferences document) document.definitions)
    (fun _ _ _ _ _ hready htakes hbefore => hbefore.next hready htakes) hstate
    (Json.ordered_entries.2 (ordered_toJson_iff.1 hordered).1) ⟨fun _ => .inl, by simp⟩
  exact ⟨state, hout, hextracted, haccounts⟩

/-- The references that come in point at what has been taken out, so one that points at nothing was
there before. -/
theorem exists_site_of_lost (hordered : document.toJson.Ordered)
    (h : document.extractInline? limit = .ok (out, extracted)) {site : Site}
    (hsite : site ∈ out.sites) (hlost : ¬out.resolves out.toJson site.target) :
    ∃ old ∈ document.sites, old.target = site.target := by
  obtain ⟨state, rfl, _, haccounts⟩ := exists_accounts hordered h
  rw [exists_site_iff]
  rcases said_withDefinitions (exists_site_iff.1 ⟨site, hsite, rfl⟩) with hinside | houtside
  · rcases haccounts.said _ hinside with hold | ⟨name, hne, heq, hdefined⟩
    · exact said_of_definitions hold
    · refine absurd ?_ hlost
      rw [heq, resolves_of_split? (SchemaRef.split?_ofName hne)]
      exact hdefined
  · exact houtside

/-- A reference that points at nothing any more has slipped through. -/
theorem slips_of_lost (hordered : document.toJson.Ordered)
    (h : document.extractInline? limit = .ok (out, extracted)) {reference : String}
    (hold : ∃ old ∈ document.sites, old.target = reference)
    (hresolves : document.resolves document.toJson reference)
    (hlost : ¬out.resolves out.toJson reference) : document.Slips extracted reference := by
  cases hsplit : SchemaRef.split? reference with
  | none => exact absurd (resolves_of_split?_eq_none hsplit) hlost
  | some entered =>
      obtain ⟨name, tail⟩ := entered
      have htail : tail ≠ "" := by
        rintro rfl
        refine hlost ?_
        rw [resolves_of_split? hsplit] at hresolves ⊢
        exact contains_extractInline? h hresolves
      have hthrough : LeadsThrough extracted (Pointer.segments reference) := by
        rwa [resolves_extractInline?_iff hordered h hsplit hresolves, not_not] at hlost
      have hdeep : reference ∈ Extraction.deepReferences document := by
        obtain ⟨old, hmem, rfl⟩ := hold
        exact List.mem_filter.2 ⟨List.mem_map_of_mem hmem, by simp [hsplit, htail]⟩
      refine ⟨hdeep, hresolves, fun hspelled => ?_, hthrough⟩
      -- Spelled like that it would have pinned the object.
      obtain ⟨state, _, rfl, haccounts⟩ := exists_accounts hordered h
      obtain ⟨shape, hshape, pointer, hpointer, below, _, hleads⟩ := hthrough
      obtain ⟨occurrence, rfl, _, hfree⟩ := haccounts.free shape hshape pointer hpointer
      rw [Extraction.isPinned_of_leads hdeep hspelled hleads] at hfree
      cases hfree

/-- An extraction leaves a reference that points at nothing now and did not before iff one has
slipped through. -/
theorem extractInline?_dangling_iff (hordered : document.toJson.Ordered)
    (h : document.extractInline? limit = .ok (out, extracted)) :
    (∀ site ∈ out.danglingSites, site.target ∈ document.danglingSites.map (·.target)) ↔
      ∀ site ∈ out.sites, ¬document.Slips extracted site.target := by
  constructor
  · intro hnone site hsite hslips
    have hdeep := (List.mem_filter.1 hslips.deep).2
    split at hdeep
    case h_2 => cases hdeep
    case h_1 hsplit =>
      have hlost : ¬out.resolves out.toJson site.target := by
        rw [resolves_extractInline?_iff hordered h hsplit hslips.resolves, not_not]
        exact hslips.through
      obtain ⟨other, hother, htarget⟩ := List.mem_map.1
        (hnone site (mem_danglingSites_iff.2 ⟨hsite, Bool.eq_false_iff.2 hlost⟩))
      have hnot := (mem_danglingSites_iff.1 hother).2
      rw [htarget, hslips.resolves] at hnot
      cases hnot
  · intro hnone site hsite
    obtain ⟨hsite, hnot⟩ := mem_danglingSites_iff.1 hsite
    have hlost := Bool.eq_false_iff.1 hnot
    obtain ⟨old, hold, htarget⟩ := exists_site_of_lost hordered h hsite hlost
    have hbefore : document.resolves document.toJson old.target = false := by
      rw [htarget]
      exact Bool.eq_false_iff.2 fun hresolves =>
        hnone site hsite (slips_of_lost hordered h ⟨old, hold, htarget⟩ hresolves hlost)
    exact List.mem_map.2 ⟨old, mem_danglingSites_iff.2 ⟨hold, hbefore⟩, htarget⟩

/-- An address that three definitions hold. A reference leads into that of `Per~son`. -/
def settled (reference : String) : Document :=
  let address : Json := .record [
    ("properties", .record [("city", .record [("type", .string "string")])]),
    ("type", .string "object")]
  let holder : Json := .record [("properties", .record [("address", address)])]
  ofSchemas [("Per~son", holder), ("Shop", holder), ("Stall", holder), ("Town", .refTo reference)]

theorem ordered_settled (reference : String) : (settled reference).toJson.Ordered := by
  refine ordered_ofSchemas ?_
  simp only [Json.record, Json.refTo, Json.ordered_object, Json.ordered_string, Fields.Ascending,
    List.pairwise_cons, List.Pairwise.nil, List.forall_mem_cons, List.not_mem_nil, false_imp_iff,
    implies_true, and_true]
  decide

/-- The way pointers are written. -/
def spelled : String := "#/components/schemas/Per~0son/properties/address/properties/city"

/-- The tilde stands for itself. -/
def misspelled : String := "#/components/schemas/Per~son/properties/address/properties/city"

/-- A reference that is spelled the way pointers are written pins the address that it leads into. -/
theorem extractInline?_dangling_iff_settled : ∃ out extracted,
    (settled spelled).toJson.Ordered ∧
    (settled spelled).extractInline? 64 = .ok (out, extracted) ∧
    extracted = [⟨"Address", ["#/components/schemas/Shop/properties/address",
      "#/components/schemas/Stall/properties/address"]⟩] ∧
    ((∀ site ∈ out.danglingSites, site.target ∈ (settled spelled).danglingSites.map (·.target)) ↔
      ∀ site ∈ out.sites, ¬(settled spelled).Slips extracted site.target) := by
  obtain ⟨⟨out, extracted⟩, hrun, hextracted⟩ : ∃ result,
      (settled spelled).extractInline? 64 = .ok result ∧
        result.2 = [⟨"Address", ["#/components/schemas/Shop/properties/address",
          "#/components/schemas/Stall/properties/address"]⟩] :=
    exists_ok_of_toOption (by decide +kernel)
  exact ⟨out, extracted, ordered_settled _, hrun, hextracted,
    extractInline?_dangling_iff (ordered_settled _) hrun⟩

/-- Spelled in another way the reference pins nothing, and it gets lost. -/
theorem extractInline?_dangling_settled : ∃ out extracted,
    (settled misspelled).extractInline? 64 = .ok (out, extracted) ∧
    (settled misspelled).danglingSites = [] ∧
    out.danglingSites = [⟨"#/components/schemas/Town", misspelled⟩] := by
  obtain ⟨⟨out, extracted⟩, hrun, hdangling⟩ : ∃ result,
      (settled misspelled).extractInline? 64 = .ok result ∧
        result.1.danglingSites = [⟨"#/components/schemas/Town", misspelled⟩] :=
    exists_ok_of_toOption (by decide +kernel)
  exact ⟨out, extracted, hrun, by decide +kernel, hdangling⟩

end Document

end SchemaMerge
