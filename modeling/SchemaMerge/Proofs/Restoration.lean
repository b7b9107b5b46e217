import SchemaMerge.Proofs.Pinning
import SchemaMerge.Proofs.PlainForms

/-!
Undoing an extraction. The shapes are put back from the last one to the first one: the definition of a
shape goes, and its body is written at the pointers of the objects that it stood for
(`Document.putBack?`). The objects of a group have one plain form and stand apart, so whatever has the
plain forms of the definitions after a group has been taken out gets, when the shape is put back, the
plain forms of the definitions before (`Extraction.Restorable.next`). So every definition comes back
with the key that it had (`Document.extractInline?_putBack`).
-/

namespace SchemaMerge

open Extraction (Way replaceAt replace)

namespace Json

/-- Writes a value at the end of a way through objects and arrays. Something has to stand there. -/
def put? (new : Json) : List String → Json → Option Json
  | [], _ => some new
  | segment :: way, .object fields => do
      let inner ← fields.lookup segment
      let changed ← put? new way inner
      return .object (Fields.insert segment changed fields)
  | segment :: way, .array items => do
      let index ← Text.count? segment
      let inner ← items[index]?
      let changed ← put? new way inner
      return .array (items.set index changed)
  | _, _ => none

/-- On a way through objects the value is replaced. -/
theorem put?_of_follow? (new : Json) {value found : Json} (hordered : value.Ordered)
    {way : List String} (h : value.follow? way = some found) :
    put? new way value = some (replaceAt new way value) := by
  induction way generalizing value with
  | nil => rw [put?, Extraction.replaceAt_nil]
  | cons segment way ih =>
      obtain ⟨fields, inner, rfl, hlookup, hbelow⟩ := follow?_cons_eq_some h
      have hfields : Fields.insert segment (replaceAt new way inner) fields =
          Fields.mapValues (fun key value =>
            if key = segment then replaceAt new way value else value) fields := by
        refine (hordered.1.insert _ _).ext (hordered.1.mapValues _) fun key => ?_
        rw [Fields.lookup_insert, Fields.lookup_mapValues]
        by_cases hkey : key = segment
        · simp [hkey, hlookup]
        · simp [hkey]
      rw [put?, hlookup, Extraction.replaceAt_cons_object, ← hfields]
      simp only [Option.bind_eq_bind, Option.bind_some, ih (hordered.2.lookup hlookup) hbelow]
      rfl

end Json

/-- Writes a value where a pointer points. -/
def Pointer.put? (new root : Json) (pointer : String) : Option Json :=
  match pointer.toList with
  | ['#'] => some new
  | '#' :: '/' :: _ => Json.put? new (segments pointer) root
  | _ => none

/-- Removes the definition of a shape and writes its body at the pointers of the objects that it has
replaced. -/
def ExtractedShape.putBack? (shape : ExtractedShape) (document : Document) : Option Document := do
  let body ← document.definitions.get? shape.name
  let without := document.withDefinitions (document.definitions.erase shape.name)
  let root ← shape.occurrences.foldlM (Pointer.put? body) without.toJson
  (Document.ofJson? root).toOption

/-- Puts shapes back, the last one first. -/
def Document.putBack? (document : Document) (extracted : List ExtractedShape) : Option Document :=
  extracted.reverse.foldlM (fun document shape => shape.putBack? document) document

namespace Extraction

variable {definitions : NameMap Json} {group : List Occurrence} {occurrence : Occurrence}
  {new found : Json} {name : String}

/-- The plain forms of definitions. -/
noncomputable def plainForms (definitions : NameMap Json) : NameMap Json :=
  definitions.map fun _ => Key.plain .schema

theorem get?_plainForms (definitions : NameMap Json) (name : String) :
    (plainForms definitions).get? name = (definitions.get? name).map (Key.plain .schema) :=
  NameMap.get?_map ..

theorem plainForms_insert (definitions : NameMap Json) (name : String) (value : Json) :
    plainForms (definitions.insert name value) =
      (plainForms definitions).insert name (Key.plain .schema value) := by
  apply NameMap.ext_get?
  intro other
  rw [get?_plainForms, NameMap.get?_insert, NameMap.get?_insert, get?_plainForms]
  split <;> rfl

theorem plainForms_erase (definitions : NameMap Json) (name : String) :
    plainForms (definitions.erase name) = (plainForms definitions).erase name := by
  apply NameMap.ext_get?
  intro other
  rw [get?_plainForms, NameMap.get?_erase, NameMap.get?_erase, get?_plainForms]
  split <;> rfl

theorem ordered_plainForms (h : (Json.object definitions.entries).Ordered) :
    (Json.object (plainForms definitions).entries).Ordered := by
  rw [Json.ordered_entries] at h ⊢
  intro name shown hshown
  rw [get?_plainForms] at hshown
  obtain ⟨value, hvalue, rfl⟩ := Option.map_eq_some_iff.1 hshown
  exact Key.ordered_plain (h name value hvalue) .schema

theorem ordered_erase (h : (Json.object definitions.entries).Ordered) (name : String) :
    (Json.object (definitions.erase name).entries).Ordered := by
  rw [Json.ordered_entries] at h ⊢
  intro other value hvalue
  rw [NameMap.get?_erase] at hvalue
  split at hvalue
  · cases hvalue
  · exact h other value hvalue

section Ways

variable (hway : ∃ depth, Way .schema depth occurrence.segments)

include hway

theorem value?_plainForms {fields : List (String × Json)}
    (h : occurrence.value? definitions = some (.object fields)) :
    occurrence.value? (plainForms definitions) = some (Key.plain .schema (.object fields)) := by
  obtain ⟨_, hway⟩ := hway
  rw [Occurrence.value?_eq] at h ⊢
  obtain ⟨body, hbody, hfollow⟩ := Option.bind_eq_some_iff.1 h
  rw [get?_plainForms, hbody]
  exact Key.follow?_plain hway hfollow

theorem isSome_value?_of_plainForms
    (h : occurrence.value? (plainForms definitions) = some found) :
    (occurrence.value? definitions).isSome := by
  obtain ⟨_, hway⟩ := hway
  rw [Occurrence.value?_eq, get?_plainForms] at h
  obtain ⟨shown, hshown, hfollow⟩ := Option.bind_eq_some_iff.1 h
  obtain ⟨body, hbody, rfl⟩ := Option.map_eq_some_iff.1 hshown
  obtain ⟨below, hbelow⟩ := Key.exists_follow?_of_plain hway hfollow
  rw [Occurrence.value?_eq, hbody, Option.bind_some, hbelow]
  rfl

theorem plainForms_replace (fields : List (String × Json)) (definitions : NameMap Json) :
    plainForms (replace (.object fields) definitions occurrence) =
      replace (Key.plain .schema (.object fields)) (plainForms definitions) occurrence := by
  obtain ⟨_, hway⟩ := hway
  apply NameMap.ext_get?
  intro name
  rw [get?_plainForms, Occurrence.get?_replace, Occurrence.get?_replace, get?_plainForms,
    Option.map_map, Option.map_map]
  refine congrArg (Option.map · _) (funext fun schema => ?_)
  dsimp only [Function.comp]
  split
  · exact Key.plain_replaceAt hway schema
  · rfl

end Ways

theorem plainForms_foldl_replace (hways : ∀ occurrence ∈ group, ∃ depth,
      Way .schema depth occurrence.segments) (fields : List (String × Json))
    (definitions : NameMap Json) :
    plainForms (group.foldl (replace (.object fields)) definitions) =
      group.foldl (replace (Key.plain .schema (.object fields))) (plainForms definitions) := by
  induction group generalizing definitions with
  | nil => rfl
  | cons first rest ih =>
      rw [List.forall_mem_cons] at hways
      rw [List.foldl_cons, ih hways.2, plainForms_replace hways.1, List.foldl_cons]

/-- Any two objects are one or stand apart. -/
def Separate (group : List Occurrence) : Prop :=
  ∀ a ∈ group, ∀ b ∈ group, a = b ∨ a.Apart b

/-- No value stands below itself, so objects with one value are separate. -/
theorem separate_of_value? (h : ∀ occurrence ∈ group, occurrence.value? definitions = some found) :
    Separate group := by
  have hcontains : ∀ a ∈ group, ∀ b ∈ group, a.contains b = false := by
    intro a ha b hb
    by_contra hcontains
    obtain ⟨way, hway, rfl⟩ := Occurrence.contains_iff.1 (Bool.of_not_eq_false hcontains)
    have hbelow := h _ hb
    rw [Occurrence.value?_descend, h a ha, Option.bind_some] at hbelow
    exact absurd (Json.sizeOf_follow?_lt hway hbelow) (Nat.lt_irrefl _)
  intro a ha b hb
  by_cases hsame : a = b
  · exact .inl hsame
  · exact .inr (Occurrence.apart_of_not_contains hsame (hcontains a ha b hb) (hcontains b hb a ha))

/-- What has been replaced at an object of a group does not matter once the whole group is. -/
theorem foldl_replace_replace (hseparate : Separate group) (hmem : occurrence ∈ group)
    (other : Json) (definitions : NameMap Json) :
    group.foldl (replace new) (replace other definitions occurrence) =
      group.foldl (replace new) definitions := by
  induction group generalizing definitions with
  | nil => cases hmem
  | cons first rest ih =>
      rw [List.foldl_cons, List.foldl_cons]
      rcases hseparate first List.mem_cons_self occurrence hmem with rfl | hapart
      · rw [Occurrence.replace_replace]
      · rw [Occurrence.replace_comm new definitions other hapart]
        rcases List.mem_cons.1 hmem with rfl | hrest
        · exact absurd List.prefix_rfl (hapart rfl).1
        · exact ih (fun a ha b hb => hseparate a (.tail _ ha) b (.tail _ hb)) hrest _

theorem foldl_replace_foldl_replace (hseparate : Separate group) (other : Json)
    (definitions : NameMap Json) :
    group.foldl (replace new) (group.foldl (replace other) definitions) =
      group.foldl (replace new) definitions := by
  suffices ∀ rest : List Occurrence, rest ⊆ group → ∀ definitions : NameMap Json,
      group.foldl (replace new) (rest.foldl (replace other) definitions) =
        group.foldl (replace new) definitions from this group (List.Subset.refl _) definitions
  intro rest
  induction rest with
  | nil => exact fun _ _ => rfl
  | cons first rest ih =>
      intro hsub definitions
      rw [List.foldl_cons, ih (fun _ hmem => hsub (.tail _ hmem)),
        foldl_replace_replace hseparate (hsub List.mem_cons_self)]

/-- Putting what stands there in the place of a group changes nothing. -/
theorem foldl_replace_eq_self (hordered : (Json.object definitions.entries).Ordered)
    (h : ∀ occurrence ∈ group, occurrence.value? definitions = some found) :
    group.foldl (replace found) definitions = definitions := by
  induction group with
  | nil => rfl
  | cons first rest ih =>
      rw [List.forall_mem_cons] at h
      have hfirst : replace found definitions first = definitions := by
        refine NameMap.ext (Json.object.inj ?_)
        rw [replace_entries]
        exact replaceAt_eq_self hordered (follow?_of_value? h.1)
      rw [List.foldl_cons, hfirst, ih h.2]

theorem isSome_value?_replace {other : Occurrence} (h : occurrence = other ∨ occurrence.Apart other)
    (new : Json) (definitions : NameMap Json) :
    (other.value? (replace new definitions occurrence)).isSome =
      (other.value? definitions).isSome := by
  rcases h with rfl | hapart
  · rw [Occurrence.value?_replace_self, Option.isSome_map]
  · rw [Occurrence.value?_replace_of_apart new definitions hapart]

/-- An object of a group is there, whatever has taken the place of the group. -/
theorem isSome_value?_foldl_replace (hseparate : Separate group) (hmem : occurrence ∈ group)
    (new : Json) (definitions : NameMap Json) :
    (occurrence.value? (group.foldl (replace new) definitions)).isSome =
      (occurrence.value? definitions).isSome := by
  suffices ∀ rest : List Occurrence, rest ⊆ group → ∀ definitions : NameMap Json,
      (occurrence.value? (rest.foldl (replace new) definitions)).isSome =
        (occurrence.value? definitions).isSome from this group (List.Subset.refl _) definitions
  intro rest
  induction rest with
  | nil => exact fun _ _ => rfl
  | cons other rest ih =>
      intro hsub definitions
      rw [List.foldl_cons, ih (fun _ hin => hsub (.tail _ hin)),
        isSome_value?_replace (hseparate other (hsub List.mem_cons_self) occurrence hmem)]

theorem aliasTarget?_of_isInlineObject {schema : Json} (h : isInlineObject schema) :
    Key.aliasTarget? schema = none := by
  obtain ⟨⟨fields, rfl⟩, href⟩ := isInlineObject_get? h
  rw [Json.get?] at href
  rw [Key.aliasTarget?_object, href]
  rfl

/-- The objects of a group have one plain form, if nothing refers to the empty name. -/
theorem Ready.value?_plainForms {limit : UInt64} {pinned : List String} {body : Json}
    (h : Ready limit pinned definitions group)
    (hnot : ¬(Json.object definitions.entries).Says SchemaRef.start)
    {first : Occurrence} (hfirst : first ∈ group) (hbody : first.value? definitions = some body) :
    ∀ occurrence ∈ group,
      occurrence.value? (plainForms definitions) = some (Key.plain .schema body) := by
  obtain ⟨key, hkey⟩ := h.alike
  have hschema : ∀ occurrence ∈ group, ∀ schema, occurrence.value? definitions = some schema →
      schema.Ordered ∧ ¬schema.Says SchemaRef.start := by
    intro occurrence _ schema hvalue
    exact ⟨ordered_value? h.ordered hvalue,
      fun hsaid => hnot (hsaid.of_follow? (follow?_of_value? hvalue))⟩
  intro occurrence hmem
  obtain ⟨schema, hvalue, hinline⟩ := h.inline occurrence hmem
  obtain ⟨⟨fields, rfl⟩, _⟩ := isInlineObject_get? hinline
  obtain ⟨hordered, hquiet⟩ := hschema occurrence hmem _ hvalue
  obtain ⟨hordered', hquiet'⟩ := hschema first hfirst body hbody
  have hplain : Key.plain .schema (.object fields) = Key.plain .schema body :=
    Key.plain_congr hordered hordered' hquiet hquiet' (aliasTarget?_of_isInlineObject hinline)
      (hkey occurrence hmem _ hvalue) (hkey first hfirst body hbody)
  rw [Extraction.value?_plainForms (h.way occurrence hmem) hvalue, hplain]

/-- Taking out a group puts references into the plain forms, and the shape comes to them. -/
theorem TakesOut.plainForms_next {limit : UInt64} {pinned : List String} {before next : State}
    {body : Json} (h : TakesOut before group name body next)
    (hready : Ready limit pinned before.definitions group) :
    plainForms next.definitions =
      (group.foldl (replace (Key.plain .schema (.refTo (SchemaRef.ofName name))))
        (plainForms before.definitions)).insert name (Key.plain .schema body) := by
  rw [h.definitions, plainForms_insert]
  exact congrArg (NameMap.insert · name _) (plainForms_foldl_replace hready.way _ _)

/-- What has the plain form of an object is one. -/
theorem exists_object_of_plain {body : Json} (hbody : isInlineObject body)
    (h : Key.plain .schema found = Key.plain .schema body) : ∃ fields, found = .object fields := by
  obtain ⟨⟨fields, rfl⟩, _⟩ := isInlineObject_get? hbody
  have hobject := Key.isSome_object?_plain .schema found
  rw [h, Key.isSome_object?_plain] at hobject
  cases found with
  | object members => exact ⟨members, rfl⟩
  | _ => cases hobject

/-- Definitions with the plain forms of those from which a group has been taken out have a body for
the shape. Put back it gives definitions with the plain forms from before. -/
theorem TakesOut.plainForms_putBack {limit : UInt64} {pinned : List String} {before next : State}
    {body : Json} (h : TakesOut before group name body next)
    (hready : Ready limit pinned before.definitions group)
    (hnot : ¬(Json.object before.definitions.entries).Says SchemaRef.start)
    (hplain : plainForms definitions = plainForms next.definitions) :
    Separate group ∧ ∃ found, definitions.get? name = some found ∧
      (∀ occurrence ∈ group, (occurrence.value? (definitions.erase name)).isSome) ∧
      plainForms (group.foldl (replace found) (definitions.erase name)) =
        plainForms before.definitions := by
  obtain ⟨first, hfirst, hbody, _⟩ := h.named
  have hvalues := hready.value?_plainForms hnot (List.mem_of_mem_head? hfirst) hbody
  have hseparate := separate_of_value? hvalues
  rw [h.plainForms_next hready] at hplain
  have hbodies : (definitions.get? name).map (Key.plain .schema) =
      some (Key.plain .schema body) := by
    rw [← get?_plainForms, hplain, NameMap.get?_insert, if_pos rfl]
  have herase : plainForms (definitions.erase name) =
      group.foldl (replace (Key.plain .schema (.refTo (SchemaRef.ofName name))))
        (plainForms before.definitions) := by
    rw [plainForms_erase, hplain, NameMap.erase_insert]
    refine get?_foldl_replace_eq_none _ ?_
    rw [get?_plainForms, h.fresh, Option.map_none]
  obtain ⟨found, hfound, hsame⟩ := Option.map_eq_some_iff.1 hbodies
  obtain ⟨fields, rfl⟩ : ∃ fields, found = .object fields := by
    obtain ⟨schema, hschema, hinline⟩ := hready.inline first (List.mem_of_mem_head? hfirst)
    rw [hbody, Option.some.injEq] at hschema
    exact exists_object_of_plain hinline (hschema ▸ hsame)
  refine ⟨hseparate, _, hfound, fun occurrence hmem => ?_, ?_⟩
  · have hsome := isSome_value?_foldl_replace hseparate hmem
      (Key.plain .schema (.refTo (SchemaRef.ofName name))) (plainForms before.definitions)
    rw [← herase, hvalues occurrence hmem] at hsome
    obtain ⟨shown, hshown⟩ := Option.isSome_iff_exists.1 hsome
    exact isSome_value?_of_plainForms (hready.way occurrence hmem) hshown
  · rw [plainForms_foldl_replace hready.way, herase, hsame, foldl_replace_foldl_replace hseparate]
    exact foldl_replace_eq_self (ordered_plainForms hready.ordered) hvalues

end Extraction

namespace Document

variable {document : Document} {definitions : NameMap Json}

theorem ordered_withDefinitions (h : document.toJson.Ordered)
    (hdefinitions : (Json.object definitions.entries).Ordered) :
    (document.withDefinitions definitions).toJson.Ordered := by
  rw [ordered_toJson_iff] at h ⊢
  exact ⟨Json.ordered_entries.1 hdefinitions, h.2⟩

theorem replaceAt_insert (new : Json) (m : NameMap Json) (key : String) (value : Json)
    (way : List String) : replaceAt new (key :: way) (.object (m.insert key value).entries) =
      .object (m.insert key (replaceAt new way value)).entries := by
  have hmap : (m.insert key value).map (fun other inner =>
      if other = key then replaceAt new way inner else inner) =
        m.insert key (replaceAt new way value) := by
    apply NameMap.ext_get?
    intro other
    rw [NameMap.get?_map, NameMap.get?_insert, NameMap.get?_insert]
    by_cases hother : other = key
    · simp [hother]
    · simp [hother]
  rw [Extraction.replaceAt_cons_object, ← hmap]
  rfl

/-- What is replaced below a definition is replaced in the container of the definitions. -/
theorem replaceAt_toJson (document : Document) (new : Json) (occurrence : Occurrence) :
    replaceAt new ("components" :: "schemas" :: occurrence.definition :: occurrence.segments)
        document.toJson =
      (document.withDefinitions (replace new document.definitions occurrence)).toJson := by
  rw [toJson, replaceAt_insert, components, replaceAt_insert, ← Extraction.replace_entries]
  rfl

/-- Writing at the pointer of an object that is there replaces the object. -/
theorem put?_pointer (new : Json) {occurrence : Occurrence} (h : document.toJson.Ordered)
    (hsome : (occurrence.value? document.definitions).isSome) :
    Pointer.put? new document.toJson occurrence.pointer =
      some (document.withDefinitions (replace new document.definitions occurrence)).toJson := by
  obtain ⟨value, hvalue⟩ := Option.isSome_iff_exists.1 hsome
  obtain ⟨rest, hrest⟩ : ∃ rest, occurrence.pointer.toList = '#' :: '/' :: rest := by
    rw [Occurrence.pointer, SchemaRef.descend_ofName, Pointer.toList_descend]
    exact ⟨_, rfl⟩
  have hfollow : document.toJson.follow? (["components", "schemas"] ++
      occurrence.definition :: occurrence.segments) = some value := by
    rw [Json.follow?_append, document.follow?_toJson, Option.bind_some]
    exact Extraction.follow?_of_value? hvalue
  rw [Pointer.put?, hrest, Extraction.segments_pointer, ← replaceAt_toJson]
  exact Json.put?_of_follow? new h hfollow

theorem foldlM_put? {new : Json} (hnew : new.Ordered) {group : List Occurrence}
    (hseparate : Extraction.Separate group) (h : document.toJson.Ordered)
    (hsome : ∀ occurrence ∈ group, (occurrence.value? document.definitions).isSome) :
    (group.map Occurrence.pointer).foldlM (Pointer.put? new) document.toJson =
      some (document.withDefinitions (group.foldl (replace new) document.definitions)).toJson := by
  induction group generalizing document with
  | nil => rfl
  | cons first rest ih =>
      rw [List.forall_mem_cons] at hsome
      have hnext : (document.withDefinitions
          (replace new document.definitions first)).toJson.Ordered := by
        refine ordered_withDefinitions h ?_
        rw [Extraction.replace_entries]
        exact Extraction.ordered_replaceAt hnew
          (Json.ordered_entries.2 (ordered_toJson_iff.1 h).1) _
      rw [List.map_cons, List.foldlM_cons, put?_pointer new h hsome.1, Option.bind_eq_bind,
        Option.bind_some, ih (fun a ha b hb => hseparate a (.tail _ ha) b (.tail _ hb)) hnext]
      · rfl
      · intro occurrence hmem
        exact (Extraction.isSome_value?_replace (hseparate first List.mem_cons_self occurrence
          (.tail _ hmem)) new document.definitions).trans (hsome.2 occurrence hmem)

/-- Putting back a shape replaces the objects that it stands for and leaves all else as it is. -/
theorem putBack?_eq_some {name : String} {body : Json} {group : List Occurrence}
    (hdocument : document.toJson.Ordered)
    (hdefinitions : (Json.object definitions.entries).Ordered)
    (hbody : definitions.get? name = some body) (hseparate : Extraction.Separate group)
    (hsome : ∀ occurrence ∈ group, (occurrence.value? (definitions.erase name)).isSome) :
    (⟨name, group.map Occurrence.pointer⟩ : ExtractedShape).putBack?
        (document.withDefinitions definitions) =
      some (document.withDefinitions (group.foldl (replace body) (definitions.erase name))) := by
  have hput := foldlM_put? (Json.ordered_entries.1 hdefinitions name body hbody) hseparate
    (ordered_withDefinitions hdocument (Extraction.ordered_erase hdefinitions name)) hsome
  change (definitions.get? name).bind (fun body => ((group.map Occurrence.pointer).foldlM
    (Pointer.put? body) (document.withDefinitions (definitions.erase name)).toJson).bind
      fun root => (ofJson? root).toOption) = _
  rw [hbody, Option.bind_some, hput, Option.bind_some, ofJson?_toJson]
  rfl

end Document

namespace Extraction

/-- Whatever has the plain forms of the definitions gets, when the shapes are put back that have been
extracted so far, the plain forms of the definitions of the document. -/
def Restorable (document : Document) (state : State) : Prop :=
  ∀ definitions : NameMap Json, (Json.object definitions.entries).Ordered →
    plainForms definitions = plainForms state.definitions →
      ∃ restored, (document.withDefinitions definitions).putBack? state.extracted =
          some (document.withDefinitions restored) ∧
        plainForms restored = plainForms document.definitions

theorem Restorable.next {document : Document} {before next : State} {group : List Occurrence}
    {name : String} {body : Json} {limit : UInt64} {pinned : List String}
    (h : Restorable document before) (hdocument : document.toJson.Ordered)
    (hready : Ready limit pinned before.definitions group)
    (hnot : ¬(Json.object before.definitions.entries).Says SchemaRef.start)
    (htakes : TakesOut before group name body next) : Restorable document next := by
  intro definitions hordered hplain
  obtain ⟨hseparate, found, hfound, hsome, hbefore⟩ :=
    htakes.plainForms_putBack hready hnot hplain
  have hback := Document.putBack?_eq_some hdocument hordered hfound hseparate hsome
  obtain ⟨restored, hrestored, hrest⟩ := h _ (ordered_foldl_replace
    (Json.ordered_entries.1 hordered name found hfound) (ordered_erase hordered name) group) hbefore
  refine ⟨restored, ?_, hrest⟩
  rw [Document.putBack?, htakes.extracted, List.reverse_append, List.reverse_singleton,
    List.singleton_append, List.foldlM_cons, hback]
  exact hrestored

/-- No reference comes in that refers to the empty name. -/
theorem Accounts.not_said_start {pinned : List String} {start : NameMap Json} {state : State}
    (h : Accounts pinned start state) (hnot : ¬(Json.object start.entries).Says SchemaRef.start) :
    ¬(Json.object state.definitions.entries).Says SchemaRef.start := by
  intro hsaid
  rcases h.said _ hsaid with hold | ⟨name, hne, heq, _⟩
  · exact hnot hold
  · have hsplit := SchemaRef.split?_ofName hne
    have hnone : SchemaRef.split? SchemaRef.start = none := by decide +kernel
    rw [← heq, hnone] at hsplit
    cases hsplit

end Extraction

namespace Document

variable {document out : Document} {limit : UInt64} {extracted : List ExtractedShape}

open Extraction (Accounts Restorable plainForms)

/-- With the extracted shapes put back, the last one first, a document has the definitions that it
had, each with the key that it had, if nothing refers to the empty name. -/
theorem extractInline?_putBack (hordered : document.toJson.Ordered)
    (hstart : ∀ site ∈ document.sites, site.target ≠ SchemaRef.start)
    (h : document.extractInline? limit = .ok (out, extracted)) :
    ∃ back, out.putBack? extracted = some back ∧
      back.definitions.names = document.definitions.names ∧
      back.sections = document.sections ∧ back.rest = document.rest ∧
      ∀ name body, document.definitions.get? name = some body →
        ∃ restored, back.definitions.get? name = some restored ∧ ∀ maxDepth key,
          Key.ofDefinition maxDepth .structural name restored = .ok key ↔
            Key.ofDefinition maxDepth .structural name body = .ok key := by
  obtain ⟨fuel, state, hstate, rfl, rfl⟩ := extractInline?_eq_ok h
  have hnot : ¬(Json.object document.definitions.entries).Says SchemaRef.start := by
    intro hsaid
    obtain ⟨site, hsite, htarget⟩ := exists_site_iff.2 (said_of_definitions hsaid)
    exact hstart site hsite htarget
  obtain ⟨hfinal, _, hrestorable⟩ := Extraction.extraction_induction
    (p := fun state => Accounts (Extraction.deepReferences document) document.definitions state ∧
      Restorable document state)
    (fun _ _ _ _ _ hready htakes hbefore => ⟨hbefore.1.next hready htakes,
      hbefore.2.next hordered hready (hbefore.1.not_said_start hnot) htakes⟩) hstate
    (Json.ordered_entries.2 (ordered_toJson_iff.1 hordered).1)
    ⟨⟨fun _ => .inl, by simp⟩, fun definitions _ hplain => ⟨definitions, rfl, hplain⟩⟩
  obtain ⟨restored, hback, hplain⟩ := hrestorable state.definitions hfinal rfl
  refine ⟨_, hback, ?_, rfl, rfl, fun name body hbody => ?_⟩
  · have hnames := congrArg NameMap.names hplain
    rwa [plainForms, plainForms, NameMap.names_map, NameMap.names_map] at hnames
  · have hget := congrArg (NameMap.get? · name) hplain
    rw [Extraction.get?_plainForms, Extraction.get?_plainForms, hbody, Option.map_some] at hget
    obtain ⟨found, hfound, hsame⟩ := Option.map_eq_some_iff.1 hget
    exact ⟨found, hfound, fun maxDepth => Key.ofDefinition_congr hsame maxDepth name⟩

/-- Two definitions with an owner who has an address. Of the owners only the notes differ. -/
def households : Document :=
  let address : Json := .record [
    ("properties", .record [("city", .record [("type", .string "string")])]),
    ("type", .string "object")]
  let owner (note : String) : Json := .record [
    ("description", .string note),
    ("properties", .record [("address", address)]),
    ("type", .string "object")]
  ofSchemas [
    ("Home", .record [("properties", .record [("owner", owner "lives here")])]),
    ("Shop", .record [("properties", .record [("owner", owner "works here")])])]

set_option maxRecDepth 100000 in
/-- The addresses are taken out first, then the owners with references to the address in them. -/
theorem extractInline?_putBack_households : ∃ out extracted,
    households.toJson.Ordered ∧
    (∀ site ∈ households.sites, site.target ≠ SchemaRef.start) ∧
    households.extractInline? 64 = .ok (out, extracted) ∧
    extracted.map (·.name) = ["Address", "Owner"] ∧
    ∃ back, out.putBack? extracted = some back ∧
      back.definitions.names = households.definitions.names ∧
      back.sections = households.sections ∧ back.rest = households.rest ∧
      ∀ name body, households.definitions.get? name = some body →
        ∃ restored, back.definitions.get? name = some restored ∧ ∀ maxDepth key,
          Key.ofDefinition maxDepth .structural name restored = .ok key ↔
            Key.ofDefinition maxDepth .structural name body = .ok key := by
  obtain ⟨⟨out, extracted⟩, hrun, hnames⟩ : ∃ result,
      households.extractInline? 64 = .ok result ∧
        result.2.map (·.name) = ["Address", "Owner"] :=
    exists_ok_of_toOption (by decide +kernel)
  have hordered : households.toJson.Ordered := by
    refine ordered_ofSchemas ?_
    simp only [Json.record, Json.ordered_object, Json.ordered_string, Fields.Ascending,
      List.pairwise_cons, List.Pairwise.nil, List.forall_mem_cons, List.not_mem_nil, false_imp_iff,
      implies_true, and_true]
    decide
  have hstart : ∀ site ∈ households.sites, site.target ≠ SchemaRef.start := by decide +kernel
  exact ⟨out, extracted, hordered, hstart, hrun, hnames,
    extractInline?_putBack hordered hstart hrun⟩

end Document

end SchemaMerge
