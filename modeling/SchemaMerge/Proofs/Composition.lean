import SchemaMerge.Proofs.Rearranging
import SchemaMerge.Proofs.Tracking

/-!
Two rename maps, one after the other and as one. The second one is made for the document that the
first one leads to, and `RenameMap.thenMap` puts them together for the document that the first one
starts from. What the joined map makes of a text is what the two maps make of it in turn, but for
texts into which the first map writes a name that the second one does not find there
(`RenameMap.Loses`). Of the definitions it creates too few: none under a name that the first map
gives up, and it cannot copy one that the first map creates. It leads to the same document as the two
maps exactly when nothing of the kind occurs (`Document.repoint?_thenMap_iff`).
-/

namespace SchemaMerge

namespace Json

mutual

/-- The strings in a value, each with its place. -/
def texts (place : Place) : Json → List (Place × String)
  | .string text => [(place, text)]
  | .array items => textsItems place.item items
  | .object fields => textsFields place fields
  | _ => []

def textsItems (place : Place) : List Json → List (Place × String)
  | [] => []
  | item :: rest => texts place item ++ textsItems place rest

def textsFields (place : Place) : List (String × Json) → List (Place × String)
  | [] => []
  | (key, value) :: rest => texts (place.member key) value ++ textsFields place rest

end

theorem texts_array (place : Place) (items : List Json) :
    texts place (.array items) = items.flatMap (texts place.item) := by
  have h : ∀ items, textsItems place.item items = items.flatMap (texts place.item) := by
    intro items
    induction items with
    | nil => rfl
    | cons item rest ih => rw [textsItems, ih, List.flatMap_cons]
  rw [texts, h]

theorem texts_object (place : Place) (fields : List (String × Json)) :
    texts place (.object fields) =
      fields.flatMap fun field => texts (place.member field.1) field.2 := by
  rw [texts]
  induction fields with
  | nil => rfl
  | cons field rest ih => rw [textsFields, ih, List.flatMap_cons]

variable {f g : Place → String → String}

theorem retext_id (value : Json) (place : Place) : value.retext (fun _ text => text) place = value := by
  induction value using Json.induction generalizing place with
  | null => rfl
  | bool => rfl
  | number => rfl
  | string => rfl
  | array items ih =>
      rw [retext_array, List.map_congr_left fun item hitem => ih item hitem place.item, List.map_id']
  | object fields ih =>
      rw [retext_object, Fields.mapValues_eq_self fun field hfield => ih field hfield _]

theorem retext_retext (value : Json) (place : Place) :
    (value.retext f place).retext g place =
      value.retext (fun place text => g place (f place text)) place := by
  induction value using Json.induction generalizing place with
  | null => rfl
  | bool => rfl
  | number => rfl
  | string => rfl
  | array items ih =>
      simp only [retext_array, List.map_map, array.injEq]
      exact List.map_congr_left fun item hitem => ih item hitem place.item
  | object fields ih =>
      simp only [retext_object, Fields.mapValues_mapValues, object.injEq]
      exact Fields.mapValues_congr fun field hfield => ih field hfield (place.member field.1)

/-- Two changes of the strings in a value come to the same iff they do so for each string. -/
theorem retext_eq_retext_iff (value : Json) (place : Place) :
    value.retext f place = value.retext g place ↔
      ∀ said ∈ value.texts place, f said.1 said.2 = g said.1 said.2 := by
  induction value using Json.induction generalizing place with
  | null => simp [retext, texts]
  | bool => simp [retext, texts]
  | number => simp [retext, texts]
  | string => simp [retext, texts]
  | array items ih =>
      simp only [retext_array, texts_array, array.injEq, List.map_inj_left, List.mem_flatMap]
      constructor
      · rintro h said ⟨item, hitem, hsaid⟩
        exact (ih item hitem place.item).1 (h item hitem) said hsaid
      · exact fun h item hitem =>
          (ih item hitem place.item).2 fun said hsaid => h said ⟨item, hitem, hsaid⟩
  | object fields ih =>
      simp only [retext_object, texts_object, object.injEq, Fields.mapValues, List.map_inj_left,
        List.mem_flatMap, Prod.mk.injEq, true_and]
      constructor
      · rintro h said ⟨field, hfield, hsaid⟩
        exact (ih field hfield _).1 (h field hfield) said hsaid
      · exact fun h field hfield =>
          (ih field hfield _).2 fun said hsaid => h said ⟨field, hfield, hsaid⟩

end Json

namespace RenameMap

variable {first second : RenameMap}

/-- The first map writes a name into the text, and the second map does not find it there although it
has another name for that definition. -/
inductive Loses (first second : RenameMap) : Place → String → Prop where
  /-- A pointer with the empty name is not read as one into the definitions. -/
  | pointer {place : Place} {text name tail : String}
      (hplace : place = .reference ∨ place = .entry)
      (hsplit : SchemaRef.split? text = some (name, tail)) (hempty : first.get? name = some "")
      (hsecond : (second.get? "").isSome) : Loses first second place text
  /-- A bare name is replaced by one that is read as a pointer or an address. -/
  | bare {text canonical : String} (hbare : SchemaRef.isBareName text)
      (hfirst : first.get? text = some canonical) (hname : ¬SchemaRef.isBareName canonical)
      (hsecond : second.reference canonical ≠ second.target canonical) :
      Loses first second .entry text

/-- What the joined map says of a name that the first map replaces. -/
theorem get?_thenMap_of_first (hfresh : ∀ name, (first.get? name).isSome → second.get? name = none)
    {name canonical : String} (hname : first.get? name = some canonical) :
    (first.thenMap second).get? name = some (second.target canonical) := by
  rw [get?_thenMap, hfresh name (by rw [hname]; rfl), hname]
  rfl

theorem get?_thenMap_of_none {name : String} (hname : first.get? name = none) :
    (first.thenMap second).get? name = second.get? name := by
  rw [get?_thenMap, hname]
  exact Option.or_none

end RenameMap

namespace SchemaRef

theorem ofName_injective {a b : String} (h : ofName a = ofName b) : a = b := by
  have hchars := String.toList_inj.2 h
  simp only [ofName, String.toList_append, List.append_cancel_left_eq] at hchars
  have hescape := congrArg Pointer.unescape (String.toList_inj.1 hchars)
  rwa [Pointer.unescape_escape, Pointer.unescape_escape] at hescape

/-- A pointer with the empty name does not enter the definitions. -/
theorem split?_ofName_empty {tail : String} (h : ∀ c ∈ tail.toList.head?, c = '/') :
    split? (ofName "" ++ tail) = none := by
  have hempty : ofName "" = start := by decide +kernel
  rw [hempty, split?_start_append_eq_none_iff]
  rintro ⟨c, hc, hne⟩
  exact hne (h c hc)

end SchemaRef

namespace RenameMap

/-- What a map makes of a reference that has been written. It does not see the empty name. -/
theorem reference_written (map : RenameMap) {name tail : String}
    (htail : ∀ c ∈ tail.toList.head?, c = '/') :
    map.reference (SchemaRef.ofName name ++ tail) =
      SchemaRef.ofName (if name = "" then "" else map.target name) ++ tail := by
  by_cases hname : name = ""
  · subst hname
    rw [map.reference_of_split_eq_none (SchemaRef.split?_ofName_empty htail), if_pos rfl]
  · have hsplit := SchemaRef.split?_append hname htail
    rw [String.ofList_toList] at hsplit
    rw [reference_of_split hsplit, if_neg hname, target]
    cases map.get? name <;> rfl

variable {first second : RenameMap}

/-- The joined map replaces a bare name as the two maps do, unless the second one reads something
else in what the first one puts in its place. -/
theorem mappingText_thenMap_iff
    (hfresh : ∀ name, (first.get? name).isSome → second.get? name = none) {text : String}
    (hbare : SchemaRef.isBareName text) :
    second.mappingText (first.mappingText text) = (first.thenMap second).mappingText text ↔
      ¬∃ canonical, first.get? text = some canonical ∧ ¬SchemaRef.isBareName canonical ∧
        second.reference canonical ≠ second.target canonical := by
  have hjoined : (first.thenMap second).mappingText text = (first.thenMap second).target text :=
    if_pos hbare
  have hfirst : first.mappingText text = first.target text := if_pos hbare
  rw [hjoined, hfirst, target, target]
  cases hname : first.get? text with
  | none =>
      have hsecond : second.mappingText text = second.target text := if_pos hbare
      rw [get?_thenMap_of_none hname, Option.getD_none, hsecond]
      simp [target]
  | some canonical =>
      rw [get?_thenMap_of_first hfresh hname, Option.getD_some, Option.getD_some, mappingText]
      by_cases hcanonical : SchemaRef.isBareName canonical <;> simp [hcanonical]

section Texts

variable (hfresh : ∀ name, (first.get? name).isSome → second.get? name = none)
  (hmoved : ∀ name canonical, second.get? name = some canonical → canonical ≠ name)

include hfresh hmoved

/-- The joined map repoints a reference as the two maps do, unless the first one puts the empty name
into it and the second one renames what has that name. -/
theorem reference_thenMap_iff {text : String} :
    second.reference (first.reference text) = (first.thenMap second).reference text ↔
      ¬∃ name tail, SchemaRef.split? text = some (name, tail) ∧ first.get? name = some "" ∧
        (second.get? "").isSome := by
  cases hsplit : SchemaRef.split? text with
  | none =>
      rw [first.reference_of_split_eq_none hsplit, second.reference_of_split_eq_none hsplit,
        (first.thenMap second).reference_of_split_eq_none hsplit]
      simp
  | some entered =>
      obtain ⟨name, tail⟩ := entered
      have hentered : (∃ other rest, some (name, tail) = some (other, rest) ∧
          first.get? other = some "" ∧ (second.get? "").isSome) ↔
            first.get? name = some "" ∧ (second.get? "").isSome := by
        constructor
        · rintro ⟨_, _, heq, h⟩
          cases heq
          exact h
        · exact fun h => ⟨name, tail, rfl, h⟩
      rw [hentered, reference_of_split hsplit, reference_of_split hsplit]
      cases hname : first.get? name with
      | none =>
          rw [get?_thenMap_of_none hname]
          dsimp only
          rw [reference_of_split hsplit]
          simp
      | some canonical =>
          rw [get?_thenMap_of_first hfresh hname]
          dsimp only
          obtain ⟨_, _, _, _, htail⟩ := SchemaRef.exists_head_of_split? hsplit
          rw [second.reference_written htail]
          by_cases hcanonical : canonical = ""
          · subst hcanonical
            cases hsecond : second.get? "" with
            | none => simp [target, hsecond]
            | some other =>
                have hother : SchemaRef.ofName "" ≠ SchemaRef.ofName other := fun heq =>
                  hmoved "" other hsecond (SchemaRef.ofName_injective heq).symm
                have htarget : second.target "" = other := by rw [target, hsecond]; rfl
                rw [if_pos rfl, htarget]
                refine iff_of_false (fun heq => hother ?_) (by simp)
                have hchars := String.toList_inj.2 heq
                rw [String.toList_append, String.toList_append] at hchars
                exact String.toList_inj.1 (List.append_cancel_right hchars)
          · simp [hcanonical]

/-- What the joined map makes of a string is what the two maps make of it, unless it loses it. -/
theorem textAt_thenMap_iff {place : Place} {text : String} :
    second.textAt place (first.textAt place text) = (first.thenMap second).textAt place text ↔
      ¬Loses first second place text := by
  have hpointer : (∃ name tail, SchemaRef.split? text = some (name, tail) ∧
      first.get? name = some "" ∧ (second.get? "").isSome) →
        (place = .reference ∨ place = .entry) → Loses first second place text :=
    fun ⟨_, _, hsplit, hempty, hsecond⟩ hplace => .pointer hplace hsplit hempty hsecond
  by_cases hreference : place = .reference
  · subst hreference
    refine (reference_thenMap_iff hfresh hmoved).trans (not_congr ⟨fun h => hpointer h (.inl rfl), ?_⟩)
    rintro (⟨_, hsplit, hempty, hsecond⟩ | _)
    exact ⟨_, _, hsplit, hempty, hsecond⟩
  by_cases hentry : place = .entry
  · subst hentry
    by_cases hbare : SchemaRef.isBareName text
    · refine (mappingText_thenMap_iff hfresh hbare).trans (not_congr ⟨?_, ?_⟩)
      · rintro ⟨canonical, hfirst, hname, hsecond⟩
        exact .bare hbare hfirst hname hsecond
      · rintro (⟨_, hsplit, _, _⟩ | ⟨_, hfirst, hname, hsecond⟩)
        · rw [SchemaRef.split?_of_isBareName hbare] at hsplit
          cases hsplit
        · exact ⟨_, hfirst, hname, hsecond⟩
    · have hwritten : ∀ map : RenameMap, map.mappingText text = map.reference text :=
        fun map => if_neg hbare
      have hread : second.mappingText (first.reference text) =
          second.reference (first.reference text) :=
        if_neg (first.not_isBareName_reference hbare)
      simp only [textAt, hwritten, hread]
      refine (reference_thenMap_iff hfresh hmoved).trans
        (not_congr ⟨fun h => hpointer h (.inr rfl), ?_⟩)
      rintro (⟨_, hsplit, hempty, hsecond⟩ | ⟨hname, _, _, _⟩)
      · exact ⟨_, _, hsplit, hempty, hsecond⟩
      · exact absurd hname hbare
  · have hother : ∀ map : RenameMap, map.textAt place text = text := by
      intro map
      cases place <;> simp_all [textAt]
    rw [hother, hother, hother]
    refine iff_of_true rfl ?_
    rintro (⟨hplace, _, _, _⟩ | _)
    · exact hplace.elim hreference hentry
    · exact hentry rfl

end Texts

end RenameMap

namespace Document

variable {document middle final : Document} {first second map : RenameMap}

theorem toJson_injective {a b : Document} (h : a.toJson = b.toJson) : a = b := by
  have hread := congrArg ofJson? h
  rw [ofJson?_toJson, ofJson?_toJson] at hread
  exact Except.ok.inj hread

/-- Without definitions that go, repointing changes the strings of a document and nothing else. -/
theorem toJson_repointed_of_stays
    (h : ∀ name, (map.get? name).isSome → document.definitions.get? name = none) :
    (document.repointed map document.definitions).toJson =
      document.toJson.retext map.textAt .root := by
  have hsame : document.rearranged map document.definitions = document := by
    refine Document.ext (NameMap.ext_get? fun name => ?_) rfl rfl
    refine (map.get?_withoutAliases document.definitions name).trans ?_
    split
    case isTrue hname => exact (h name hname).symm
    case isFalse => rfl
  rw [toJson_repointed, hsame]

/-- An empty map changes nothing. -/
theorem repointed_of_isEmpty (h : map.isEmpty) :
    map.withCreated? document.definitions = .ok document.definitions ∧
      document.repointed map document.definitions = document := by
  rw [RenameMap.isEmpty, Bool.and_eq_true, NameMap.isEmpty, NameMap.isEmpty, List.isEmpty_iff,
    List.isEmpty_iff] at h
  have hnone : ∀ name, map.get? name = none := by
    intro name
    rw [RenameMap.get?, NameMap.get?, h.1]
    rfl
  refine ⟨by rw [RenameMap.withCreated?, h.2]; rfl, toJson_injective ?_⟩
  rw [toJson_repointed_of_stays fun name hname => by rw [hnone] at hname; cases hname]
  have hreference := RenameMap.reference_eq_self hnone
  have htext : map.textAt = fun _ text => text := by
    funext place text
    cases place <;>
      simp [RenameMap.textAt, RenameMap.mappingText, hreference, RenameMap.target, hnone]
  rw [htext, Json.retext_id]

/-- A map is applied iff the definitions that it needs can be created and no text of a reference
that points at nothing comes in. -/
theorem repoint?_eq_ok_iff : document.repoint? map = .ok final ↔
    ∃ created, map.withCreated? document.definitions = .ok created ∧
      final = document.repointed map created ∧
      ∀ site ∈ final.danglingSites, site.target ∈ document.danglingSites.map (·.target) := by
  cases hmap : map.isEmpty with
  | true =>
      obtain ⟨hcreated, hsame⟩ : map.withCreated? document.definitions = .ok document.definitions ∧
          document.repointed map document.definitions = document := repointed_of_isEmpty hmap
      rw [repoint?, if_pos hmap, pure_eq_ok]
      constructor
      · rintro rfl
        exact ⟨_, hcreated, hsame.symm, fun site hsite => List.mem_map_of_mem hsite⟩
      · rintro ⟨created, hcreated', rfl, _⟩
        rw [hcreated] at hcreated'
        cases hcreated'
        exact hsame.symm
  | false =>
      constructor
      · exact repoint?_eq_ok hmap
      · rintro ⟨created, hcreated, rfl, hforgiven⟩
        exact repoint?_ok hmap hcreated hforgiven

end Document

namespace RenameMap

/-- What a map leaves of the definitions. -/
theorem Fits.get?_of_repoint? {map : RenameMap} {document out : Document} (h : map.Fits document)
    (hout : document.repoint? map = .ok out) (name : String) :
    out.definitions.get? name =
      if (map.get? name).isSome then none
      else (document.definitions.get? (map.source name)).map map.schema := by
  obtain ⟨created, hcreated, rfl, _⟩ := Document.repoint?_eq_ok_iff.1 hout
  rw [Document.get?_repointed_definitions, get?_withCreated? h.created hcreated]
  rfl

/-- What is copied is a definition that is there or one that is created. -/
theorem source_of_withCreated? {map : RenameMap} {definitions created : NameMap Json}
    (h : map.withCreated? definitions = .ok created) {name origin : String}
    (horigin : map.materialized.get? name = some origin) :
    definitions.contains origin ∨ map.materialized.contains origin := by
  have hinv := foldlM_invariant (fun done state =>
    (∀ other, state.contains other → definitions.contains other ∨ other ∈ Fields.keys done) ∧
      ∀ entry ∈ done, definitions.contains entry.2 ∨ entry.2 ∈ Fields.keys done)
    ?_ ⟨fun other hother => .inl hother, by simp⟩ h
  · exact (hinv.2 _ (NameMap.get?_eq_some_iff.1 horigin)).imp_right NameMap.mem_names_iff.1
  rintro done ⟨canonical, source⟩ rest state next - ⟨hstate, hdone⟩ hnext
  have hkeys : Fields.keys (done ++ [(canonical, source)]) = Fields.keys done ++ [canonical] := by
    simp [Fields.keys]
  dsimp only at hnext
  split at hnext
  case h_2 => cases hnext
  case h_1 body hfound =>
    cases hnext
    rw [hkeys]
    simp only [List.mem_append, List.mem_singleton]
    constructor
    · intro other hother
      rw [NameMap.contains, NameMap.get?_insert] at hother
      split at hother
      case isTrue hsame => exact .inr (.inr hsame)
      case isFalse => exact (hstate other hother).imp_right .inl
    · rintro entry (hentry | rfl)
      · exact (hdone entry hentry).imp_right .inl
      · exact (hstate source (NameMap.contains_iff.2 ⟨body, hfound⟩)).imp_right .inl

/-- The second map is made for the document that the first one leads to. It replaces no name by
itself, and what it copies goes. -/
structure Continues (second first : RenameMap) (document middle : Document) : Prop where
  fits_first : first.Fits document
  applied : document.repoint? first = .ok middle
  fits_second : second.Fits middle
  moved : ∀ name canonical, second.get? name = some canonical → canonical ≠ name
  copied : ∀ name source, second.materialized.get? name = some source → (second.get? source).isSome

/-- The map of a plan for the document that another plan leads to continues the map of that one. -/
theorem continues_of_plans {limit : UInt64} {tier : MergeTier} {keepSeparate : List (List String)}
    {table : NamingTable} {policy : ConflictPolicy} {document middle : Document}
    {groups later : List MergeGroup} {plan next : Plan}
    (hgroups : classifyForMerge limit tier keepSeparate document.definitions = .ok groups)
    (hplan : Plan.ofGroups? groups document table policy = .ok plan)
    (hmiddle : document.repoint? plan.renameMap = .ok middle)
    (hlater : classifyForMerge limit tier keepSeparate middle.definitions = .ok later)
    (hnext : Plan.ofGroups? later middle table policy = .ok next) :
    next.renameMap.Continues plan.renameMap document middle := by
  have hclassified := Classified.of_classifyForMerge hlater
  obtain ⟨allotted, hallotted⟩ := Plan.exists_allotted hclassified hnext
  refine ⟨(Made.planned (.of_classifyForMerge hgroups) hplan).fits, hmiddle,
    (Made.planned hclassified hnext).fits, fun name canonical hname => ?_,
    fun name source hsource => ?_⟩
  · obtain ⟨_, _, _, hne⟩ := (hallotted.aliases name canonical).1 hname
    exact hne.symm
  · obtain ⟨group, hpair, hforeign, rfl⟩ := (hallotted.materialized name source).1 hsource
    have hfirst : next.renameMap.get? group.first = some name :=
      (hallotted.aliases group.first name).2
        ⟨group, hpair, group.first_mem, fun heq => hforeign (heq ▸ group.first_mem)⟩
    rw [hfirst]
    rfl

/-- The second map creates nothing under a name that the first one gives up, and it copies nothing
that the first one creates. -/
structure CreatesApart (first second : RenameMap) : Prop where
  unclaimed : ∀ name, second.materialized.contains name → first.get? name = none
  original : ∀ name source, second.materialized.get? name = some source →
    first.materialized.get? source = none

theorem get?_materialized_thenMap (first second : RenameMap) (name : String) :
    (first.thenMap second).materialized.get? name =
      if ((first.thenMap second).get? name).isSome then none
      else (second.materialized.get? name).or (first.materialized.get? name) := by
  have hfiltered : (first.thenMap second).materialized =
      (first.materialized.override second.materialized).filter fun name _ =>
        !(first.thenMap second).aliases.contains name := rfl
  rw [hfiltered, NameMap.get?_filter, NameMap.get?_override]
  have hcontains : (first.thenMap second).aliases.contains name =
      ((first.thenMap second).get? name).isSome := rfl
  rw [hcontains]
  cases (second.materialized.get? name).or (first.materialized.get? name) with
  | none => simp
  | some source => cases ((first.thenMap second).get? name).isSome <;> simp [Option.filter]

namespace Continues

variable {first second : RenameMap} {document middle final : Document}
  (h : second.Continues first document middle)

include h

theorem get?_middle (name : String) : middle.definitions.get? name =
    if (first.get? name).isSome then none
    else (document.definitions.get? (first.source name)).map first.schema :=
  h.fits_first.get?_of_repoint? h.applied name

/-- A name that the first map gives up is none that the second one replaces. -/
theorem get?_eq_none {name : String} (hname : (first.get? name).isSome) :
    second.get? name = none := by
  rw [Option.eq_none_iff_forall_ne_some]
  intro canonical hcanonical
  have hold := h.fits_second.renamed name canonical hcanonical
  rw [NameMap.contains, h.get?_middle, if_pos hname] at hold
  cases hold

/-- What the second map copies has not been given up by the first one. -/
theorem get?_source {name source : String} (hsource : second.materialized.get? name = some source) :
    first.get? source = none := by
  have hold := (h.fits_second.created name source hsource).2
  rw [NameMap.contains, h.get?_middle] at hold
  split at hold
  case isTrue => cases hold
  case isFalse hnone => simpa using hnone

/-- What the second map creates under a name that the first one keeps is new to the first document.
-/
theorem not_contains_created {name origin : String} (hname : first.get? name = none)
    (horigin : second.materialized.get? name = some origin) :
    document.definitions.contains name = false := by
  have hnew := (h.fits_second.created name origin horigin).1
  by_contra hold
  rw [Bool.not_eq_false, NameMap.contains_iff] at hold
  obtain ⟨body, hbody⟩ := hold
  have hcopied := h.fits_first.get?_materialized_of_contains (NameMap.contains_iff.2 ⟨body, hbody⟩)
  rw [NameMap.contains, h.get?_middle, hname, RenameMap.source, hcopied] at hnew
  simp [hbody] at hnew

/-- The joined map creates definitions that the first document does not have, from those that it
has. -/
theorem created_thenMap (hapart : CreatesApart first second) (name origin : String)
    (horigin : (first.thenMap second).materialized.get? name = some origin) :
    document.definitions.contains name = false ∧ document.definitions.contains origin := by
  rw [get?_materialized_thenMap] at horigin
  split at horigin
  case isTrue => cases horigin
  case isFalse hkept =>
    cases hsecond : second.materialized.get? name with
    | none =>
        rw [hsecond, Option.none_or] at horigin
        exact h.fits_first.created name origin horigin
    | some other =>
        rw [hsecond, Option.some_or, Option.some.injEq] at horigin
        subst horigin
        have hname := hapart.unclaimed name (NameMap.contains_iff.2 ⟨_, hsecond⟩)
        refine ⟨h.not_contains_created hname hsecond, ?_⟩
        have hold := (h.fits_second.created name other hsecond).2
        rw [NameMap.contains, h.get?_middle, h.get?_source hsecond, RenameMap.source,
          hapart.original name other hsecond] at hold
        simpa [NameMap.contains] using hold

/-- What the two maps leave of the definitions, as a part of what the joined map does. -/
theorem get?_final (hapart : CreatesApart first second) (hfinal : middle.repoint? second = .ok final)
    (name : String) : final.definitions.get? name =
      ((if ((first.thenMap second).get? name).isSome then none
        else document.definitions.get? ((first.thenMap second).source name)).map first.schema).map
          second.schema := by
  rw [h.fits_second.get?_of_repoint? hfinal, h.get?_middle, get?_thenMap, RenameMap.source,
    RenameMap.source, RenameMap.source, get?_materialized_thenMap, get?_thenMap]
  cases hsecond : second.get? name with
  | some => simp
  | none =>
      cases horigin : second.materialized.get? name with
      | some origin =>
          have hname := hapart.unclaimed name (NameMap.contains_iff.2 ⟨origin, horigin⟩)
          simp [hname, h.get?_source horigin, hapart.original name origin horigin]
      | none =>
          cases hname : first.get? name <;> simp [hname]

/-- The two maps change the strings of what the joined map leaves, one after the other. -/
theorem toJson_final (hapart : CreatesApart first second)
    (hfinal : middle.repoint? second = .ok final) {created : NameMap Json}
    (hcreated : (first.thenMap second).withCreated? document.definitions = .ok created) :
    final.toJson = (document.rearranged (first.thenMap second) created).toJson.retext
      (fun place text => second.textAt place (first.textAt place text)) .root := by
  let left := document.rearranged (first.thenMap second) created
  let once := left.repointed first left.definitions
  have hleft : ∀ name, left.definitions.get? name =
      if ((first.thenMap second).get? name).isSome then none
      else document.definitions.get? ((first.thenMap second).source name) := by
    intro name
    refine (get?_withoutAliases _ _ name).trans ?_
    rw [get?_withCreated? (h.created_thenMap hapart) hcreated]
    rfl
  have hfirst : ∀ name, (first.get? name).isSome → left.definitions.get? name = none := by
    intro name hname
    have hgone : ((first.thenMap second).get? name).isSome := by
      rw [get?_thenMap, h.get?_eq_none hname]
      simpa using hname
    rw [hleft, if_pos hgone]
  have hsecond : ∀ name, (second.get? name).isSome → left.definitions.get? name = none := by
    intro name hname
    have hgone : ((first.thenMap second).get? name).isSome := by
      rw [get?_thenMap, Option.isSome_or, hname, Bool.true_or]
    rw [hleft, if_pos hgone]
  have honce : ∀ name, once.definitions.get? name =
      (left.definitions.get? name).map first.schema := by
    intro name
    rw [Document.get?_repointed_definitions]
    split
    case isTrue hname => rw [hfirst name hname, Option.map_none]
    case isFalse => rfl
  have hsecond_once : ∀ name, (second.get? name).isSome → once.definitions.get? name = none := by
    intro name hname
    rw [honce, hsecond name hname, Option.map_none]
  have hsame : final = once.repointed second once.definitions := by
    obtain ⟨_, _, hmiddle, _⟩ := Document.repoint?_eq_ok_iff.1 h.applied
    obtain ⟨_, _, hlast, _⟩ := Document.repoint?_eq_ok_iff.1 hfinal
    refine Document.ext (NameMap.ext_get? fun name => ?_) ?_ ?_
    · rw [h.get?_final hapart hfinal, ← hleft, Document.get?_repointed_definitions, honce]
      split
      case isTrue hname => rw [hsecond name hname, Option.map_none, Option.map_none]
      case isFalse => rfl
    · rw [hlast, hmiddle]
      rfl
    · rw [hlast, hmiddle]
      rfl
  rw [hsame, Document.toJson_repointed_of_stays hsecond_once,
    Document.toJson_repointed_of_stays hfirst, Json.retext_retext]

/-- If the joined map leads where the two maps lead, the second one creates apart from the first. -/
theorem createsApart_of_repoint? (hfinal : middle.repoint? second = .ok final)
    (hjoined : document.repoint? (first.thenMap second) = .ok final) :
    CreatesApart first second := by
  obtain ⟨created, hcreated, hsame, _⟩ := Document.repoint?_eq_ok_iff.1 hjoined
  have hunclaimed : ∀ name, second.materialized.contains name → first.get? name = none := by
    intro name hname
    obtain ⟨origin, horigin⟩ := NameMap.contains_iff.1 hname
    by_contra hgiven
    have hgiven : (first.get? name).isSome := Option.isSome_iff_ne_none.2 hgiven
    have hgone : final.definitions.get? name = none := by
      rw [hsame, Document.get?_repointed_definitions]
      refine if_pos ?_
      have hgone : ((first.thenMap second).get? name).isSome := by
        rw [get?_thenMap, h.get?_eq_none hgiven]
        simpa using hgiven
      exact hgone
    obtain ⟨body, hbody⟩ := NameMap.contains_iff.1 (h.fits_second.created name origin horigin).2
    rw [h.fits_second.get?_of_repoint? hfinal, h.get?_eq_none hgiven, RenameMap.source, horigin,
      Option.getD_some, hbody] at hgone
    cases hgone
  refine ⟨hunclaimed, fun name origin horigin => ?_⟩
  have hreplaced : ∀ other, (second.get? other).isSome →
      ((first.thenMap second).get? other).isSome := by
    intro other hother
    rw [get?_thenMap, Option.isSome_or, hother, Bool.true_or]
  have hkept : (first.thenMap second).get? name = none := by
    rw [get?_thenMap, hunclaimed name (NameMap.contains_iff.2 ⟨origin, horigin⟩)]
    cases hname : second.get? name with
    | none => rfl
    | some canonical =>
        have hold := h.fits_second.renamed name canonical hname
        rw [(h.fits_second.created name origin horigin).1] at hold
        cases hold
  have hcopied : (first.thenMap second).materialized.get? name = some origin := by
    rw [get?_materialized_thenMap, hkept, horigin]
    rfl
  by_contra hcreated_first
  obtain ⟨older, holder⟩ := Option.ne_none_iff_exists'.1 hcreated_first
  rcases source_of_withCreated? hcreated hcopied with hold | hnew
  · rw [(h.fits_first.created origin older holder).1] at hold
    cases hold
  · rw [NameMap.contains, get?_materialized_thenMap,
      if_pos (hreplaced origin (h.copied name origin horigin))] at hnew
    cases hnew

end Continues

end RenameMap

namespace Document

variable {limit : UInt64} {tier : MergeTier} {keepSeparate : List (List String)}
  {table : NamingTable} {policy : ConflictPolicy} {document middle final : Document}
  {groups later : List MergeGroup} {plan next : Plan}

/-- The joined map of two plans, the second one for the document that the first one leads to, leads
to the document of both iff the second one creates apart from the first and no text is lost on the
way. -/
theorem repoint?_thenMap_iff
    (hgroups : classifyForMerge limit tier keepSeparate document.definitions = .ok groups)
    (hplan : Plan.ofGroups? groups document table policy = .ok plan)
    (hmiddle : document.repoint? plan.renameMap = .ok middle)
    (hlater : classifyForMerge limit tier keepSeparate middle.definitions = .ok later)
    (hnext : Plan.ofGroups? later middle table policy = .ok next)
    (hfinal : middle.repoint? next.renameMap = .ok final) :
    document.repoint? (plan.renameMap.thenMap next.renameMap) = .ok final ↔
      plan.renameMap.CreatesApart next.renameMap ∧
        ∀ created, (plan.renameMap.thenMap next.renameMap).withCreated? document.definitions =
          .ok created →
          ∀ said ∈ (document.rearranged (plan.renameMap.thenMap next.renameMap)
            created).toJson.texts .root, ¬plan.renameMap.Loses next.renameMap said.1 said.2 := by
  have h := RenameMap.continues_of_plans hgroups hplan hmiddle hlater hnext
  have htexts : ∀ created,
      (plan.renameMap.thenMap next.renameMap).withCreated? document.definitions = .ok created →
      plan.renameMap.CreatesApart next.renameMap →
      (final = document.repointed (plan.renameMap.thenMap next.renameMap) created ↔
        ∀ said ∈ (document.rearranged (plan.renameMap.thenMap next.renameMap)
          created).toJson.texts .root, ¬plan.renameMap.Loses next.renameMap said.1 said.2) := by
    intro created hcreated hapart
    have hjson := h.toJson_final hapart hfinal hcreated
    constructor
    · intro hsame
      rw [hsame, toJson_repointed, Json.retext_eq_retext_iff] at hjson
      intro said hsaid
      exact (RenameMap.textAt_thenMap_iff (fun _ => h.get?_eq_none) h.moved).1
        (hjson said hsaid).symm
    · intro hkept
      refine toJson_injective ?_
      rw [hjson, toJson_repointed, Json.retext_eq_retext_iff]
      exact fun said hsaid => (RenameMap.textAt_thenMap_iff (fun _ => h.get?_eq_none) h.moved).2
        (hkept said hsaid)
  constructor
  · intro hjoined
    have hapart := h.createsApart_of_repoint? hfinal hjoined
    refine ⟨hapart, fun created hcreated => (htexts created hcreated hapart).1 ?_⟩
    obtain ⟨other, hother, hsame, _⟩ := repoint?_eq_ok_iff.1 hjoined
    rw [hcreated] at hother
    cases hother
    exact hsame
  · rintro ⟨hapart, hkept⟩
    obtain ⟨created, hcreated⟩ := RenameMap.exists_withCreated? fun name origin horigin =>
      (h.created_thenMap hapart name origin horigin).2
    refine repoint?_eq_ok_iff.2 ⟨created, hcreated,
      (htexts created hcreated hapart).2 (hkept created hcreated), fun site hsite => ?_⟩
    obtain ⟨_, _, _, hsecond⟩ := repoint?_eq_ok_iff.1 hfinal
    obtain ⟨_, _, _, hfirst⟩ := repoint?_eq_ok_iff.1 hmiddle
    obtain ⟨between, hbetween, htarget⟩ := List.mem_map.1 (hsecond site hsite)
    rw [← htarget]
    exact hfirst between hbetween

/-- `A` and `B` are alike as soon as `U` and `V` have become one. -/
def staged : Document :=
  ofSchemas [
    ("A", .record [("allOf", .array [.refTo "#/components/schemas/U"])]),
    ("B", .record [("allOf", .array [.refTo "#/components/schemas/V"])]),
    ("U", .record [("type", .string "string")]),
    ("V", .record [("type", .string "string")])]

set_option maxRecDepth 100000 in
theorem repoint?_thenMap_iff_staged : ∃ groups plan middle later next final,
    classifyForMerge 64 .structural [] staged.definitions = .ok groups ∧
    Plan.ofGroups? groups staged Naming.conventions .suffix = .ok plan ∧
    staged.repoint? plan.renameMap = .ok middle ∧
    classifyForMerge 64 .structural [] middle.definitions = .ok later ∧
    Plan.ofGroups? later middle Naming.conventions .suffix = .ok next ∧
    middle.repoint? next.renameMap = .ok final ∧
    (plan.renameMap.thenMap next.renameMap).aliases =
      .ofList [("B", "A"), ("V", "U")] ∧
    (staged.repoint? (plan.renameMap.thenMap next.renameMap) = .ok final ↔
      plan.renameMap.CreatesApart next.renameMap ∧
        ∀ created, (plan.renameMap.thenMap next.renameMap).withCreated? staged.definitions =
          .ok created →
          ∀ said ∈ (staged.rearranged (plan.renameMap.thenMap next.renameMap)
            created).toJson.texts .root, ¬plan.renameMap.Loses next.renameMap said.1 said.2) := by
  have hrun : (do
      let groups ← (classifyForMerge 64 .structural [] staged.definitions).toOption
      let plan ← (Plan.ofGroups? groups staged Naming.conventions .suffix).toOption
      let middle ← (staged.repoint? plan.renameMap).toOption
      let later ← (classifyForMerge 64 .structural [] middle.definitions).toOption
      let next ← (Plan.ofGroups? later middle Naming.conventions .suffix).toOption
      let _ ← (middle.repoint? next.renameMap).toOption
      return (plan.renameMap.thenMap next.renameMap).aliases) =
        some (.ofList [("B", "A"), ("V", "U")]) := by
    decide +kernel
  obtain ⟨groups, hgroups, hrun⟩ := exists_ok_of_bind hrun
  obtain ⟨plan, hplan, hrun⟩ := exists_ok_of_bind hrun
  obtain ⟨middle, hmiddle, hrun⟩ := exists_ok_of_bind hrun
  obtain ⟨later, hlater, hrun⟩ := exists_ok_of_bind hrun
  obtain ⟨next, hnext, hrun⟩ := exists_ok_of_bind hrun
  obtain ⟨final, hfinal, hrun⟩ := exists_ok_of_bind hrun
  exact ⟨groups, plan, middle, later, next, final, hgroups, hplan, hmiddle, hlater, hnext, hfinal,
    Option.some.inj hrun, repoint?_thenMap_iff hgroups hplan hmiddle hlater hnext hfinal⟩

/-- The first pass makes `M` of `A` and `B`, and `N` is like it then. -/
def regrouped : Document :=
  ofSchemas [
    ("A", .record [("allOf", .array [.refTo "#/components/schemas/U"])]),
    ("B", .record [("allOf", .array [.refTo "#/components/schemas/U"])]),
    ("N", .record [("allOf", .array [.refTo "#/components/schemas/V"])]),
    ("U", .record [("type", .string "string")]),
    ("V", .record [("type", .string "string")])]

/-- What `A` and `B` become gets a new name once more. -/
def regrouping : List RuleConfig :=
  [⟨"^[AB]$", "M"⟩, ⟨"^[MN]$", "Z"⟩]

set_option maxRecDepth 100000 in
/-- The joined map copies `M`, which neither the first document nor the map itself has. -/
theorem repoint?_thenMap_regrouped : ∃ table groups plan middle later next final,
    Naming.table? regrouping = .ok table ∧
    classifyForMerge 64 .structural [] regrouped.definitions = .ok groups ∧
    Plan.ofGroups? groups regrouped table .suffix = .ok plan ∧
    regrouped.repoint? plan.renameMap = .ok middle ∧
    classifyForMerge 64 .structural [] middle.definitions = .ok later ∧
    Plan.ofGroups? later middle table .suffix = .ok next ∧
    middle.repoint? next.renameMap = .ok final ∧
    final.definitions.names = ["U", "Z"] ∧
    regrouped.repoint? (plan.renameMap.thenMap next.renameMap) =
      .error (.missingSource "Z" "M") := by
  have hrun : (do
      let table ← (Naming.table? regrouping).toOption
      let groups ← (classifyForMerge 64 .structural [] regrouped.definitions).toOption
      let plan ← (Plan.ofGroups? groups regrouped table .suffix).toOption
      let middle ← (regrouped.repoint? plan.renameMap).toOption
      let later ← (classifyForMerge 64 .structural [] middle.definitions).toOption
      let next ← (Plan.ofGroups? later middle table .suffix).toOption
      let final ← (middle.repoint? next.renameMap).toOption
      return (final.definitions.names,
        (regrouped.repoint? (plan.renameMap.thenMap next.renameMap)).map fun _ => ())) =
          some (["U", "Z"], .error (.missingSource "Z" "M")) := by
    decide +kernel
  obtain ⟨table, htable, hrun⟩ := exists_ok_of_bind hrun
  obtain ⟨groups, hgroups, hrun⟩ := exists_ok_of_bind hrun
  obtain ⟨plan, hplan, hrun⟩ := exists_ok_of_bind hrun
  obtain ⟨middle, hmiddle, hrun⟩ := exists_ok_of_bind hrun
  obtain ⟨later, hlater, hrun⟩ := exists_ok_of_bind hrun
  obtain ⟨next, hnext, hrun⟩ := exists_ok_of_bind hrun
  obtain ⟨final, hfinal, hrun⟩ := exists_ok_of_bind hrun
  obtain ⟨hnames, hjoined⟩ := Prod.mk.inj (Option.some.inj hrun)
  exact ⟨table, groups, plan, middle, later, next, final, htable, hgroups, hplan, hmiddle, hlater,
    hnext, hfinal, hnames, eq_error_of_map hjoined⟩

end Document

end SchemaMerge
