import SchemaMerge.Proofs.AlikeShapes
import SchemaMerge.Proofs.Passes

/-!
Equal keys and equal shapes. The normal form of a definition writes `Key.selfMark` for a reference
of the definition to itself. So two definitions have one key iff they are alike once that mark
stands for such references (`Key.content_eq_iff_alike`). With any other mark in its place this may
fail: a reference of the one that says `Key.selfMark` literally then has nothing to match in the
other (`Schema.Alike.refers_iff`).
-/

namespace SchemaMerge

open Key (normalField normalFields keeps selfMark)

namespace Schema

variable {tier : MergeTier} {role : Role}

/-- Puts a mark in the place of a reference. -/
def markField (mark self keyword : String) (value : Json) : Json :=
  match value with
  | .string text => if keyword = "$ref" ∧ text = self then .string mark else value
  | _ => value

/-- A value with a mark in the place of each `$ref` of a schema in it that says `self`. -/
def marked (mark self : String) (role : Role) (value : Json) : Json :=
  edit (Fields.mapValues (markField mark self)) role value

theorem markField_string (mark self keyword text : String) :
    markField mark self keyword (.string text) =
      .string (if keyword = "$ref" ∧ text = self then mark else text) := by
  rw [markField]
  split <;> rfl

theorem isLocal_markField (mark self : String) : IsLocal (markField mark self) := by
  intro keyword
  by_cases hkeyword : keyword = "$ref"
  · right
    intro value
    cases value <;> simp [roleUnder, hkeyword] <;> decide
  · left
    intro value
    cases value with
    | string text => rw [markField_string, if_neg fun h => hkeyword h.1]
    | _ => rfl

theorem unified_markField (mark self keyword : String) (value : Json) :
    (markField mark self keyword value).unified = markField mark self keyword value.unified := by
  cases value with
  | string text =>
      have hunified : (Json.string text).unified = .string text := rfl
      rw [hunified, markField_string]
      rfl
  | _ => rfl

/-- The normal form of what stands under a keyword, after references have been marked. -/
def markedField (tier : MergeTier) (mark self keyword : String) (value : Json) : Json :=
  normalField tier selfMark keyword (markField mark self keyword value)

theorem normalized_marked (mark self : String) (value : Json) :
    normalized tier role (marked mark self role value) =
      edit (selecting (keeps tier) (markedField tier mark self)) role value := by
  have hfields : (fun fields => normalFields tier selfMark
      (Fields.mapValues (markField mark self) fields)) =
        selecting (keeps tier) (markedField tier mark self) := by
    funext fields
    rw [normalFields, Fields.filter_mapValues, Fields.mapValues_mapValues]
    rfl
  rw [normalized, marked, edit_edit (isLocal_markField mark self), hfields]

/-- The normal form of a definition is that of its body with marked references to itself. -/
theorem normalForm_eq_normalized (name : String) (schema : Json) :
    Key.normalForm tier name schema =
      normalized tier .schema (marked selfMark (SchemaRef.ofName name) .schema schema) := by
  rw [Key.normalForm_eq_edit, normalized_marked]
  refine congrArg (fun fields => edit fields .schema schema) (funext fun fields => ?_)
  refine Fields.mapValues_congr fun field _ => ?_
  rw [markedField]
  cases field.2 with
  | string text =>
      rw [markField_string, Key.normalField_selfMark_string, normalField]
      split <;> rfl
  | _ => rfl

theorem unified_markedFields (mark self : String) (fields : List (String × Json)) :
    Fields.mapValues (fun _ => Json.unified)
      (selecting (keeps tier) (markedField tier mark self) fields) =
        selecting (keeps tier) (markedField tier mark self)
          (Fields.mapValues (fun _ => Json.unified) fields) := by
  rw [selecting, selecting, Fields.filter_mapValues, Fields.mapValues_mapValues,
    Fields.mapValues_mapValues]
  refine Fields.mapValues_congr fun field _ => ?_
  rw [markedField, markedField, Key.unified_normalField, unified_markField]

/-- References may be marked before a value is brought into the normal form or after. -/
theorem marked_absorbs (mark self : String) (value : Json) :
    edit (selecting (keeps tier) (markedField tier mark self)) role
      (normalized tier role value.unified) =
        edit (selecting (keeps tier) (markedField tier mark self)) role value.unified := by
  have hstring : ∀ keyword text, markedField tier mark self keyword
      (normalField tier selfMark keyword (.string text)) =
        markedField tier mark self keyword (.string text) := by
    intro keyword text
    rw [Key.normalField_selfMark_string]
  have harray : ∀ keyword items, markedField tier mark self keyword (.array items) =
      .array (Key.ordered tier keyword items) := fun keyword items =>
    Key.normalField_array tier selfMark keyword items
  exact edit_absorbs (fun _ => id)
    (Key.normalField_absorbs (fun _ => id) hstring (fun _ _ _ => rfl) harray
      (unified_markedFields mark self)) value role

/-- What is alike stays so when references are marked. -/
theorem Alike.marked {u v : Json} (h : Alike tier role u v) (mark self : String) :
    Alike tier role (marked mark self role u) (marked mark self role v) := by
  have hnormal : ∀ value : Json,
      (normalized tier role (Schema.marked mark self role value)).unified =
        edit (selecting (keeps tier) (markedField tier mark self)) role
          (normalized tier role value).unified := by
    intro value
    rw [normalized_marked, unified_edit (unified_markedFields mark self), unified_normalized,
      marked_absorbs]
  rw [alike_iff, hnormal, hnormal, alike_iff.1 h]

/-- A `$ref` of a schema in the value says the text. -/
inductive Refers (text : String) : Role → Json → Prop where
  | here {fields : List (String × Json)} (h : ("$ref", .string text) ∈ fields) :
      Refers text .schema (.object fields)
  | under {fields : List (String × Json)} {keyword : String} {value : Json}
      (hfield : (keyword, value) ∈ fields) (h : Refers text (roleUnder keyword value) value) :
      Refers text .schema (.object fields)
  | named {fields : List (String × Json)} {key : String} {value : Json}
      (hfield : (key, value) ∈ fields) (h : Refers text .schema value) :
      Refers text .named (.object fields)
  | listed {items : List Json} {item : Json} (hitem : item ∈ items)
      (h : Refers text .schema item) : Refers text .listed (.array items)

section Refers

variable {text : String}

theorem refers_node_iff {fields : List (String × Json)} : Refers text .schema (.object fields) ↔
    ∃ field ∈ fields, field = ("$ref", .string text) ∨
      Refers text (roleUnder field.1 field.2) field.2 := by
  constructor
  · rintro (h | ⟨hfield, h⟩ | _ | _)
    · exact ⟨_, h, .inl rfl⟩
    · exact ⟨_, hfield, .inr h⟩
  · rintro ⟨⟨keyword, value⟩, hfield, heq | h⟩
    · exact .here (heq ▸ hfield)
    · exact .under hfield h

theorem refers_object_iff {fields : List (String × Json)} (hrole : role ≠ .schema) :
    Refers text role (.object fields) ↔ ∃ field ∈ fields, Refers text role.member field.2 := by
  constructor
  · rintro (_ | _ | ⟨hfield, h⟩ | _)
    · exact absurd rfl hrole
    · exact absurd rfl hrole
    · exact ⟨_, hfield, h⟩
  · rintro ⟨field, hfield, h⟩
    cases role with
    | schema => exact absurd rfl hrole
    | named => exact .named hfield h
    | listed => cases h
    | leaf => cases h

theorem refers_array_iff {items : List Json} :
    Refers text role (.array items) ↔ ∃ item ∈ items, Refers text role.item item := by
  constructor
  · rintro (_ | _ | _ | ⟨hitem, h⟩)
    exact ⟨_, hitem, h⟩
  · rintro ⟨item, hitem, h⟩
    cases role with
    | listed => exact .listed hitem h
    | _ => cases h

theorem roleUnder_ref (value : Json) : roleUnder "$ref" value = .leaf := by
  cases value <;> simp [roleUnder] <;> decide

/-- An edit leaves alone what a value refers to if it does so under each keyword, and leaves out no
keyword that holds schemas. -/
theorem refers_edit_iff {keep : String → Bool} {k : String → Json → Json}
    (hkeep : ∀ keyword, keep keyword = false →
      keyword ≠ "$ref" ∧ ∀ value, roleUnder keyword value = .leaf)
    (hsaid : ∀ value, k "$ref" value = .string text ↔ value = .string text)
    (hrole : ∀ keyword value, roleUnder keyword (k keyword value) = roleUnder keyword value)
    (hrefers : ∀ keyword value role, Refers text role (k keyword value) ↔ Refers text role value)
    (value : Json) (role : Role) :
    Refers text role (edit (selecting keep k) role value) ↔ Refers text role value := by
  induction value using Json.induction generalizing role with
  | array items ih =>
      rw [edit_array, refers_array_iff, refers_array_iff]
      simp only [List.mem_map, exists_exists_and_eq_and]
      exact exists_congr fun item => and_congr_right fun hitem => ih item hitem role.item
  | object fields ih =>
      by_cases hschema : role = .schema
      · subst hschema
        have hfield : ∀ keyword value, (keyword, value) ∈ fields →
            let below := k keyword (editField (selecting keep k) keyword value)
            ((keyword, below) = ("$ref", .string text) ∨
                Refers text (roleUnder keyword below) below ↔
              (keyword, value) = ("$ref", .string text) ∨
                Refers text (roleUnder keyword value) value) := by
          intro keyword value hmem
          dsimp only
          rw [hrole, hrefers, editField, roleUnder_edit, ih _ hmem]
          refine or_congr_left ?_
          rw [Prod.mk.injEq, Prod.mk.injEq]
          refine and_congr_right fun hkeyword => ?_
          subst hkeyword
          rw [roleUnder_ref, edit_leaf, hsaid]
        rw [edit_node, selecting, Fields.filter_mapValues, Fields.mapValues_mapValues,
          refers_node_iff, refers_node_iff]
        constructor
        · rintro ⟨_, hedited, h⟩
          obtain ⟨⟨keyword, value⟩, hkept, rfl⟩ := List.mem_map.1 hedited
          have hmem := (List.mem_filter.1 hkept).1
          exact ⟨_, hmem, (hfield keyword value hmem).1 h⟩
        · rintro ⟨⟨keyword, value⟩, hmem, h⟩
          have hkept : keep keyword := by
            by_contra hdropped
            obtain ⟨hne, hleaf⟩ := hkeep keyword (Bool.eq_false_iff.2 hdropped)
            rcases h with heq | h
            · cases heq
              exact hne rfl
            · rw [hleaf] at h
              cases h
          exact ⟨_, List.mem_map.2 ⟨_, List.mem_filter.2 ⟨hmem, hkept⟩, rfl⟩,
            (hfield keyword value hmem).2 h⟩
      · rw [edit_object _ hschema, refers_object_iff hschema, refers_object_iff hschema]
        simp only [Fields.mapValues, List.mem_map, exists_exists_and_eq_and]
        exact exists_congr fun field => and_congr_right fun hmem => ih field hmem role.member
  | _ => rfl

theorem refers_unified_iff (value : Json) (role : Role) :
    Refers text role value.unified ↔ Refers text role value := by
  induction value using Json.induction generalizing role with
  | array items ih =>
      rw [Json.unified_array, refers_array_iff, refers_array_iff]
      simp only [List.mem_map, exists_exists_and_eq_and]
      exact exists_congr fun item => and_congr_right fun hitem => ih item hitem role.item
  | object fields ih =>
      rw [Json.unified_object]
      by_cases hschema : role = .schema
      · subst hschema
        have hstring : ∀ value : Json, value.unified = .string text ↔ value = .string text := by
          intro value
          cases value <;> simp [Json.unified, Json.mapScalars, Json.unifiedScalar]
        rw [refers_node_iff, refers_node_iff]
        simp only [Fields.mapValues, List.mem_map, exists_exists_and_eq_and]
        refine exists_congr fun field => and_congr_right fun hmem => ?_
        rw [Prod.mk.injEq, hstring, ← Prod.mk.injEq, roleUnder_unified, ih field hmem]
      · rw [refers_object_iff hschema, refers_object_iff hschema]
        simp only [Fields.mapValues, List.mem_map, exists_exists_and_eq_and]
        exact exists_congr fun field => and_congr_right fun hmem => ih field hmem role.member
  | number n =>
      rw [Json.unified_number]
      refine iff_of_false (fun h => ?_) fun h => ?_
      · cases h
      · cases h
  | _ => rfl

/-- The keywords that a tier ignores hold no schemas and no references. -/
theorem roleUnder_of_ignored {keyword : String} (h : keeps tier keyword = false) :
    keyword ≠ "$ref" ∧ ∀ value, roleUnder keyword value = .leaf := by
  have hall : ∀ keyword ∈ metadataKeywords ++ constraintKeywords, keyword ≠ "$ref" ∧
      keyword ∉ mapKeywords ∧ keyword ∉ singleKeywords ∧ keyword ∉ listKeywords ∧
        keyword ≠ "items" := by
    decide
  have hmem : keyword ∈ metadataKeywords ++ constraintKeywords := by
    cases tier with
    | exact => cases h
    | structural => exact List.mem_append_left _ (not_not.1 (of_decide_eq_false h))
    | structuralLoose => exact not_not.1 (of_decide_eq_false h)
  obtain ⟨href, hmap, hsingle, hlist, hitems⟩ := hall keyword hmem
  refine ⟨href, fun value => ?_⟩
  cases value <;> simp [roleUnder, hmap, hsingle, hlist, hitems]

theorem refers_normalized_iff (tier : MergeTier) (value : Json) :
    Refers text role (normalized tier role value) ↔ Refers text role value := by
  refine refers_edit_iff (fun _ => roleUnder_of_ignored) (fun value => ?_) (fun keyword value => ?_)
    (fun keyword value role => ?_) value role
  · cases value with
    | string said => rw [Key.normalField_selfMark_string]
    | array items => simp [Key.normalField_array]
    | _ => rfl
  · cases value with
    | string said => rw [Key.normalField_selfMark_string]
    | array items =>
        rw [Key.normalField_array]
        rfl
    | _ => rfl
  · cases value with
    | string said => rw [Key.normalField_selfMark_string]
    | array items =>
        have hperm : (Key.ordered tier keyword items).Perm items := by
          rw [Key.ordered]
          split
          · exact sortOn_perm _ _
          · exact .refl _
        rw [Key.normalField_array, refers_array_iff, refers_array_iff]
        simp only [hperm.mem_iff]
    | _ => rfl

/-- What is alike refers to the same. -/
theorem Alike.refers_iff {u v : Json} (h : Alike tier role u v) :
    Refers text role u ↔ Refers text role v := by
  rw [← refers_normalized_iff tier u, ← refers_unified_iff, alike_iff.1 h, refers_unified_iff,
    refers_normalized_iff]

theorem marked_eq_edit (mark self : String) (value : Json) :
    marked mark self role value =
      edit (selecting (fun _ => true) (markField mark self)) role value := by
  refine congrArg (fun f => edit f role value) (funext fun fields => ?_)
  rw [selecting, List.filter_eq_self.2 fun _ _ => rfl]

/-- Marking references to something else leaves a reference alone. -/
theorem refers_marked_iff {mark self : String} (hmark : text ≠ mark) (hself : text ≠ self)
    (value : Json) : Refers text role (marked mark self role value) ↔ Refers text role value := by
  rw [marked_eq_edit]
  refine refers_edit_iff (fun _ hkeep => Bool.noConfusion hkeep) (fun value => ?_)
    (fun keyword value => ?_) (fun keyword value role => ?_) value role
  · cases value with
    | string said =>
        rw [markField_string, Json.string.injEq, Json.string.injEq]
        split
        case isTrue hsaid =>
          obtain ⟨_, rfl⟩ := hsaid
          exact iff_of_false hmark.symm hself.symm
        case isFalse => rfl
    | _ => rfl
  · cases value with
    | string said =>
        rw [markField_string]
        rfl
    | _ => rfl
  · cases value with
    | string said =>
        rw [markField_string]
        exact iff_of_false nofun nofun
    | _ => rfl

theorem markField_markField {mark self keyword : String} {value : Json}
    (h : keyword = "$ref" → value ≠ .string text) :
    markField mark text keyword (markField text self keyword value) =
      markField mark self keyword value := by
  cases value with
  | string said =>
      rw [markField_string, markField_string, markField_string]
      by_cases hself : keyword = "$ref" ∧ said = self
      · simp [hself]
      · have hother : ¬(keyword = "$ref" ∧ said = text) := fun hsaid => h hsaid.1 (hsaid.2 ▸ rfl)
        rw [if_neg hself, if_neg hself, if_neg hother]
  | _ => rfl

/-- A mark that a value does not refer to by itself can be replaced by another one. -/
theorem marked_marked {mark self : String} {value : Json} (h : ¬Refers text role value) :
    marked mark text role (marked text self role value) = marked mark self role value := by
  have hmarks : ∀ fields, Fields.mapValues (markField mark text)
      (Fields.mapValues (markField text self) fields) =
        Fields.mapValues (fun keyword value =>
          markField mark text keyword (markField text self keyword value)) fields :=
    Fields.mapValues_mapValues _ _
  rw [marked, marked, edit_edit (isLocal_markField text self), marked]
  simp only [hmarks]
  induction value using Json.induction generalizing role with
  | array items ih =>
      rw [edit_array, edit_array]
      refine congrArg Json.array (List.map_congr_left fun item hitem => ih item hitem ?_)
      exact fun hrefers => h (refers_array_iff.2 ⟨item, hitem, hrefers⟩)
  | object fields ih =>
      by_cases hschema : role = .schema
      · subst hschema
        rw [edit_node, edit_node, Fields.mapValues_mapValues, Fields.mapValues_mapValues]
        refine congrArg Json.object (Fields.mapValues_congr fun field hfield => ?_)
        rw [refers_node_iff] at h
        have hbelow : ¬Refers text (roleUnder field.1 field.2) field.2 := fun hrefers =>
          h ⟨field, hfield, .inr hrefers⟩
        rw [editField, ih field hfield hbelow, editField]
        refine markField_markField fun hkeyword hsaid => h ⟨field, hfield, .inl ?_⟩
        rw [hkeyword, roleUnder_ref, edit_leaf] at hsaid
        exact Prod.ext hkeyword hsaid
      · rw [edit_object _ hschema, edit_object _ hschema]
        refine congrArg Json.object (Fields.mapValues_congr fun field hfield => ?_)
        refine ih field hfield fun hrefers => h ?_
        exact (refers_object_iff hschema).2 ⟨field, hfield, hrefers⟩
  | _ => rfl

end Refers

end Schema

namespace Key

open Schema (Alike Refers marked)

theorem selfMark_ne_ofName (name : String) : selfMark ≠ SchemaRef.ofName name := by
  intro heq
  have hhead := congrArg (fun text => text.toList.head?) heq
  have hstart : SchemaRef.start.toList.head? = some '#' := by decide +kernel
  have hmark : selfMark.toList.head? = some 'c' := by decide +kernel
  rw [SchemaRef.ofName, String.toList_append, List.head?_append, hstart, hmark] at hhead
  cases hhead

/-- Two definitions have one key iff they are alike with `selfMark` in the place of references to
themselves. With any other mark in that place, definitions of one key are alike if neither of them
says `selfMark` by itself, and they are not alike if only one of them does. -/
theorem content_eq_iff_alike {limit : UInt64} {tier : MergeTier} {a b text other : String}
    {u v : Json} (hu : ofDefinition limit tier.toTier a u = .ok (.content text))
    (hv : ofDefinition limit tier.toTier b v = .ok (.content other)) :
    (text = other ↔ Alike tier .schema (marked selfMark (SchemaRef.ofName a) .schema u)
      (marked selfMark (SchemaRef.ofName b) .schema v)) ∧
    (text = other → ¬(Refers selfMark .schema u ∧ Refers selfMark .schema v) →
      ∀ mark, mark ≠ selfMark →
        (Alike tier .schema (marked mark (SchemaRef.ofName a) .schema u)
          (marked mark (SchemaRef.ofName b) .schema v) ↔
            ¬Refers selfMark .schema u ∧ ¬Refers selfMark .schema v)) := by
  obtain ⟨_, _, htext⟩ := ofDefinition_eq_content_iff.1 hu
  obtain ⟨_, _, hother⟩ := ofDefinition_eq_content_iff.1 hv
  have hsame : text = other ↔ Alike tier .schema (marked selfMark (SchemaRef.ofName a) .schema u)
      (marked selfMark (SchemaRef.ofName b) .schema v) := by
    rw [← htext, ← hother, Json.compact_eq_iff, Schema.normalForm_eq_normalized,
      Schema.normalForm_eq_normalized, Schema.alike_iff]
  refine ⟨hsame, fun heq hone mark hmark => ⟨fun halike => ?_, fun ⟨hsu, hsv⟩ => ?_⟩⟩
  · have hrefers : Refers selfMark .schema u ↔ Refers selfMark .schema v := by
      rw [← Schema.refers_marked_iff hmark.symm (selfMark_ne_ofName a), halike.refers_iff,
        Schema.refers_marked_iff hmark.symm (selfMark_ne_ofName b)]
    exact ⟨fun hsu => hone ⟨hsu, hrefers.1 hsu⟩, fun hsv => hone ⟨hrefers.2 hsv, hsv⟩⟩
  · rw [← Schema.marked_marked hsu, ← Schema.marked_marked hsv]
    exact (hsame.1 heq).marked mark selfMark

/-- A schema with a note and with two references in its properties. -/
def forked (note left right : String) : Json :=
  .record [
    ("description", .string note),
    ("properties", .record [("left", .refTo left), ("right", .refTo right)])]

theorem refers_forked_iff {text note left right : String} :
    Refers text .schema (forked note left right) ↔ left = text ∨ right = text := by
  have hnamed : Schema.roleUnder "properties" (.object []) = .named := by decide
  have hstring : ∀ keyword said, Schema.roleUnder keyword (.string said) = .leaf := fun _ _ => rfl
  have hobject : ∀ fields, Schema.roleUnder "properties" (.object fields) = .named :=
    fun _ => hnamed
  have hleaf : ∀ value, ¬Refers text .leaf value := nofun
  simp [forked, Json.record, Json.refTo, Schema.refers_node_iff, Schema.refers_object_iff,
    Schema.Role.member, hobject, hstring, hleaf]

/-- A definition that refers to itself on both sides. -/
def loop (note name : String) : Json :=
  forked note (SchemaRef.ofName name) (SchemaRef.ofName name)

theorem not_refers_loop (note name : String) : ¬Refers selfMark .schema (loop note name) := by
  rw [loop, refers_forked_iff, or_self]
  exact (selfMark_ne_ofName name).symm

theorem content_eq_iff_alike_loops : ∃ text,
    ofDefinition 64 .structural "A" (loop "one" "A") = .ok (.content text) ∧
    ofDefinition 64 .structural "B" (loop "two" "B") = .ok (.content text) ∧
    Alike .structural .schema (marked "itself" (SchemaRef.ofName "A") .schema (loop "one" "A"))
      (marked "itself" (SchemaRef.ofName "B") .schema (loop "two" "B")) := by
  have hone : ofDefinition 64 (MergeTier.toTier .structural) "A" (loop "one" "A") =
      .ok (.content (normalForm .structural "A" (loop "one" "A")).compact) :=
    ofDefinition_eq_content_iff.2 ⟨by decide +kernel, by decide +kernel, rfl⟩
  have htwo : ofDefinition 64 (MergeTier.toTier .structural) "B" (loop "two" "B") =
      .ok (.content (normalForm .structural "A" (loop "one" "A")).compact) :=
    ofDefinition_eq_content_iff.2 ⟨by decide +kernel, by decide +kernel, by decide +kernel⟩
  have hneither : ¬Refers selfMark .schema (loop "one" "A") ∧
      ¬Refers selfMark .schema (loop "two" "B") :=
    ⟨not_refers_loop _ _, not_refers_loop _ _⟩
  exact ⟨_, hone, htwo, ((content_eq_iff_alike hone htwo).2 rfl (fun h => hneither.1 h.1) "itself"
    (by decide)).2 hneither⟩

/-- The second definition refers to itself once, and its other reference says the mark. -/
theorem content_eq_not_alike : ∃ text : MergeTier → String, ∀ tier : MergeTier,
    ofDefinition 64 tier.toTier "A" (loop "note" "A") = .ok (.content (text tier)) ∧
    ofDefinition 64 tier.toTier "B" (forked "note" (SchemaRef.ofName "B") selfMark) =
      .ok (.content (text tier)) ∧
    ∀ mark, mark ≠ selfMark → ¬Alike tier .schema
      (marked mark (SchemaRef.ofName "A") .schema (loop "note" "A"))
      (marked mark (SchemaRef.ofName "B") .schema
        (forked "note" (SchemaRef.ofName "B") selfMark)) := by
  refine ⟨fun tier => (normalForm tier "A" (loop "note" "A")).compact, fun tier =>
    ⟨ofDefinition_eq_content_iff.2 ⟨by decide +kernel, by decide +kernel, rfl⟩,
      ofDefinition_eq_content_iff.2 ⟨by decide +kernel, by decide +kernel, ?_⟩,
      fun mark hmark halike => ?_⟩⟩
  · cases tier <;> decide +kernel
  · have hsaid : Refers selfMark .schema (forked "note" (SchemaRef.ofName "B") selfMark) :=
      refers_forked_iff.2 (.inr rfl)
    rw [← Schema.refers_marked_iff hmark.symm (selfMark_ne_ofName "B"), ← halike.refers_iff,
      Schema.refers_marked_iff hmark.symm (selfMark_ne_ofName "A")] at hsaid
    exact not_refers_loop "note" "A" hsaid

end Key

end SchemaMerge
