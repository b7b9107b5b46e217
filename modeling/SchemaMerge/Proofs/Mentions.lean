import SchemaMerge.Proofs.Places
import SchemaMerge.Proofs.PointerSegments

/-!
Where mentions stand. What an object mentions is said by its `$ref`, by the mapping of its
discriminator, or below one of its members, and it depends on that member alone
(`Mention.mem_all_congr`). The segments of a mention lead to the object or the string that says it,
so in a value without double keys no site is listed with two texts
(`Document.site_eq_of_path_eq`). A mention in a document stands in a definition or does not depend
on the definitions (`Document.mentions_cases`). The repointing changes the text of a mention only
where it looks, and a pointer there by what it points at (`Mention.target_retext_of_not_isBare`).
-/

namespace SchemaMerge

namespace Json

theorem ordered_entries {m : NameMap Json} : (Json.object m.entries).Ordered ↔
    ∀ name value, m.get? name = some value → value.Ordered := by
  rw [ordered_object]
  constructor
  · exact fun h name value hvalue => h.2 (name, value) (NameMap.get?_eq_some_iff.1 hvalue)
  · exact fun h => ⟨m.ascending, fun field hfield =>
      h field.1 field.2 (NameMap.get?_eq_some_iff.2 hfield)⟩

theorem ordered_insert {m : NameMap Json} {name : String} {value : Json}
    (hnew : m.get? name = none) : (Json.object (m.insert name value).entries).Ordered ↔
      value.Ordered ∧ ∀ other found, m.get? other = some found → found.Ordered := by
  rw [ordered_entries]
  constructor
  · intro h
    refine ⟨h name value (by rw [NameMap.get?_insert, if_pos rfl]), fun other found hfound => ?_⟩
    have hne : other ≠ name := by
      rintro rfl
      rw [hnew] at hfound
      cases hfound
    exact h other found (by rw [NameMap.get?_insert, if_neg hne, hfound])
  · rintro ⟨hvalue, hothers⟩ other found hfound
    rw [NameMap.get?_insert] at hfound
    split at hfound
    case isTrue =>
      cases hfound
      exact hvalue
    case isFalse => exact hothers other found hfound

/-- Other strings in a value leave its keys alone. -/
theorem Ordered.retext {value : Json} (h : value.Ordered) (f : Place → String → String)
    (place : Place) : (value.retext f place).Ordered := by
  induction value using Json.induction generalizing place with
  | array items ih =>
      rw [ordered_array] at h
      rw [retext_array, ordered_array]
      intro item hitem
      obtain ⟨old, hold, rfl⟩ := List.mem_map.1 hitem
      exact ih old hold (h old hold) place.item
  | object fields ih =>
      rw [ordered_object] at h
      rw [retext_object, ordered_object]
      refine ⟨h.1.mapValues _, fun field hfield => ?_⟩
      obtain ⟨old, hold, rfl⟩ := List.mem_map.1 hfield
      exact ih old hold (h.2 old hold) (place.member old.1)
  | _ => exact h

/-- The segments lead from a value to a value in it. An item of an array is named by its index. -/
inductive Leads : Json → List String → Json → Prop where
  | here (value : Json) : Leads value [] value
  | member {fields : List (String × Json)} {key : String} {child found : Json}
      {below : List String} (hchild : (key, child) ∈ fields) (hbelow : Leads child below found) :
      Leads (.object fields) (key :: below) found
  | item {items : List Json} {index : Nat} {child found : Json} {below : List String}
      (hchild : items[index]? = some child) (hbelow : Leads child below found) :
      Leads (.array items) (toString index :: below) found

/-- They lead to one value only, unless an object has a key twice. -/
theorem Leads.unique {value a b : Json} {below : List String} (h : value.Ordered)
    (ha : value.Leads below a) (hb : value.Leads below b) : a = b := by
  induction ha with
  | here =>
      cases hb
      rfl
  | @member fields key child found below hchild _ ih =>
      cases hb with
      | @member _ _ other _ _ hother hbelow =>
          rw [ordered_object] at h
          have hsame : some child = some other := by
            rw [← h.1.lookup_eq hchild, h.1.lookup_eq hother]
          cases hsame
          exact ih (h.2 _ hchild) hbelow
  | @item items index child found below hchild _ ih =>
      generalize hsegment : toString index = segment at hb
      cases hb with
      | @item _ other _ _ _ hother hbelow =>
          rw [toString_nat_injective hsegment, hother] at hchild
          cases hchild
          rw [ordered_array] at h
          exact ih (h _ (List.mem_of_getElem? hother)) hbelow

end Json

namespace Mention

/-- The string is one of those that are repointed. -/
def Reached (mention : Mention) : Prop :=
  mention.place = .reference ∨ mention.place = .entry

/-- The mention is an entry of a mapping that names a definition without a pointer. -/
def IsBare (mention : Mention) : Prop :=
  mention.place = .entry ∧ SchemaRef.isBareName mention.text

instance (mention : Mention) : Decidable mention.Reached :=
  inferInstanceAs (Decidable (_ ∨ _))

instance (mention : Mention) : Decidable mention.IsBare :=
  inferInstanceAs (Decidable (_ ∧ _))

theorem target_of_not_entry {mention : Mention} (h : ¬mention.entry) :
    mention.target = mention.text := by
  rw [target, if_neg h]

theorem target_of_not_isBareName {mention : Mention}
    (h : ¬SchemaRef.isBareName mention.text) : mention.target = mention.text := by
  rw [target, Site.mappingTarget, if_neg h, ite_self]

/-- A bare name that is scanned as an entry is one of a definition. -/
theorem split?_target_of_isBareName {mention : Mention} (hentry : mention.entry)
    (h : SchemaRef.isBareName mention.text) :
    SchemaRef.split? mention.target = some (mention.text, "") := by
  rw [target, if_pos hentry, Site.mappingTarget, if_pos h,
    SchemaRef.split?_ofName (SchemaRef.ne_empty_of_isBareName h)]

/-- What is not reached keeps its text. -/
theorem retext_eq_self {map : RenameMap} {mention : Mention} (h : ¬mention.Reached) :
    mention.retext map.textAt = mention := by
  have htext : map.textAt mention.place mention.text = mention.text := by
    cases hplace : mention.place with
    | reference => exact absurd (.inl hplace) h
    | entry => exact absurd (.inr hplace) h
    | _ => rfl
  rw [retext, htext]

theorem text_retext_of_isBare (map : RenameMap) {mention : Mention} (h : mention.IsBare) :
    (mention.retext map.textAt).text = map.target mention.text := by
  obtain ⟨hplace, hname⟩ := h
  rw [retext, hplace]
  exact if_pos hname

/-- A pointer that is reached is repointed. -/
theorem target_retext_of_not_isBare (map : RenameMap) {mention : Mention}
    (hreached : mention.Reached) (hscan : mention.place = .reference → mention.entry = false)
    (hbare : ¬mention.IsBare) :
    (mention.retext map.textAt).target = map.reference mention.target := by
  rcases hreached with hplace | hplace
  · have hpointer : ¬mention.entry := by simp [hscan hplace]
    have hnew : (mention.retext map.textAt).target = (mention.retext map.textAt).text :=
      target_of_not_entry hpointer
    rw [hnew, target_of_not_entry hpointer, retext, hplace]
    rfl
  · have hname : ¬SchemaRef.isBareName mention.text := fun hname => hbare ⟨hplace, hname⟩
    have htext : (mention.retext map.textAt).text = map.reference mention.text := by
      rw [retext, hplace]
      exact if_neg hname
    rw [target_of_not_isBareName hname, target_of_not_isBareName, htext]
    rw [htext]
    exact map.not_isBareName_reference hname

/-- A bare name would be repointed to what its definition is called then. -/
theorem reference_target_of_isBareName {map : RenameMap} {mention : Mention}
    (hentry : mention.entry) (hname : SchemaRef.isBareName mention.text) :
    map.reference mention.target = SchemaRef.ofName (map.target mention.text) := by
  rw [target, if_pos hentry, Site.mappingTarget, if_pos hname,
    map.reference_ofName (SchemaRef.ne_empty_of_isBareName hname)]

theorem mem_ofRef_iff {mention : Mention} {place : Place} {fields : List (String × Json)} :
    mention ∈ ofRef place fields ↔ ∃ text, fields.lookup "$ref" = some (.string text) ∧
      mention = ⟨[], place.member "$ref", false, text⟩ := by
  rw [ofRef]
  cases fields.lookup "$ref" with
  | none => simp
  | some value => cases value <;> simp

theorem mem_ofMapping_iff {mention : Mention} {place : Place} {fields : List (String × Json)} :
    mention ∈ ofMapping place fields ↔ ∃ discriminator entries key text,
      fields.lookup "discriminator" = some discriminator ∧
      discriminator.get? "mapping" = some (.object entries) ∧ (key, .string text) ∈ entries ∧
      mention = ⟨["discriminator", "mapping", key],
        ((place.member "discriminator").member "mapping").member key, true, text⟩ := by
  rw [ofMapping, List.mem_filterMap]
  constructor
  · rintro ⟨⟨key, value⟩, hentry, hsome⟩
    cases value with
    | string text =>
        cases hsome
        cases hmapping : Site.mapping? fields with
        | none =>
            rw [hmapping] at hentry
            cases hentry
        | some entries =>
            rw [hmapping, Option.getD_some] at hentry
            obtain ⟨discriminator, hdiscriminator, hrest⟩ := Option.bind_eq_some_iff.1 hmapping
            obtain ⟨mapping, hget, hobject⟩ := Option.bind_eq_some_iff.1 hrest
            cases mapping with
            | object fields =>
                cases hobject
                exact ⟨discriminator, entries, key, text, hdiscriminator, hget, hentry, rfl⟩
            | _ => cases hobject
    | _ => cases hsome
  · rintro ⟨discriminator, entries, key, text, hdiscriminator, hget, hentry, rfl⟩
    have hmapping : Site.mapping? fields = some entries := by
      rw [Site.mapping?, hdiscriminator, Option.bind_some, hget]
      rfl
    refine ⟨(key, .string text), ?_, rfl⟩
    rw [hmapping]
    exact hentry

theorem mem_allFields {mention : Mention} {place : Place} {fields : List (String × Json)} :
    mention ∈ allFields place fields ↔ ∃ field ∈ fields,
      ∃ inner ∈ all (place.member field.1) field.2, mention = inner.within field.1 := by
  induction fields with
  | nil => simp [allFields]
  | cons field rest ih =>
      obtain ⟨key, value⟩ := field
      rw [allFields, List.mem_append, ih]
      simp [eq_comm]

theorem mem_allItems {mention : Mention} {place : Place} {start : Nat} {items : List Json} :
    mention ∈ allItems place start items ↔ ∃ index item, items[index]? = some item ∧
      ∃ inner ∈ all place item, mention = inner.within (toString (start + index)) := by
  induction items generalizing start with
  | nil => simp [allItems]
  | cons item rest ih =>
      rw [allItems, List.mem_append, ih]
      constructor
      · rintro (hitem | ⟨index, other, hother, inner, hinner, rfl⟩)
        · obtain ⟨inner, hinner, rfl⟩ := List.mem_map.1 hitem
          exact ⟨0, item, rfl, inner, hinner, rfl⟩
        · refine ⟨index + 1, other, hother, inner, hinner, ?_⟩
          rw [Nat.add_right_comm, Nat.add_assoc]
      · rintro ⟨index, other, hother, inner, hinner, rfl⟩
        cases index with
        | zero =>
            cases hother
            exact .inl (List.mem_map_of_mem hinner)
        | succ index =>
            refine .inr ⟨index, other, hother, inner, hinner, ?_⟩
            rw [Nat.add_right_comm, Nat.add_assoc]

theorem mem_all_object {mention : Mention} {place : Place} {fields : List (String × Json)} :
    mention ∈ all place (.object fields) ↔
      mention ∈ ofRef place fields ∨ mention ∈ ofMapping place fields ∨ ∃ field ∈ fields,
        ∃ inner ∈ all (place.member field.1) field.2, mention = inner.within field.1 := by
  rw [all, List.mem_append, List.mem_append, mem_allFields, or_assoc]

/-- The scan reads the `$ref` of a schema as a pointer and not as an entry of a mapping. -/
theorem entry_eq_false {value : Json} {place : Place} {mention : Mention}
    (h : mention ∈ all place value) (hplace : mention.place = .reference) :
    mention.entry = false := by
  induction value using Json.induction generalizing place mention with
  | array items ih =>
      obtain ⟨index, item, hitem, inner, hinner, rfl⟩ := mem_allItems.1 h
      have hentry : inner.entry = false := ih item (List.mem_of_getElem? hitem) hinner hplace
      exact hentry
  | object fields ih =>
      rcases mem_all_object.1 h with href | hmapping | ⟨field, hfield, inner, hinner, rfl⟩
      · obtain ⟨_, _, rfl⟩ := mem_ofRef_iff.1 href
        rfl
      · obtain ⟨_, _, key, _, _, _, _, rfl⟩ := mem_ofMapping_iff.1 hmapping
        exact absurd hplace (place.member_mapping_ne key)
      · have hentry : inner.entry = false := ih field hfield hinner hplace
        exact hentry
  | _ => cases h

/-- A mention is said by the string to which its segments lead, or by the `$ref` of the object. -/
theorem exists_leads {value : Json} {place : Place} {mention : Mention}
    (h : mention ∈ all place value) : ∃ found, value.Leads mention.below found ∧
      if mention.entry then found = .string mention.text
      else found.get? "$ref" = some (.string mention.text) := by
  induction value using Json.induction generalizing place mention with
  | array items ih =>
      obtain ⟨index, item, hitem, inner, hinner, rfl⟩ := mem_allItems.1 h
      obtain ⟨found, hleads, hsaid⟩ := ih item (List.mem_of_getElem? hitem) hinner
      refine ⟨found, ?_, hsaid⟩
      rw [within, Nat.zero_add]
      exact .item hitem hleads
  | object fields ih =>
      rcases mem_all_object.1 h with href | hmapping | ⟨field, hfield, inner, hinner, rfl⟩
      · obtain ⟨text, hlookup, rfl⟩ := mem_ofRef_iff.1 href
        exact ⟨.object fields, .here _, hlookup⟩
      · obtain ⟨discriminator, entries, key, text, hlookup, hget, hentry, rfl⟩ :=
          mem_ofMapping_iff.1 hmapping
        cases discriminator with
        | object members =>
            refine ⟨.string text, ?_, rfl⟩
            exact .member (Fields.mem_of_lookup hlookup)
              (.member (Fields.mem_of_lookup hget) (.member hentry (.here _)))
        | _ => cases hget
      · obtain ⟨found, hleads, hsaid⟩ := ih field hfield hinner
        exact ⟨found, .member hfield hleads, hsaid⟩
  | _ => cases h

/-- Where something is mentioned, one thing is mentioned. -/
theorem target_eq_of_below_eq {value : Json} (h : value.Ordered) {place : Place} {a b : Mention}
    (ha : a ∈ all place value) (hb : b ∈ all place value) (hbelow : a.below = b.below) :
    a.target = b.target := by
  obtain ⟨found, hleads, hsaid⟩ := exists_leads ha
  obtain ⟨other, hleads', hsaid'⟩ := exists_leads hb
  rw [hbelow] at hleads
  obtain rfl := hleads.unique h hleads'
  suffices a.entry = b.entry ∧ a.text = b.text by rw [target, target, this.1, this.2]
  cases hentry : a.entry <;> cases hentry' : b.entry <;> rw [hentry] at hsaid <;>
    rw [hentry'] at hsaid'
  · rw [if_neg Bool.false_ne_true] at hsaid hsaid'
    rw [hsaid] at hsaid'
    exact ⟨rfl, Json.string.inj (Option.some.inj hsaid')⟩
  · rw [if_neg Bool.false_ne_true] at hsaid
    rw [if_pos rfl] at hsaid'
    subst hsaid'
    cases hsaid
  · rw [if_pos rfl] at hsaid
    rw [if_neg Bool.false_ne_true] at hsaid'
    subst hsaid
    cases hsaid'
  · rw [if_pos rfl] at hsaid hsaid'
    rw [hsaid] at hsaid'
    exact ⟨rfl, Json.string.inj hsaid'⟩

/-- The key of the member of an object that says what is mentioned. -/
def owner (mention : Mention) : String :=
  mention.below.headD "$ref"

theorem contains_owner {place : Place} {m : NameMap Json} {mention : Mention}
    (h : mention ∈ all place (.object m.entries)) : m.contains mention.owner := by
  rw [NameMap.contains_iff]
  rcases mem_all_object.1 h with href | hmapping | ⟨field, hfield, inner, _, rfl⟩
  · obtain ⟨text, hlookup, rfl⟩ := mem_ofRef_iff.1 href
    exact ⟨_, hlookup⟩
  · obtain ⟨discriminator, _, _, _, hlookup, _, _, rfl⟩ := mem_ofMapping_iff.1 hmapping
    exact ⟨_, hlookup⟩
  · exact ⟨field.2, NameMap.get?_eq_some_iff.2 hfield⟩

/-- Objects with the same member mention the same there. -/
theorem mem_all_of_get?_eq {place : Place} {old new : NameMap Json} {mention : Mention}
    (hsame : new.get? mention.owner = old.get? mention.owner)
    (h : mention ∈ all place (.object old.entries)) :
    mention ∈ all place (.object new.entries) := by
  rw [mem_all_object] at h ⊢
  rcases h with href | hmapping | ⟨field, hfield, inner, hinner, rfl⟩
  · obtain ⟨text, hlookup, rfl⟩ := mem_ofRef_iff.1 href
    exact .inl (mem_ofRef_iff.2 ⟨text, hsame.trans hlookup, rfl⟩)
  · obtain ⟨discriminator, entries, key, text, hlookup, hrest⟩ := mem_ofMapping_iff.1 hmapping
    have howner : mention.owner = "discriminator" := by
      rw [hrest.2.2]
      rfl
    rw [howner] at hsame
    exact .inr (.inl (mem_ofMapping_iff.2
      ⟨discriminator, entries, key, text, hsame.trans hlookup, hrest⟩))
  · have hmember : new.get? field.1 = some field.2 :=
      hsame.trans (NameMap.get?_eq_some_iff.2 hfield)
    exact .inr (.inr ⟨field, NameMap.get?_eq_some_iff.1 hmember, inner, hinner, rfl⟩)

theorem mem_all_congr {place : Place} {old new : NameMap Json} {mention : Mention}
    (hsame : new.get? mention.owner = old.get? mention.owner) :
    mention ∈ all place (.object new.entries) ↔ mention ∈ all place (.object old.entries) :=
  ⟨mem_all_of_get?_eq hsame.symm, mem_all_of_get?_eq hsame⟩

/-- What a member says that is no keyword of the scan is mentioned in the member. -/
theorem exists_within {place : Place} {m : NameMap Json} {mention : Mention} {value : Json}
    (h : mention ∈ all place (.object m.entries))
    (hkeyword : mention.owner ≠ "$ref" ∧ mention.owner ≠ "discriminator")
    (hvalue : m.get? mention.owner = some value) :
    ∃ inner ∈ all (place.member mention.owner) value, mention = inner.within mention.owner := by
  rcases mem_all_object.1 h with href | hmapping | ⟨field, hfield, inner, hinner, rfl⟩
  · obtain ⟨_, _, rfl⟩ := mem_ofRef_iff.1 href
    exact absurd rfl hkeyword.1
  · obtain ⟨_, _, _, _, _, _, _, rfl⟩ := mem_ofMapping_iff.1 hmapping
    exact absurd rfl hkeyword.2
  · have howner : (inner.within field.1).owner = field.1 := rfl
    rw [howner, NameMap.get?_eq_some_iff.2 hfield] at hvalue
    cases hvalue
    exact ⟨inner, hinner, rfl⟩

theorem within_mem_all (place : Place) {m : NameMap Json} {key : String} {value : Json}
    {inner : Mention} (hvalue : m.get? key = some value)
    (h : inner ∈ all (place.member key) value) :
    inner.within key ∈ all place (.object m.entries) :=
  mem_all_object.2 (.inr (.inr ⟨(key, value), NameMap.get?_eq_some_iff.1 hvalue, inner, h, rfl⟩))

/-- A mention in the container of the definitions, as seen from the document. -/
def fromContainer (mention : Mention) : Mention :=
  (mention.within "schemas").within "components"

/-- Its site is in the definition that says it, or it is the `$ref` of the container itself. -/
theorem inside_or_container (mention : Mention) :
    SchemaRef.Inside mention.owner (mention.fromContainer.site "#").path ∨
      mention.owner = "$ref" ∧ (mention.fromContainer.site "#").path = SchemaRef.container := by
  obtain ⟨below, place, entry, text⟩ := mention
  cases below with
  | nil => exact .inr ⟨rfl, SchemaRef.container_eq.symm⟩
  | cons name more => exact .inl (SchemaRef.inside_descend_iff.2 ⟨more, rfl⟩)

end Mention

namespace Document

variable {document : Document} {mention : Mention}

/-- A document has no double keys if none of its parts has. -/
theorem ordered_toJson_iff : document.toJson.Ordered ↔
    (∀ name body, document.definitions.get? name = some body → body.Ordered) ∧
      (∀ name value, document.sections.get? name = some value → value.Ordered) ∧
      ∀ name value, document.rest.get? name = some value → value.Ordered := by
  rw [toJson, Json.ordered_insert document.rest_components, components,
    Json.ordered_insert document.sections_schemas, Json.ordered_entries, and_assoc]

theorem ordered_ofSchemas {definitions : List (String × Json)}
    (h : ∀ entry ∈ definitions, entry.2.Ordered) : (ofSchemas definitions).toJson.Ordered := by
  have hempty : ∀ key name : String, ((.empty : NameMap Json).erase key).get? name = none :=
    fun _ _ => rfl
  rw [ordered_toJson_iff]
  refine ⟨fun name body hbody => ?_, fun name value hvalue => ?_, fun name value hvalue => ?_⟩
  · exact h (name, body) (Fields.mem_ofList (NameMap.get?_eq_some_iff.1 hbody))
  · rw [ofSchemas, ofParts, hempty] at hvalue
    cases hvalue
  · rw [ofSchemas, ofParts, hempty] at hvalue
    cases hvalue

theorem mem_sites_iff {site : Site} :
    site ∈ document.sites ↔ ∃ mention ∈ document.mentions, mention.site "#" = site := by
  rw [← map_site_mentions, List.mem_map]

theorem mem_danglingSites_iff {site : Site} : site ∈ document.danglingSites ↔
    site ∈ document.sites ∧ document.resolves document.toJson site.target = false := by
  rw [danglingSites, List.mem_filter, Bool.not_eq_true']
  rfl

/-- A document reports one reference at a site. -/
theorem site_eq_of_path_eq (h : document.toJson.Ordered) {a b : Site} (ha : a ∈ document.sites)
    (hb : b ∈ document.sites) (hpath : a.path = b.path) : a = b := by
  obtain ⟨mention, hmention, rfl⟩ := mem_sites_iff.1 ha
  obtain ⟨other, hother, rfl⟩ := mem_sites_iff.1 hb
  have htarget := Mention.target_eq_of_below_eq h hmention hother (Pointer.descend_injective hpath)
  rw [Mention.site, Mention.site, htarget]
  exact congrArg (Site.mk · _) hpath

/-- The mentions in the container of the definitions, as seen from there. -/
def inDefinitions (document : Document) : List Mention :=
  Mention.all .definitions (.object document.definitions.entries)

theorem fromContainer_mem (h : mention ∈ document.inDefinitions) :
    mention.fromContainer ∈ document.mentions :=
  Mention.within_mem_all .root (document.get?_toJson "components")
    (Mention.within_mem_all .components (document.get?_components "schemas") h)

/-- A mention in a document stands in the container of the definitions, or it stands elsewhere and
does not depend on what is in there. -/
theorem mentions_cases (h : mention ∈ document.mentions) :
    (∃ inner ∈ document.inDefinitions, mention = inner.fromContainer) ∨
      (∀ more, mention.below ≠ "components" :: "schemas" :: more) ∧
        ∀ definitions, mention ∈ (document.withDefinitions definitions).mentions := by
  by_cases hcomponents : mention.owner = "components"
  · obtain ⟨inner, hinner, hwithin⟩ := Mention.exists_within (m := document.rest.insert
      "components" (.object document.components.entries)) h (by rw [hcomponents]; decide)
      ((document.get?_toJson _).trans (if_pos hcomponents))
    rw [hcomponents] at hinner hwithin
    by_cases hschemas : inner.owner = "schemas"
    · obtain ⟨lower, hlower, hwithin'⟩ := Mention.exists_within hinner
        (by rw [hschemas]; decide) ((document.get?_components _).trans (if_pos hschemas))
      rw [hschemas] at hlower hwithin'
      exact .inl ⟨lower, hlower, by rw [hwithin, hwithin']; rfl⟩
    · refine .inr ⟨fun more hbelow => hschemas ?_, fun definitions => ?_⟩
      · rw [hwithin] at hbelow
        rw [Mention.owner, (List.cons_eq_cons.1 hbelow).2]
        rfl
      · rw [hwithin]
        refine Mention.within_mem_all .root
          ((document.withDefinitions definitions).get?_toJson "components")
          (Mention.mem_all_of_get?_eq ?_ hinner)
        rw [get?_components, get?_components, if_neg hschemas, if_neg hschemas]
        rfl
  · refine .inr ⟨fun more hbelow => hcomponents ?_, fun definitions => ?_⟩
    · rw [Mention.owner, hbelow]
      rfl
    · refine @Mention.mem_all_of_get?_eq .root (document.rest.insert
        "components" (.object document.components.entries)) _ mention ?_ h
      exact ((document.withDefinitions definitions).get?_toJson _).trans
        ((if_neg hcomponents).trans ((document.get?_toJson _).trans (if_neg hcomponents)).symm)

/-- What is mentioned in the container of the definitions is mentioned in one of them. -/
theorem contains_of_below (h : mention ∈ document.mentions) {more : List String}
    (hbelow : mention.below = "components" :: "schemas" :: more) :
    document.definitions.contains (more.headD "$ref") := by
  rcases mentions_cases h with ⟨inner, hinner, rfl⟩ | ⟨helsewhere, _⟩
  · have hmore : inner.below = more := by simpa [Mention.fromContainer, Mention.within] using hbelow
    rw [← hmore]
    exact Mention.contains_owner hinner
  · exact absurd hbelow (helsewhere more)

end Document

end SchemaMerge
