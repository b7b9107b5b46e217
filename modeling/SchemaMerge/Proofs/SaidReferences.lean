import SchemaMerge.Proofs.InlineWays

/-!
What a value says, wherever in it that stands: the targets of its reference sites (`Json.Says`). A
part of a value says no more than the whole, and with references in the place of parts the value says
what these refer to and nothing else that is new (`Extraction.Reduced.said`).
-/

namespace SchemaMerge

namespace Json

/-- A reference site of the value has the given target. -/
inductive Says : Json → String → Prop where
  | reference {fields : List (String × Json)} {text : String}
      (h : fields.lookup "$ref" = some (.string text)) : Says (.object fields) text
  | mapping {fields entries : List (String × Json)} {discriminator : Json} {key text : String}
      (hdiscriminator : fields.lookup "discriminator" = some discriminator)
      (hmapping : discriminator.get? "mapping" = some (.object entries))
      (hentry : (key, .string text) ∈ entries) : Says (.object fields) (Site.mappingTarget text)
  | member {fields : List (String × Json)} {key text : String} {value : Json}
      (hmember : (key, value) ∈ fields) (h : Says value text) : Says (.object fields) text
  | item {items : List Json} {value : Json} {text : String} (hitem : value ∈ items)
      (h : Says value text) : Says (.array items) text

variable {value found : Json} {text : String}

theorem Says.of_get? {key : String} (h : Says found text) (hfound : value.get? key = some found) :
    Says value text := by
  obtain ⟨fields, rfl, hlookup⟩ := get?_eq_some hfound
  exact .member (Fields.mem_of_lookup hlookup) h

theorem Says.of_follow? {way : List String} (h : Says found text)
    (hfound : value.follow? way = some found) : Says value text := by
  induction way generalizing value with
  | nil => exact Option.some.inj hfound ▸ h
  | cons segment way ih =>
      rw [follow?_cons] at hfound
      obtain ⟨inner, hinner, hfound⟩ := Option.bind_eq_some_iff.1 hfound
      exact (ih hfound).of_get? hinner

theorem exists_mem_allItems {place : Place} {items : List Json} {item : Json} {mention : Mention}
    (hitem : item ∈ items) (h : mention ∈ Mention.all place item) (start : Nat) :
    ∃ index, mention.within index ∈ Mention.allItems place start items := by
  induction items generalizing start with
  | nil => cases hitem
  | cons first rest ih =>
      rw [Mention.allItems]
      rcases List.mem_cons.1 hitem with rfl | hitem
      · exact ⟨_, List.mem_append_left _ (List.mem_map_of_mem h)⟩
      · obtain ⟨index, hindex⟩ := ih hitem (start + 1)
        exact ⟨index, List.mem_append_right _ hindex⟩

/-- The scan finds what a value says, whatever the value stands for. -/
theorem said_iff (place : Place) :
    Says value text ↔ ∃ mention ∈ Mention.all place value, mention.target = text := by
  constructor
  · intro h
    induction h generalizing place with
    | reference h =>
        exact ⟨_, Mention.mem_all_object.2 (.inl (Mention.mem_ofRef_iff.2 ⟨_, h, rfl⟩)), rfl⟩
    | mapping hdiscriminator hmapping hentry =>
        exact ⟨_, Mention.mem_all_object.2 (.inr (.inl (Mention.mem_ofMapping_iff.2
          ⟨_, _, _, _, hdiscriminator, hmapping, hentry, rfl⟩))), rfl⟩
    | member hmember _ ih =>
        obtain ⟨mention, hmention, rfl⟩ := ih (place.member _)
        exact ⟨_, Mention.mem_all_object.2 (.inr (.inr ⟨_, hmember, mention, hmention, rfl⟩)), rfl⟩
    | item hitem _ ih =>
        obtain ⟨mention, hmention, rfl⟩ := ih place.item
        obtain ⟨index, hindex⟩ := exists_mem_allItems hitem hmention 0
        exact ⟨_, hindex, rfl⟩
  · rintro ⟨mention, hmention, rfl⟩
    induction value using Json.induction generalizing place mention with
    | array items ih =>
        obtain ⟨_, item, hitem, inner, hinner, rfl⟩ := Mention.mem_allItems.1 hmention
        have hmem := List.mem_of_getElem? hitem
        exact .item hmem (ih item hmem place.item inner hinner)
    | object fields ih =>
        rcases Mention.mem_all_object.1 hmention with href | hmapping | ⟨field, hfield, inner, hinner, rfl⟩
        · obtain ⟨_, htext, rfl⟩ := Mention.mem_ofRef_iff.1 href
          exact .reference htext
        · obtain ⟨_, _, _, _, hdiscriminator, hentries, hentry, rfl⟩ :=
            Mention.mem_ofMapping_iff.1 hmapping
          exact .mapping hdiscriminator hentries hentry
        · exact .member hfield (ih field hfield _ inner hinner)
    | _ => cases hmention

end Json

namespace Extraction

/-- A value in which references have taken the place of parts. -/
inductive Reduced (reference : String) : Json → Json → Prop where
  | refl (value : Json) : Reduced reference value value
  | cut (value : Json) : Reduced reference value (.object [("$ref", .string reference)])
  | object {fields : List (String × Json)} {change : String → Json → Json}
      (h : ∀ key value, Reduced reference value (change key value)) :
      Reduced reference (.object fields) (.object (Fields.mapValues change fields))

theorem reduced_replaceAt (reference : String) (way : List String) (value : Json) :
    Reduced reference value (replaceAt (.refTo reference) way value) := by
  induction way generalizing value with
  | nil =>
      rw [replaceAt_nil]
      exact .cut value
  | cons segment way ih =>
      cases value with
      | object fields =>
          rw [replaceAt_cons_object]
          refine .object fun key value => ?_
          split
          · exact ih value
          · exact .refl value
      | _ => exact .refl _

namespace Reduced

variable {reference key text : String} {value reduced found : Json}

/-- What stands under a key is reduced, unless it is the reference that has been put in. -/
theorem get? (h : Reduced reference value reduced) (hfound : reduced.get? key = some found) :
    (∃ old, value.get? key = some old ∧ Reduced reference old found) ∨
      found = .string reference := by
  cases h with
  | refl => exact .inl ⟨found, hfound, .refl found⟩
  | cut =>
      rw [Json.get?, Fields.lookup_cons] at hfound
      split at hfound
      · exact .inr (Option.some.inj hfound).symm
      · cases hfound
  | @object fields change h =>
      rw [Json.get?, Fields.lookup_mapValues] at hfound
      obtain ⟨old, hold, rfl⟩ := Option.map_eq_some_iff.1 hfound
      exact .inl ⟨old, hold, h key old⟩

/-- No string comes in but the reference. -/
theorem get?_string (h : Reduced reference value reduced)
    (hfound : reduced.get? key = some (.string text)) :
    value.get? key = some (.string text) ∨ text = reference := by
  rcases h.get? hfound with ⟨old, hold, hstring⟩ | hnew
  · cases hstring
    exact .inl hold
  · exact .inr (Json.string.inj hnew)

theorem mem_string {entries : List (String × Json)} (h : Reduced reference value (.object entries))
    (hentry : (key, .string text) ∈ entries) :
    (∃ old, value = .object old ∧ (key, .string text) ∈ old) ∨ text = reference := by
  cases h with
  | refl => exact .inl ⟨entries, rfl, hentry⟩
  | cut =>
      cases List.mem_singleton.1 hentry
      exact .inr rfl
  | @object fields change h =>
      obtain ⟨⟨other, old⟩, hold, heq⟩ := List.mem_map.1 hentry
      obtain ⟨rfl, hchange⟩ := Prod.mk.inj heq
      have hstring := h other old
      rw [hchange] at hstring
      cases hstring
      exact .inl ⟨fields, rfl, hold⟩

/-- With references in the place of parts a value says what it said, or what the references say. -/
theorem said (hreference : ¬SchemaRef.isBareName reference) (h : Reduced reference value reduced)
    (hsaid : reduced.Says text) : value.Says text ∨ text = reference := by
  induction hsaid generalizing value with
  | @reference fields text hlookup =>
      refine (h.get?_string hlookup).imp_left fun hold => ?_
      obtain ⟨old, rfl, hold⟩ := Json.get?_eq_some hold
      exact .reference hold
  | @mapping fields entries discriminator key text hdiscriminator hmapping hentry =>
      have hnew : text = reference → Site.mappingTarget text = reference := by
        rintro rfl
        exact if_neg hreference
      rcases h.get? hdiscriminator with ⟨old, hold, hreduced⟩ | rfl
      · rcases hreduced.get? hmapping with ⟨inner, hinner, hentries⟩ | heq
        · refine (hentries.mem_string hentry).imp ?_ hnew
          rintro ⟨members, rfl, hmember⟩
          obtain ⟨all, rfl, hlookup⟩ := Json.get?_eq_some hold
          exact .mapping hlookup hinner hmember
        · cases heq
      · cases hmapping
  | @member fields key text member hmember hsaid ih =>
      cases h with
      | refl => exact .inl (.member hmember hsaid)
      | cut =>
          cases List.mem_singleton.1 hmember
          cases hsaid
      | object h =>
          obtain ⟨⟨other, origin⟩, horigin, heq⟩ := List.mem_map.1 hmember
          cases heq
          exact (ih (h _ origin)).imp_left (.member horigin)
  | item hitem hsaid _ =>
      cases h
      exact .inl (.item hitem hsaid)

end Reduced

end Extraction

/-- With one more definition the container says what the definition says, unless its name is one
that the scan looks for. -/
theorem said_insert {m : NameMap Json} {name text : String} {body : Json}
    (hname : name ≠ "discriminator") (hbody : ∀ string, body ≠ .string string)
    (h : (Json.object (m.insert name body).entries).Says text) :
    (Json.object m.entries).Says text ∨ body.Says text := by
  generalize hentries : (m.insert name body).entries = entries at h
  have hlookup : ∀ key, entries.lookup key = if key = name then some body else m.get? key := by
    intro key
    rw [← hentries]
    exact m.get?_insert name key body
  cases h with
  | reference h =>
      rw [hlookup] at h
      split at h
      · exact absurd (Option.some.inj h) (hbody text)
      · exact .inl (.reference h)
  | mapping hdiscriminator hmapping hentry =>
      rw [hlookup, if_neg (Ne.symm hname)] at hdiscriminator
      exact .inl (.mapping hdiscriminator hmapping hentry)
  | member hmember h =>
      rw [← hentries] at hmember
      rcases Fields.mem_insert hmember with heq | hold
      · cases heq
        exact .inr h
      · exact .inl (.member hold h)

namespace Document

variable {document : Document} {text : String}

theorem exists_site_iff :
    (∃ site ∈ document.sites, site.target = text) ↔ document.toJson.Says text := by
  rw [Json.said_iff .root]
  constructor
  · rintro ⟨site, hsite, rfl⟩
    obtain ⟨mention, hmention, rfl⟩ := mem_sites_iff.1 hsite
    exact ⟨mention, hmention, rfl⟩
  · rintro ⟨mention, hmention, rfl⟩
    exact ⟨mention.site "#", mem_sites_iff.2 ⟨mention, hmention, rfl⟩, rfl⟩

/-- What the definitions say, the document says. -/
theorem said_of_definitions (h : (Json.object document.definitions.entries).Says text) :
    document.toJson.Says text := by
  have hcomponents : (Json.object document.components.entries).Says text :=
    h.of_get? ((document.get?_components "schemas").trans (if_pos rfl))
  exact hcomponents.of_get? ((document.get?_toJson "components").trans (if_pos rfl))

/-- With other definitions a document says what these say, or what it said before. -/
theorem said_withDefinitions {definitions : NameMap Json}
    (h : (document.withDefinitions definitions).toJson.Says text) :
    (Json.object definitions.entries).Says text ∨ document.toJson.Says text := by
  obtain ⟨mention, hmention, rfl⟩ := (Json.said_iff .root).1 h
  rcases mentions_cases hmention with ⟨inner, hinner, rfl⟩ | ⟨_, houter⟩
  · exact .inl ((Json.said_iff .definitions).2 ⟨inner, hinner, rfl⟩)
  · exact .inr ((Json.said_iff .root).2 ⟨mention, houter document.definitions, rfl⟩)

end Document

end SchemaMerge
