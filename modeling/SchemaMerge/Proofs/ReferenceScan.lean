import Mathlib.Data.List.Nodup
import SchemaMerge.Proofs.ResolvedWays

/-!
The scan for references against what refers to something in a value. An object does so by its `$ref`,
and so does every string in a discriminator mapping (`Json.Refers`). The scan reports each of them
once and nothing else, and the pointer that it gives leads back there (`Site.all_reports`).
-/

namespace SchemaMerge

namespace Json

/-- What refers to something in a value: the way that leads to it, what stands there and the pointer
that it gives. A bare name in a mapping stands for the definition of that name. -/
inductive Refers (value : Json) : List String → Json → String → Prop where
  | ref {way : List String} {fields : List (String × Json)} {text : String}
      (hway : value.Leads way (.object fields)) (href : ("$ref", .string text) ∈ fields) :
      Refers value way (.object fields) text
  | entry {owner : List String} {entries : List (String × Json)} {key text : String}
      (hway : value.Leads (owner ++ ["discriminator", "mapping"]) (.object entries))
      (hentry : (key, .string text) ∈ entries) :
      Refers value (owner ++ ["discriminator", "mapping", key]) (.string text)
        (if SchemaRef.isBareName text then SchemaRef.ofName text else text)

theorem Refers.leads {value found : Json} {way : List String} {target : String}
    (h : value.Refers way found target) : value.Leads way found := by
  cases h with
  | ref hway _ => exact hway
  | entry hway hentry =>
      have hlast := hway.trans (.member hentry (.here _))
      rwa [List.append_assoc] at hlast

/-- What refers to something in a part does so in the whole. -/
theorem Refers.below {value part found : Json} {way below : List String} {target : String}
    (hpart : value.Leads way part) (h : part.Refers below found target) :
    value.Refers (way ++ below) found target := by
  cases h with
  | ref hway href => exact .ref (hpart.trans hway) href
  | @entry owner entries key text hway hentry =>
      rw [← List.append_assoc]
      refine .entry ?_ hentry
      rw [List.append_assoc]
      exact hpart.trans hway

/-- A string refers to something only where it is an entry of a mapping. -/
theorem Refers.length_of_string {value : Json} {way : List String} {text target : String}
    (h : value.Refers way (.string text) target) : 3 ≤ way.length := by
  cases h with
  | entry _ _ =>
      rw [List.length_append]
      exact Nat.le_add_left ..

end Json

namespace Mention

open Json (Refers)

theorem leads_mapping {fields entries : List (String × Json)} {discriminator : Json}
    (hlookup : fields.lookup "discriminator" = some discriminator)
    (hget : discriminator.get? "mapping" = some (.object entries)) :
    (Json.object fields).Leads ["discriminator", "mapping"] (.object entries) := by
  cases discriminator with
  | object members =>
      exact .member (Fields.mem_of_lookup hlookup) (.member (Fields.mem_of_lookup hget) (.here _))
  | _ => cases hget

/-- A mention refers to its target. -/
theorem exists_refers {value : Json} {place : Place} {mention : Mention}
    (h : mention ∈ all place value) : ∃ found, value.Refers mention.below found mention.target := by
  induction value using Json.induction generalizing place mention with
  | array items ih =>
      obtain ⟨index, item, hitem, inner, hinner, rfl⟩ := mem_allItems.1 h
      obtain ⟨found, hfound⟩ := ih item (List.mem_of_getElem? hitem) hinner
      refine ⟨found, ?_⟩
      rw [Nat.zero_add]
      exact Refers.below (.item hitem (.here _)) hfound
  | object fields ih =>
      rcases mem_all_object.1 h with href | hmapping | ⟨field, hfield, inner, hinner, rfl⟩
      · obtain ⟨text, hlookup, rfl⟩ := mem_ofRef_iff.1 href
        exact ⟨_, .ref (.here _) (Fields.mem_of_lookup hlookup)⟩
      · obtain ⟨discriminator, entries, key, text, hlookup, hget, hentry, rfl⟩ :=
          mem_ofMapping_iff.1 hmapping
        have hway : (Json.object fields).Leads ([] ++ ["discriminator", "mapping"])
            (.object entries) := leads_mapping hlookup hget
        exact ⟨_, .entry hway hentry⟩
      · obtain ⟨found, hfound⟩ := ih field hfield hinner
        exact ⟨found, Refers.below (.member hfield (.here _)) hfound⟩
  | _ => cases h

/-- What is mentioned in a part of a value is mentioned in the value. -/
theorem exists_place_of_leads {value part : Json} {way : List String} (h : value.Leads way part)
    (place : Place) : ∃ inside, ∀ mention ∈ all inside part,
      { mention with below := way ++ mention.below } ∈ all place value := by
  induction h generalizing place with
  | here => exact ⟨place, fun mention hmention => hmention⟩
  | @member fields key child found below hchild _ ih =>
      obtain ⟨inside, hinside⟩ := ih (place.member key)
      exact ⟨inside, fun mention hmention => mem_all_object.2 (.inr (.inr
        ⟨(key, child), hchild, _, hinside mention hmention, rfl⟩))⟩
  | @item items index child found below hchild _ ih =>
      obtain ⟨inside, hinside⟩ := ih place.item
      refine ⟨inside, fun mention hmention => mem_allItems.2
        ⟨index, child, hchild, _, hinside mention hmention, ?_⟩⟩
      rw [Nat.zero_add]
      rfl

/-- What refers to something is mentioned. -/
theorem exists_mem_all_of_refers {value found : Json} {way : List String} {target : String}
    (hordered : value.Ordered) (h : value.Refers way found target) (place : Place) :
    ∃ mention ∈ all place value, mention.below = way ∧ mention.target = target := by
  cases h with
  | @ref _ fields _ hway href =>
      obtain ⟨inside, hinside⟩ := exists_place_of_leads hway place
      have hlookup := (Json.ordered_object.1 (hway.ordered hordered)).1.lookup_eq href
      have hmention : (⟨[], inside.member "$ref", false, target⟩ : Mention) ∈
          all inside (.object fields) :=
        mem_all_object.2 (.inl (mem_ofRef_iff.2 ⟨target, hlookup, rfl⟩))
      exact ⟨_, hinside _ hmention, List.append_nil way, rfl⟩
  | @entry owner entries key text hway hentry =>
      obtain ⟨middle, howner, hmapping⟩ := hway.exists_of_append
      obtain ⟨fields, discriminator, rfl, hdiscriminator, hmapping⟩ := hmapping.exists_member
        (ne_toString_of_notDigit (c := 'd') (by decide) (by decide))
      obtain ⟨members, mapping, rfl, hmember, hmapping⟩ := hmapping.exists_member
        (ne_toString_of_notDigit (c := 'm') (by decide) (by decide))
      cases hmapping
      obtain ⟨inside, hinside⟩ := exists_place_of_leads howner place
      have hfields := Json.ordered_object.1 (howner.ordered hordered)
      have hmembers := Json.ordered_object.1 (hfields.2 _ hdiscriminator)
      have hmention : (⟨["discriminator", "mapping", key],
          ((inside.member "discriminator").member "mapping").member key, true, text⟩ : Mention) ∈
          all inside (.object fields) :=
        mem_all_object.2 (.inr (.inl (mem_ofMapping_iff.2 ⟨_, entries, key, text,
          hfields.1.lookup_eq hdiscriminator, hmembers.1.lookup_eq hmember, hentry, rfl⟩)))
      exact ⟨_, hinside _ hmention, rfl, rfl⟩

theorem below_within (segment : String) (mentions : List Mention) :
    (mentions.map (within segment)).map below = (mentions.map below).map (segment :: ·) := by
  rw [List.map_map, List.map_map]
  rfl

theorem below_allFields (place : Place) (fields : List (String × Json)) :
    (allFields place fields).map below = fields.flatMap fun field =>
      ((all (place.member field.1) field.2).map below).map (field.1 :: ·) := by
  induction fields with
  | nil => rfl
  | cons field rest ih => rw [allFields, List.map_append, below_within, ih, List.flatMap_cons]

theorem below_allItems (place : Place) (start : Nat) (items : List Json) :
    (allItems place start items).map below = (items.zipIdx start).flatMap fun item =>
      ((all place item.1).map below).map (toString item.2 :: ·) := by
  induction items generalizing start with
  | nil => rfl
  | cons item rest ih =>
      rw [allItems, List.map_append, below_within, ih, List.zipIdx_cons, List.flatMap_cons]

theorem ascending_mapping? {fields entries : List (String × Json)}
    (h : (Json.object fields).Ordered) (hmapping : Site.mapping? fields = some entries) :
    Fields.Ascending entries := by
  obtain ⟨discriminator, hlookup, hrest⟩ := Option.bind_eq_some_iff.1 hmapping
  obtain ⟨mapping, hget, hobject⟩ := Option.bind_eq_some_iff.1 hrest
  cases mapping with
  | object fields =>
      cases hobject
      exact (Json.ordered_object.1 ((leads_mapping hlookup hget).ordered h)).1
  | _ => cases hobject

/-- The entries of a mapping have different ways, since it has no double keys. -/
theorem nodup_below_ofMapping {fields : List (String × Json)} (h : (Json.object fields).Ordered)
    (place : Place) : ((ofMapping place fields).map below).Nodup := by
  rw [ofMapping]
  cases hmapping : Site.mapping? fields with
  | none => exact .nil
  | some entries =>
      rw [Option.getD_some, List.Nodup, List.pairwise_map, List.pairwise_filterMap]
      refine (ascending_mapping? h hmapping).imp fun {a b} hlt m hm n hn heq => ?_
      obtain ⟨key, value⟩ := a
      obtain ⟨other, value'⟩ := b
      cases value <;> cases hm
      cases value' <;> cases hn
      have hkey : key = other := by simpa using heq
      exact String.lt_irrefl _ (hkey ▸ hlt)

/-- An entry of a mapping is not found once more in the member that holds the mapping. -/
theorem below_ofMapping_ne {fields : List (String × Json)} (h : (Json.object fields).Ordered)
    {place : Place} {entry inner : Mention} {field : String × Json}
    (hentry : entry ∈ ofMapping place fields) (hfield : field ∈ fields)
    (hinner : inner ∈ all (place.member field.1) field.2) :
    entry.below ≠ field.1 :: inner.below := by
  intro heq
  obtain ⟨found, hfound⟩ := exists_refers hinner
  obtain ⟨_, entries, key, text, hlookup, hget, htext, rfl⟩ := mem_ofMapping_iff.1 hentry
  have hleads : (Json.object fields).Leads ["discriminator", "mapping", key] (.string text) :=
    (leads_mapping hlookup hget).trans (.member htext (.here _))
  dsimp only at heq
  rw [heq] at hleads
  obtain rfl := hleads.unique h (.member hfield hfound.leads)
  have hlong := hfound.length_of_string
  have hlength := congrArg List.length heq
  simp only [List.length_cons, List.length_nil] at hlength
  omega

/-- No way is mentioned twice. -/
theorem nodup_below {value : Json} (h : value.Ordered) (place : Place) :
    ((all place value).map below).Nodup := by
  induction value using Json.induction generalizing place with
  | array items ih =>
      rw [Json.ordered_array] at h
      rw [all, below_allItems]
      have hindices : (items.zipIdx.map fun item => toString item.2).Nodup := by
        have hmap := (List.nodup_range' (s := 0) (n := items.length)).map
          (fun m n => toString_nat_injective)
        rwa [← List.zipIdx_map_snd, List.map_map] at hmap
      refine nodup_flatMap_cons hindices fun item hitem => ?_
      have hmem := List.fst_mem_of_mem_zipIdx hitem
      exact ih item.1 hmem (h _ hmem) place.item
  | object fields ih =>
      have hfields := Json.ordered_object.1 h
      have hkeys : (fields.map (·.1)).Nodup := (NameMap.mk fields hfields.1).nodup_names
      rw [all, List.append_assoc, List.map_append, List.map_append, List.nodup_append,
        List.nodup_append]
      have hfield : ∀ mention ∈ allFields place fields, ∃ field ∈ fields,
          ∃ inner ∈ all (place.member field.1) field.2, mention.below = field.1 :: inner.below := by
        intro mention hmention
        obtain ⟨field, hfield, inner, hinner, rfl⟩ := mem_allFields.1 hmention
        exact ⟨field, hfield, inner, hinner, rfl⟩
      refine ⟨?ref, ⟨nodup_below_ofMapping h place, ?members, ?entries⟩, ?apart⟩
      case ref => 
        rw [ofRef]
        split
        · exact List.nodup_singleton _
        · exact .nil
      case members =>
        rw [below_allFields]
        exact nodup_flatMap_cons hkeys fun field hfield =>
          ih field hfield (hfields.2 field hfield) (place.member field.1)
      case entries =>
        intro way hentries way' hmembers heq
        obtain ⟨entry, hentry, rfl⟩ := List.mem_map.1 hentries
        obtain ⟨mention, hmention, rfl⟩ := List.mem_map.1 hmembers
        obtain ⟨field, hfield, inner, hinner, hbelow⟩ := hfield mention hmention
        exact below_ofMapping_ne h hentry hfield hinner (heq.trans hbelow)
      case apart => 
        intro way href way' hothers heq
        obtain ⟨mention, hmention, rfl⟩ := List.mem_map.1 href
        obtain ⟨text, _, rfl⟩ := mem_ofRef_iff.1 hmention
        subst heq
        rcases List.mem_append.1 hothers with hentries | hmembers
        · obtain ⟨entry, hentry, hbelow⟩ := List.mem_map.1 hentries
          obtain ⟨_, _, _, _, _, _, _, rfl⟩ := mem_ofMapping_iff.1 hentry
          cases hbelow
        · obtain ⟨mention, hmention, hnil⟩ := List.mem_map.1 hmembers
          obtain ⟨field, hfield, inner, hinner, hbelow⟩ := hfield mention hmention
          rw [hbelow] at hnil
          cases hnil
  | _ => exact .nil

end Mention

open Pointer (descend resolve?)

/-- What refers to something is reported once, at the pointer written from its way, and nothing else
is reported. The pointers are different, and each of them leads back to what refers. -/
theorem Site.all_reports {value : Json} (h : value.Ordered) :
    ∃ places : List (List String × String),
      (places.map (·.1)).Nodup ∧
      (∀ way target, (way, target) ∈ places ↔ ∃ found, value.Refers way found target) ∧
      Site.all "#" value = places.map (fun place => ⟨descend "#" place.1, place.2⟩) ∧
      ((Site.all "#" value).map Site.path).Nodup ∧
      (value.Countable → ∀ way found target, value.Refers way found target →
        resolve? value (descend "#" way) = some found) := by
  let mentions := Mention.all .root value
  have hways : (mentions.map Mention.below).Nodup := Mention.nodup_below h .root
  have hsites : Site.all "#" value = mentions.map (Mention.site "#") :=
    (Mention.map_site_all value .root "#").symm
  refine ⟨mentions.map fun mention => (mention.below, mention.target), ?ways, ?refers, ?sites,
    ?paths, fun hcount way found target hrefers => hrefers.leads.resolve? h hcount⟩
  case ways => rwa [List.map_map]
  case refers =>
    intro way target
    rw [List.mem_map]
    constructor
    · rintro ⟨mention, hmention, heq⟩
      cases heq
      exact Mention.exists_refers hmention
    · rintro ⟨found, hrefers⟩
      obtain ⟨mention, hmention, rfl, rfl⟩ := Mention.exists_mem_all_of_refers h hrefers .root
      exact ⟨mention, hmention, rfl⟩
  case sites =>
    rw [hsites, List.map_map]
    rfl
  case paths =>
    rw [hsites, List.map_map]
    have hpaths := hways.map (fun _ _ => Pointer.descend_injective)
    rwa [List.map_map] at hpaths

/-- A mapping with an entry called `$ref`, which makes an object with a `$ref` of it. Two keys need
escapes, and one key is empty. -/
def kennel : Json :=
  .record [
    ("", .array [.string "Cat", .record [("$ref", .string "#/components/schemas/Cat")]]),
    ("a/b", .record [
      ("discriminator", .record [
        ("mapping", .record [("$ref", .string "Dog"), ("x~y", .string "./cat.json")])])])]

/-- The mapping is reported under its own pointer, and so is each of its entries. -/
theorem Site.all_reports_kennel : kennel.Ordered ∧ kennel.Countable ∧
    (⟨"#/a~1b/discriminator/mapping", "Dog"⟩ : Site) ∈ Site.all "#" kennel ∧
    (⟨"#/a~1b/discriminator/mapping/$ref", "#/components/schemas/Dog"⟩ : Site) ∈
      Site.all "#" kennel ∧
    resolve? kennel "#/a~1b/discriminator/mapping/$ref" = some (.string "Dog") := by
  have hordered : kennel.Ordered := by
    simp only [kennel, Json.record, Json.ordered_object, Json.ordered_array, Json.ordered_string,
      Fields.Ascending, List.pairwise_cons, List.Pairwise.nil, List.forall_mem_cons,
      List.not_mem_nil, false_imp_iff, implies_true, and_true]
    decide
  have hcount : kennel.Countable := by
    simp only [kennel, Json.record, Json.countable_object, Json.countable_array,
      Json.countable_string, List.forall_mem_cons, List.not_mem_nil, false_imp_iff, implies_true,
      and_true]
    decide
  have hmapping : kennel.Leads ["a/b", "discriminator", "mapping"]
      (.object [("$ref", .string "Dog"), ("x~y", .string "./cat.json")]) :=
    .member (.tail _ (.head _)) (.member (.head _) (.member (.head _) (.here _)))
  obtain ⟨places, _, hplaces, hall, _, hresolve⟩ := Site.all_reports hordered
  have hreported : ∀ {way found target}, kennel.Refers way found target →
      (⟨descend "#" way, target⟩ : Site) ∈ Site.all "#" kennel := fun {way found target} hrefers => by
    rw [hall]
    exact List.mem_map_of_mem ((hplaces way target).2 ⟨found, hrefers⟩)
  have hentry : kennel.Refers (["a/b"] ++ ["discriminator", "mapping", "$ref"]) (.string "Dog")
      "#/components/schemas/Dog" :=
    .entry hmapping (.head _)
  exact ⟨hordered, hcount, hreported (.ref hmapping (.head _)), hreported hentry,
    hresolve hcount _ _ _ hentry⟩

end SchemaMerge
