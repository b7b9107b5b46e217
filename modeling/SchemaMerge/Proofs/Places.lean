import SchemaMerge.Proofs.Passes
import SchemaMerge.Proofs.SchemaEdit

/-!
What the scan for references and the repointing of references have to do with each other. The scan
goes through every object and array; the repointing follows the grammar of a document and the
keywords of schemas, and changes strings. `Place` says for every value in a document what it stands
for, so that the repointing is a change of each string according to its place
(`Document.toJson_repointed`). The scan finds its sites by where strings stand and not by what they
say. So the sites of a repointed document are those that it had, each with its new text
(`Document.mentions_repointed`).
-/

namespace SchemaMerge

open Schema (edit editField roleUnder)

/-- What a value in a document stands for. -/
inductive Place where
  /-- The whole document. -/
  | root
  | components
  /-- The container of the schema definitions. -/
  | definitions
  /-- A part around the schemas. -/
  | part (part : Part)
  /-- A value in a schema that is not reached by way of a keyword. -/
  | node (role : Schema.Role)
  /-- What stands under a keyword of a schema. -/
  | under (keyword : String)
  /-- The `$ref` of a schema. -/
  | reference
  /-- The discriminator of a schema. -/
  | discriminator
  /-- The mapping of a discriminator. -/
  | mapping
  /-- A value in such a mapping. -/
  | entry
  deriving DecidableEq, Repr

namespace Place

/-- A schema is a node, wherever the grammar leads to it. -/
def ofPart (part : Part) : Place :=
  if part = .schema then node .schema else .part part

/-- What stands under a key of a schema node, or of an object or array of schemas. -/
def inNode (role : Schema.Role) (key : String) : Place :=
  match role with
  | .schema =>
      if key = "$ref" then reference
      else if key = "discriminator" then discriminator
      else under key
  | role => node role.member

/-- What stands under a key of an object. -/
def member (place : Place) (key : String) : Place :=
  match place with
  | root => if key = "components" then components else ofPart (Part.ofRoot key)
  | components => if key = "schemas" then definitions else ofPart (Part.ofSection key)
  | definitions => node .schema
  | part inner => ofPart (inner.member key)
  | node role => inNode role key
  | under keyword => inNode (roleUnder keyword (.object [])) key
  | discriminator => if key = "mapping" then mapping else node .leaf
  | mapping => entry
  | reference => node .leaf
  | entry => node .leaf

/-- What the items of an array are. -/
def item (place : Place) : Place :=
  match place with
  | part inner => ofPart inner.item
  | node role => node role.item
  | under keyword => node (roleUnder keyword (.array [])).item
  | _ => node .leaf

/-- What the scan takes for an entry of a mapping is never the `$ref` of a schema. -/
theorem member_mapping_ne (place : Place) (key : String) :
    ((place.member "discriminator").member "mapping").member key ≠ reference := by
  have hpart : ∀ inner, ofPart inner ≠ reference := by
    intro inner
    rw [ofPart]
    split <;> simp
  have hnode : ∀ role, ((inNode role "discriminator").member "mapping").member key ≠ reference := by
    intro role
    cases role <;> simp [inNode, member, Schema.Role.member, roleUnder, Schema.mapKeywords,
      Schema.singleKeywords]
  cases place with
  | node role => exact hnode role
  | under keyword => exact hnode _
  | part inner =>
      cases inner <;> simp [member, ofPart, Part.member] <;> exact hpart _
  | root => exact hpart _
  | components => exact hpart _
  | definitions => simp [member, inNode, roleUnder, Schema.mapKeywords, Schema.singleKeywords]
  | _ => simp [member, inNode, Schema.Role.member]

end Place

namespace Json

variable (f : Place → String → String)

mutual

/-- A value with other strings, each as its place demands. -/
def retext (place : Place) : Json → Json
  | .string text => .string (f place text)
  | .array items => .array (retextItems place.item items)
  | .object fields => .object (retextFields place fields)
  | value => value

def retextItems (place : Place) : List Json → List Json
  | [] => []
  | item :: rest => retext place item :: retextItems place rest

def retextFields (place : Place) : List (String × Json) → List (String × Json)
  | [] => []
  | (key, value) :: rest => (key, retext (place.member key) value) :: retextFields place rest

end

theorem retext_array (place : Place) (items : List Json) :
    retext f place (.array items) = .array (items.map (retext f place.item)) := by
  rw [retext]
  refine congrArg Json.array ?_
  induction items with
  | nil => rfl
  | cons item rest ih => rw [retextItems, ih, List.map_cons]

theorem retext_object (place : Place) (fields : List (String × Json)) :
    retext f place (.object fields) =
      .object (Fields.mapValues (fun key => retext f (place.member key)) fields) := by
  rw [retext]
  refine congrArg Json.object ?_
  induction fields with
  | nil => rfl
  | cons field rest ih =>
      rw [retextFields, ih]
      rfl

theorem get?_retext (place : Place) (value : Json) (key : String) :
    (retext f place value).get? key = (value.get? key).map (retext f (place.member key)) := by
  cases value with
  | object fields =>
      rw [retext_object]
      exact Fields.lookup_mapValues ..
  | array items => rfl
  | _ => rfl

theorem object?_retext (place : Place) (value : Json) :
    (retext f place value).object? =
      value.object?.map (Fields.mapValues fun key => retext f (place.member key)) := by
  cases value with
  | object fields =>
      rw [retext_object]
      rfl
  | _ => rfl

end Json

/-- A string that refers to something. -/
structure Mention where
  /-- The segments that lead to its site. -/
  below : List String
  /-- What the string stands for. -/
  place : Place
  /-- Whether the scan takes it for an entry of a discriminator mapping. -/
  entry : Bool
  text : String
  deriving DecidableEq, Repr

namespace Mention

/-- The reference in the form of a pointer. -/
def target (mention : Mention) : String :=
  if mention.entry then Site.mappingTarget mention.text else mention.text

/-- The site of a mention in a value whose pointer is `path`. -/
def site (path : String) (mention : Mention) : Site :=
  ⟨Pointer.descend path mention.below, mention.target⟩

/-- The mention in a value of which its own value is a member or an item. -/
def within (segment : String) (mention : Mention) : Mention :=
  { mention with below := segment :: mention.below }

/-- The mention with another text. -/
def retext (f : Place → String → String) (mention : Mention) : Mention :=
  { mention with text := f mention.place mention.text }

/-- The `$ref` of an object. -/
def ofRef (place : Place) (fields : List (String × Json)) : List Mention :=
  match fields.lookup "$ref" with
  | some (.string text) => [⟨[], place.member "$ref", false, text⟩]
  | _ => []

/-- The entries of the discriminator mapping of an object. -/
def ofMapping (place : Place) (fields : List (String × Json)) : List Mention :=
  ((Site.mapping? fields).getD []).filterMap fun entry =>
    match entry.2 with
    | .string text =>
        some ⟨["discriminator", "mapping", entry.1],
          ((place.member "discriminator").member "mapping").member entry.1, true, text⟩
    | _ => none

mutual

/-- All mentions in a value, in the order of the scan. -/
def all (place : Place) : Json → List Mention
  | .object fields => ofRef place fields ++ ofMapping place fields ++ allFields place fields
  | .array items => allItems place.item 0 items
  | _ => []

def allFields (place : Place) : List (String × Json) → List Mention
  | [] => []
  | (key, value) :: rest => (all (place.member key) value).map (within key) ++ allFields place rest

def allItems (place : Place) (index : Nat) : List Json → List Mention
  | [] => []
  | item :: rest =>
      (all place item).map (within (toString index)) ++ allItems place (index + 1) rest

end

/-- The scan finds the mentions, wherever the value stands. -/
theorem map_site_all (value : Json) (place : Place) (path : String) :
    (all place value).map (site path) = Site.all path value := by
  induction value using Json.induction generalizing place path with
  | array items ih =>
      rw [all, Site.all]
      generalize 0 = index
      induction items generalizing index with
      | nil => rfl
      | cons item rest ihRest =>
          rw [allItems, Site.allItems, List.map_append, List.map_map,
            ihRest fun other hother => ih other (List.mem_cons_of_mem _ hother)]
          exact congrArg (· ++ _) (ih item List.mem_cons_self place.item _)
  | object fields ih =>
      have href : (ofRef place fields).map (site path) = Site.ofRef path fields := by
        rw [ofRef, Site.ofRef]
        cases fields.lookup "$ref" with
        | none => rfl
        | some value => cases value <;> rfl
      have hmapping : (ofMapping place fields).map (site path) = Site.ofMapping path fields := by
        rw [ofMapping, Site.ofMapping, List.map_filterMap]
        refine congrArg (fun g => List.filterMap g _) (funext fun entry => ?_)
        cases entry.2 <;> rfl
      rw [all, Site.all, List.map_append, List.map_append, href, hmapping]
      congr 1
      clear href hmapping
      induction fields with
      | nil => rfl
      | cons field rest ihRest =>
          obtain ⟨key, value⟩ := field
          rw [allFields, Site.allFields, List.map_append, List.map_map,
            ihRest fun other hother => ih other (List.mem_cons_of_mem _ hother)]
          exact congrArg (· ++ _) (ih (key, value) List.mem_cons_self (place.member key) _)
  | _ => rfl

theorem ofRef_retext (f : Place → String → String) (place : Place)
    (fields : List (String × Json)) :
    ofRef place (Fields.mapValues (fun key => Json.retext f (place.member key)) fields) =
      (ofRef place fields).map (retext f) := by
  rw [ofRef, ofRef, Fields.lookup_mapValues]
  cases fields.lookup "$ref" with
  | none => rfl
  | some value => cases value <;> rfl

theorem ofMapping_retext (f : Place → String → String) (place : Place)
    (fields : List (String × Json)) :
    ofMapping place (Fields.mapValues (fun key => Json.retext f (place.member key)) fields) =
      (ofMapping place fields).map (retext f) := by
  have hmapping : Site.mapping?
      (Fields.mapValues (fun key => Json.retext f (place.member key)) fields) =
        (Site.mapping? fields).map (Fields.mapValues fun key =>
          Json.retext f (((place.member "discriminator").member "mapping").member key)) := by
    rw [Site.mapping?, Site.mapping?, Fields.lookup_mapValues]
    cases fields.lookup "discriminator" with
    | none => rfl
    | some discriminator =>
        rw [Option.map_some, Option.bind_some, Option.bind_some, Json.get?_retext]
        cases discriminator.get? "mapping" with
        | none => rfl
        | some entries => exact Json.object?_retext f _ entries
  rw [ofMapping, ofMapping, hmapping]
  cases Site.mapping? fields with
  | none => rfl
  | some entries =>
      rw [Option.map_some, Option.getD_some, Option.getD_some, Fields.mapValues,
        List.filterMap_map, List.map_filterMap]
      refine congrArg (fun g => List.filterMap g entries) (funext fun entry => ?_)
      obtain ⟨key, value⟩ := entry
      cases value <;> rfl

/-- Other strings are mentioned where strings were mentioned before. -/
theorem all_retext (f : Place → String → String) (value : Json) (place : Place) :
    all place (value.retext f place) = (all place value).map (retext f) := by
  have hwithin : ∀ (segment : String) (mentions : List Mention),
      (mentions.map (retext f)).map (within segment) =
        (mentions.map (within segment)).map (retext f) := by
    intro segment mentions
    rw [List.map_map, List.map_map]
    rfl
  induction value using Json.induction generalizing place with
  | array items ih =>
      rw [Json.retext_array, all, all]
      generalize 0 = index
      induction items generalizing index with
      | nil => rfl
      | cons item rest ihRest =>
          rw [List.map_cons, allItems, allItems, List.map_append, ← hwithin,
            ih item List.mem_cons_self,
            ihRest fun other hother => ih other (List.mem_cons_of_mem _ hother)]
  | object fields ih =>
      rw [Json.retext_object, all, all, List.map_append, List.map_append, ofRef_retext,
        ofMapping_retext]
      congr 1
      induction fields with
      | nil => rfl
      | cons field rest ihRest =>
          obtain ⟨key, value⟩ := field
          rw [Fields.mapValues_cons, allFields, allFields, List.map_append, ← hwithin,
            ih (key, value) List.mem_cons_self,
            ihRest fun other hother => ih other (List.mem_cons_of_mem _ hother)]
  | _ => rfl

end Mention

namespace Part

variable (f : Json → Json) {part : Part}

theorem mapSchemas_schema (value : Json) : mapSchemas f .schema value = f value := by
  cases value <;> simp [mapSchemas]

theorem mapSchemas_array (h : part ≠ .schema) (items : List Json) :
    part.mapSchemas f (.array items) = .array (items.map (part.item.mapSchemas f)) := by
  rw [mapSchemas, if_neg h]
  refine congrArg Json.array ?_
  induction items with
  | nil => rfl
  | cons item rest ih => rw [mapItems, ih, List.map_cons]

theorem mapSchemas_object (h : part ≠ .schema) (fields : List (String × Json)) :
    part.mapSchemas f (.object fields) =
      .object (Fields.mapValues (fun key => (part.member key).mapSchemas f) fields) := by
  rw [mapSchemas, if_neg h]
  refine congrArg Json.object ?_
  induction fields with
  | nil => rfl
  | cons field rest ih =>
      rw [mapMembers, ih]
      rfl

end Part

namespace RenameMap

variable (map : RenameMap)

/-- What a string in the given place says after the renames. -/
def textAt (place : Place) (text : String) : String :=
  match place with
  | .reference => map.reference text
  | .entry => map.mappingText text
  | _ => text

/-- A value that is not made of schemas keeps its strings. -/
theorem retext_leaf (value : Json) : value.retext map.textAt (.node .leaf) = value := by
  induction value using Json.induction with
  | array items ih =>
      rw [Json.retext_array]
      exact congrArg Json.array ((List.map_congr_left ih).trans (List.map_id' items))
  | object fields ih =>
      rw [Json.retext_object]
      exact congrArg Json.object (Fields.mapValues_eq_self ih)
  | _ => rfl

theorem retext_array_eq_self {place : Place} (h : place.item = .node .leaf) (items : List Json) :
    (Json.array items).retext map.textAt place = .array items := by
  rw [Json.retext_array, h]
  exact congrArg Json.array (List.map_id'' map.retext_leaf items)

/-- A value under a keyword is what the keyword says. -/
theorem retext_under (keyword : String) (value : Json) :
    value.retext map.textAt (.under keyword) =
      value.retext map.textAt (.node (roleUnder keyword value)) := by
  cases value with
  | array items =>
      rw [Json.retext_array, Json.retext_array]
      rfl
  | object fields =>
      rw [Json.retext_object, Json.retext_object]
      rfl
  | _ => rfl

/-- Of the place of a string that is repointed, only the string itself matters. -/
theorem retext_string {place : Place} (hitem : place.item = .node .leaf)
    (hmember : ∀ key, place.member key = .node .leaf) (value : Json) :
    value.retext map.textAt place = onString (map.textAt place) value := by
  cases value with
  | array items => exact map.retext_array_eq_self hitem items
  | object fields =>
      rw [Json.retext_object]
      refine congrArg Json.object (Fields.mapValues_eq_self fun field _ => ?_)
      rw [hmember, retext_leaf]
  | _ => rfl

theorem retext_mapping (value : Json) :
    value.retext map.textAt .mapping = map.mapping value := by
  cases value with
  | array items => exact map.retext_array_eq_self rfl items
  | object entries =>
      rw [Json.retext_object]
      exact congrArg Json.object (Fields.mapValues_congr fun entry _ =>
        map.retext_string rfl (fun _ => rfl) entry.2)
  | _ => rfl

theorem retext_discriminator (value : Json) :
    value.retext map.textAt .discriminator = map.discriminator value := by
  cases value with
  | array items => exact map.retext_array_eq_self rfl items
  | object fields =>
      rw [Json.retext_object]
      refine congrArg Json.object (Fields.mapValues_congr fun field _ => ?_)
      rw [Place.member]
      split
      · exact map.retext_mapping field.2
      · exact map.retext_leaf field.2
  | _ => rfl

theorem retext_member (keyword : String) (value : Json) :
    value.retext map.textAt (Place.inNode .schema keyword) =
      map.keyword keyword (value.retext map.textAt (.node (roleUnder keyword value))) := by
  rw [Place.inNode, RenameMap.keyword]
  split
  case isTrue href =>
    have hleaf : roleUnder keyword value = .leaf := by
      subst href
      cases value <;> simp [roleUnder] <;> decide
    rw [hleaf, retext_leaf]
    exact map.retext_string rfl (fun _ => rfl) value
  case isFalse =>
    split
    case isTrue hdiscriminator =>
      have hleaf : roleUnder keyword value = .leaf := by
        subst hdiscriminator
        cases value <;> simp [roleUnder] <;> decide
      rw [hleaf, retext_leaf, retext_discriminator]
    case isFalse => exact map.retext_under keyword value

/-- Repointing a schema changes its strings according to their places. -/
theorem edit_eq_retext (value : Json) (role : Schema.Role) :
    edit (Fields.mapValues map.keyword) role value = value.retext map.textAt (.node role) := by
  induction value using Json.induction generalizing role with
  | array items ih =>
      rw [Schema.edit_array, Json.retext_array]
      exact congrArg Json.array (List.map_congr_left fun item hitem => ih item hitem role.item)
  | object fields ih =>
      rw [Json.retext_object]
      by_cases hrole : role = .schema
      · subst hrole
        rw [Schema.edit_node, Fields.mapValues_mapValues]
        refine congrArg Json.object (Fields.mapValues_congr fun field hfield => ?_)
        rw [editField, ih field hfield]
        exact (map.retext_member field.1 field.2).symm
      · rw [Schema.edit_object _ hrole]
        refine congrArg Json.object (Fields.mapValues_congr fun field hfield => ?_)
        rw [ih field hfield]
        cases role with
        | schema => exact absurd rfl hrole
        | _ => rfl
  | _ => rfl

theorem schema_eq_retext (value : Json) :
    map.schema value = value.retext map.textAt (.node .schema) := by
  rw [schema, Schema.fold_ofEdit, edit_eq_retext]

/-- And so does repointing the schemas of a part. -/
theorem mapSchemas_eq_retext (value : Json) (part : Part) :
    part.mapSchemas map.schema value = value.retext map.textAt (.ofPart part) := by
  induction value using Json.induction generalizing part with
  | array items ih =>
      by_cases hpart : part = .schema
      · rw [hpart, Part.mapSchemas_schema]
        exact map.schema_eq_retext _
      rw [Part.mapSchemas_array _ hpart, Place.ofPart, if_neg hpart, Json.retext_array]
      exact congrArg Json.array (List.map_congr_left fun item hitem => ih item hitem part.item)
  | object fields ih =>
      by_cases hpart : part = .schema
      · rw [hpart, Part.mapSchemas_schema]
        exact map.schema_eq_retext _
      rw [Part.mapSchemas_object _ hpart, Place.ofPart, if_neg hpart, Json.retext_object]
      refine congrArg Json.object (Fields.mapValues_congr fun field hfield => ?_)
      exact ih field hfield (part.member field.1)
  | _ =>
      by_cases hpart : part = .schema
      · rw [hpart, Part.mapSchemas_schema]
        exact map.schema_eq_retext _
      simp [Part.mapSchemas, hpart, Place.ofPart, Json.retext, textAt]

end RenameMap

namespace Document

/-- The document of a pass before references are repointed: the new definitions are there, and those
that are sent to another name are not. -/
def rearranged (document : Document) (map : RenameMap) (created : NameMap Json) : Document :=
  document.withDefinitions (map.withoutAliases created)

/-- A repointed document is the document with other strings, each as its place demands. -/
theorem toJson_repointed (document : Document) (map : RenameMap) (created : NameMap Json) :
    (document.repointed map created).toJson =
      (document.rearranged map created).toJson.retext map.textAt .root := by
  have hdefinitions : (document.repointed map created).definitions =
      (map.withoutAliases created).map fun _ => Json.retext map.textAt (.node .schema) := by
    apply NameMap.ext_get?
    intro name
    rw [get?_repointed_definitions, NameMap.get?_map, RenameMap.get?_withoutAliases,
      funext map.schema_eq_retext, apply_ite (Option.map _), Option.map_none]
  have hcomponents : (document.rearranged map created).components.map
      (fun key => Json.retext map.textAt (Place.member .components key)) =
        (document.repointed map created).components := by
    refine (NameMap.map_insert (g := fun name => (Part.ofSection name).mapSchemas map.schema)
      (fun name value _ hname => ?_) _).trans ?_
    · rw [map.mapSchemas_eq_retext, Place.member, if_neg hname]
    · rw [components, hdefinitions, Json.retext_object]
      rfl
  have hroot : ((document.rearranged map created).rest.insert "components"
      (.object (document.rearranged map created).components.entries)).map
        (fun key => Json.retext map.textAt (Place.member .root key)) =
      (document.repointed map created).rest.insert "components"
        (.object (document.repointed map created).components.entries) := by
    refine (NameMap.map_insert (g := fun name => (Part.ofRoot name).mapSchemas map.schema)
      (fun name value _ hname => ?_) _).trans ?_
    · rw [map.mapSchemas_eq_retext, Place.member, if_neg hname]
    · rw [← hcomponents, Json.retext_object]
      rfl
  rw [toJson, toJson, Json.retext_object]
  exact congrArg (fun m : NameMap Json => Json.object m.entries) hroot.symm

/-- All mentions in a document, in the order of the scan. -/
def mentions (document : Document) : List Mention :=
  Mention.all .root document.toJson

theorem map_site_mentions (document : Document) :
    document.mentions.map (Mention.site "#") = document.sites :=
  Mention.map_site_all document.toJson .root "#"

/-- Repointing changes what is said where something is mentioned, and nothing else. -/
theorem mentions_repointed (document : Document) (map : RenameMap) (created : NameMap Json) :
    (document.repointed map created).mentions =
      (document.rearranged map created).mentions.map (Mention.retext map.textAt) := by
  rw [mentions, toJson_repointed, Mention.all_retext]
  rfl

end Document

end SchemaMerge
