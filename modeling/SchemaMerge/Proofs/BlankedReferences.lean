import SchemaMerge.Proofs.Composition

/-!
What a rename map leaves alone. Of the strings in a document only those can change that stand under
`$ref`, or in the mapping of a discriminator. So when these are made blank, a repointed document is
the document that it comes from, with the definitions that are created and without those that go
(`Document.repoint?_blanked`). Nothing else is lost on the way, added or moved.
-/

namespace SchemaMerge

/-- Whether a string is a reference by the keys above it, the last one first: it stands under
`$ref`, or it is an entry of the mapping of a discriminator. -/
def saysReference : List String → Bool
  | "$ref" :: _ => true
  | _ :: "mapping" :: "discriminator" :: _ => true
  | _ => false

theorem saysReference_entry (key : String) (above : List String) :
    saysReference (key :: "mapping" :: "discriminator" :: above) = true := by
  by_cases hkey : key = "$ref"
  · rw [hkey]
    rfl
  · rw [saysReference]
    exact hkey

namespace Json

mutual

/-- A value with blanks for its references. The keys are those above the value, up to the next
array. -/
def blanked (keys : List String) : Json → Json
  | .string text => .string (if saysReference keys then "" else text)
  | .array items => .array (blankedItems items)
  | .object fields => .object (blankedFields keys fields)
  | value => value

def blankedItems : List Json → List Json
  | [] => []
  | item :: rest => blanked [] item :: blankedItems rest

def blankedFields (keys : List String) : List (String × Json) → List (String × Json)
  | [] => []
  | (key, value) :: rest => (key, blanked (key :: keys) value) :: blankedFields keys rest

end

theorem blanked_array (keys : List String) (items : List Json) :
    blanked keys (.array items) = .array (items.map (blanked [])) := by
  rw [blanked]
  refine congrArg Json.array ?_
  induction items with
  | nil => rfl
  | cons item rest ih => rw [blankedItems, ih, List.map_cons]

theorem blanked_object (keys : List String) (fields : List (String × Json)) :
    blanked keys (.object fields) =
      .object (Fields.mapValues (fun key => blanked (key :: keys)) fields) := by
  rw [blanked]
  refine congrArg Json.object ?_
  induction fields with
  | nil => rfl
  | cons field rest ih =>
      rw [blankedFields, ih]
      rfl

end Json

namespace Place

/-- What a value stands for agrees with the keys above it. -/
def Below (place : Place) (keys : List String) : Prop :=
  match place with
  | reference => ∃ above, keys = "$ref" :: above
  | discriminator => ∃ above, keys = "discriminator" :: above
  | mapping => ∃ above, keys = "mapping" :: "discriminator" :: above
  | entry => ∃ key above, keys = key :: "mapping" :: "discriminator" :: above
  | _ => True

theorem below_ofPart (part : Part) (keys : List String) : (ofPart part).Below keys := by
  rw [ofPart]
  split <;> trivial

theorem below_inNode (role : Schema.Role) (key : String) (keys : List String) :
    (inNode role key).Below (key :: keys) := by
  cases role with
  | schema =>
      rw [inNode]
      split
      case isTrue hkey => exact ⟨keys, hkey ▸ rfl⟩
      case isFalse =>
        split
        case isTrue hkey => exact ⟨keys, hkey ▸ rfl⟩
        case isFalse => trivial
  | _ => trivial

/-- They agree below one more key as well. -/
theorem Below.member {place : Place} {keys : List String} (h : place.Below keys) (key : String) :
    (place.member key).Below (key :: keys) := by
  cases place with
  | root =>
      rw [Place.member]
      split
      · trivial
      · exact below_ofPart _ _
  | components =>
      rw [Place.member]
      split
      · trivial
      · exact below_ofPart _ _
  | part inner => exact below_ofPart _ _
  | node role => exact below_inNode role key keys
  | under keyword => exact below_inNode _ key keys
  | discriminator =>
      obtain ⟨above, rfl⟩ := h
      rw [Place.member]
      split
      case isTrue hkey => exact ⟨above, hkey ▸ rfl⟩
      case isFalse => trivial
  | mapping =>
      obtain ⟨above, rfl⟩ := h
      exact ⟨key, above, rfl⟩
  | _ => trivial

theorem below_item (place : Place) (keys : List String) : place.item.Below keys := by
  cases place with
  | part inner => exact below_ofPart _ _
  | _ => trivial

end Place

/-- Only references are replaced. -/
theorem RenameMap.textAt_of_not_saysReference (map : RenameMap) {place : Place}
    {keys : List String} (h : place.Below keys) (hkeys : saysReference keys = false)
    (text : String) : map.textAt place text = text := by
  cases place with
  | reference =>
      obtain ⟨above, rfl⟩ := h
      cases hkeys
  | entry =>
      obtain ⟨key, above, rfl⟩ := h
      rw [saysReference_entry] at hkeys
      cases hkeys
  | _ => rfl

/-- Strings that are no references stay. -/
theorem RenameMap.blanked_retext (map : RenameMap) (value : Json) {place : Place}
    {keys : List String} (h : place.Below keys) :
    (value.retext map.textAt place).blanked keys = value.blanked keys := by
  induction value using Json.induction generalizing place keys with
  | null => rfl
  | bool => rfl
  | number => rfl
  | string text =>
      rw [Json.retext, Json.blanked, Json.blanked]
      cases hkeys : saysReference keys with
      | true => rfl
      | false => rw [map.textAt_of_not_saysReference h hkeys]
  | array items ih =>
      rw [Json.retext_array, Json.blanked_array, Json.blanked_array, List.map_map]
      exact congrArg Json.array (List.map_congr_left fun item hitem =>
        ih item hitem (place.below_item []))
  | object fields ih =>
      rw [Json.retext_object, Json.blanked_object, Json.blanked_object, Fields.mapValues_mapValues]
      exact congrArg Json.object (Fields.mapValues_congr fun field hfield =>
        ih field hfield (h.member field.1))

namespace Document

/-- A rename map creates definitions and takes definitions away, and besides it changes references
only. An empty one changes nothing. -/
theorem repoint?_blanked {document out : Document} {map : RenameMap}
    (h : document.repoint? map = .ok out) :
    (∃ created, map.withCreated? document.definitions = .ok created ∧
      out.toJson.blanked [] =
        (document.withDefinitions (map.withoutAliases created)).toJson.blanked []) ∧
    (map.isEmpty → out = document) := by
  obtain ⟨created, hcreated, hout, _⟩ := repoint?_eq_ok_iff.1 h
  refine ⟨⟨created, hcreated, ?_⟩, fun hempty => ?_⟩
  · have hroot : Place.root.Below [] := trivial
    rw [hout, toJson_repointed, map.blanked_retext _ hroot]
    rfl
  · rw [repoint?, if_pos hempty, pure_eq_ok] at h
    exact h.symm

/-- A definition with both kinds of references to another one. -/
def referring : Document :=
  .ofSchemas [
    ("Pet", .record [("type", .string "object")]),
    ("Owner", .record [
      ("discriminator", .record [
        ("mapping", .record [("pet", .string "Pet")]),
        ("propertyName", .string "kind")]),
      ("properties", .record [("pet", .refTo "#/components/schemas/Pet")])])]

/-- The definition `Pet` is renamed. -/
def petRename : RenameMap :=
  ⟨.ofList [("Pet", "Animal")], .ofList [("Animal", "Pet")]⟩

set_option maxRecDepth 100000 in
theorem repoint?_blanked_referring : ∃ out, referring.repoint? petRename = .ok out ∧
    out.definitions.names = ["Animal", "Owner"] ∧
    (∃ created, petRename.withCreated? referring.definitions = .ok created ∧
      out.toJson.blanked [] =
        (referring.withDefinitions (petRename.withoutAliases created)).toJson.blanked []) ∧
    (petRename.isEmpty → out = referring) := by
  obtain ⟨out, hout, hnames⟩ : ∃ out, referring.repoint? petRename = .ok out ∧
      out.definitions.names = ["Animal", "Owner"] :=
    exists_ok_of_toOption (by decide +kernel)
  exact ⟨out, hout, hnames, repoint?_blanked hout⟩

end Document

end SchemaMerge
