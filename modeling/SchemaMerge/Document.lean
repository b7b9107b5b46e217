import SchemaMerge.Error
import SchemaMerge.Json.Printer
import SchemaMerge.Json.Reader
import SchemaMerge.NameMap

/-!
A description of an interface, taken apart at its container of schema definitions. `Document.toJson`
puts the parts together again: it undoes `Document.ofJson?` on ordered values, and is undone by it
(`Document.toJson_of_ofJson?`, `Document.ofJson?_toJson`).
-/

namespace SchemaMerge

structure Document where
  /-- The schema definitions by name. -/
  definitions : NameMap Json
  /-- The other sections of the components. -/
  sections : NameMap Json
  /-- The members of the root other than the components. -/
  rest : NameMap Json
  sections_schemas : sections.get? "schemas" = none
  rest_components : rest.get? "components" = none

namespace Document

@[ext]
theorem ext {d e : Document} (hd : d.definitions = e.definitions) (hs : d.sections = e.sections)
    (hr : d.rest = e.rest) : d = e := by
  cases d
  cases e
  cases hd
  cases hs
  cases hr
  rfl

/-- The document of the given parts. A section of definitions or components among the others is
left out. -/
def ofParts (definitions sections rest : NameMap Json) : Document where
  definitions
  sections := sections.erase "schemas"
  rest := rest.erase "components"
  sections_schemas := by simp [NameMap.get?_erase]
  rest_components := by simp [NameMap.get?_erase]

/-- The components of the document, the definitions among them. -/
def components (d : Document) : NameMap Json :=
  d.sections.insert "schemas" (.object d.definitions.entries)

def toJson (d : Document) : Json :=
  .object (d.rest.insert "components" (.object d.components.entries)).entries

/-- Takes a value apart. It has to be an object with an object of definitions. -/
def ofJson? (value : Json) : Except Error Document :=
  match value with
  | .object root =>
      match ((root.lookup "components").bind fun components => components.get? "schemas") with
      | some (.object definitions) =>
          let sections := ((root.lookup "components").bind Json.object?).getD []
          .ok (ofParts (.ofList definitions) (.ofList sections) (.ofList root))
      | some found => .error (.containerNotObject found)
      | none => .error .noContainer
  | _ => .error .rootNotObject

theorem ofJson?_toJson (d : Document) : ofJson? d.toJson = .ok d := by
  have hroot : (d.rest.insert "components" (.object d.components.entries)).entries.lookup
      "components" = some (.object d.components.entries) := by
    simpa [NameMap.get?] using d.rest.get?_insert "components" "components" _
  have hdefs : d.components.entries.lookup "schemas" = some (.object d.definitions.entries) := by
    simpa [NameMap.get?, components] using d.sections.get?_insert "schemas" "schemas" _
  simp only [toJson, ofJson?, hroot, Option.bind_some, Json.get?, hdefs, Json.object?,
    Option.getD_some, NameMap.ofList_entries, ofParts, Except.ok.injEq]
  exact ext rfl (NameMap.erase_insert _ d.sections_schemas)
    (NameMap.erase_insert _ d.rest_components)

theorem toJson_of_ofJson? {value : Json} {d : Document} (hv : value.Ordered)
    (h : ofJson? value = .ok d) : d.toJson = value := by
  unfold ofJson? at h
  split at h
  case h_2 => cases h
  case h_1 root =>
    split at h
    case h_2 => cases h
    case h_3 => cases h
    case h_1 definitions hd =>
      cases h
      obtain ⟨components, hc, hs⟩ := Option.bind_eq_some_iff.1 hd
      cases components with
      | object fields =>
          have ho : Json.Ordered (.object fields) := hv.2.lookup hc
          have hds : Json.Ordered (.object definitions) := ho.2.lookup hs
          have hsections : ((NameMap.ofList fields).erase "schemas").insert "schemas"
              (.object definitions) = NameMap.ofList fields :=
            NameMap.insert_erase ((NameMap.get?_ofList ho.1 "schemas").trans hs)
          have hrest : ((NameMap.ofList root).erase "components").insert "components"
              (.object fields) = NameMap.ofList root :=
            NameMap.insert_erase ((NameMap.get?_ofList hv.1 "components").trans hc)
          simp only [toJson, components, ofParts, hc, Option.bind_some, Json.object?,
            Option.getD_some, NameMap.entries_ofList hds.1, hsections, NameMap.entries_ofList ho.1,
            hrest, NameMap.entries_ofList hv.1]
      | _ => cases hs
/-- The document of a JSON text. -/
def read? (text : String) : Except Error Document :=
  match Json.read? text with
  | some value => ofJson? value
  | none => .error .malformedJson

def definition? (d : Document) (name : String) : Option Json :=
  d.definitions.get? name

def definitionCount (d : Document) : Nat :=
  d.definitions.size

/-- Length of the compact text in bytes. -/
def byteSize (d : Document) : Nat :=
  d.toJson.byteSize

/-- The same document with other definitions. -/
def withDefinitions (d : Document) (definitions : NameMap Json) : Document :=
  { d with definitions }

/-- Every reference site, in document order. -/
def sites (d : Document) : List Site :=
  Site.all "#" d.toJson

/-- Whether a reference does not enter the definitions or points at something. A reference to a
whole definition is looked up by name, one that goes deeper is resolved. -/
def resolves (d : Document) (root : Json) (reference : String) : Bool :=
  match SchemaRef.split? reference with
  | none => true
  | some (name, "") => d.definitions.contains name
  | some _ => (Pointer.resolve? root reference).isSome

/-- The reference sites that point at nothing, in document order. -/
def danglingSites (d : Document) : List Site :=
  let root := d.toJson
  (Site.all "#" root).filter fun site => !d.resolves root site.target

/-- How many reference sites point at or into each definition. -/
def referenceCounts (d : Document) : NameMap Nat :=
  (d.sites.filterMap fun site => SchemaRef.split? site.target).foldl
    (fun counts entered =>
      counts.insert entered.1 (((counts.get? entered.1).getD 0) + 1)) .empty

end Document

end SchemaMerge
