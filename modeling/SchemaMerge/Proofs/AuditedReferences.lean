import SchemaMerge.Proofs.Mentions

/-!
The audit against the resolver. The audit takes a reference apart and compares names, the resolver
reads it segment by segment and goes through objects and arrays. On a reference that names a
definition they agree, however the name is written and whatever stands below it
(`Document.resolves_eq_isSome_resolve?`). A reference with nothing between the start and the next
slash names no definition, not even one whose name is empty, and the audit leaves it alone
(`Document.mem_danglingTexts_iff`).
-/

namespace SchemaMerge

namespace Document

variable {document : Document}

/-- The audit reports the text of a site iff what it says does not resolve. -/
theorem mem_danglingTexts {site : Site} (hsite : site ∈ document.sites) :
    site.target ∈ document.danglingSites.map (·.target) ↔
      document.resolves document.toJson site.target = false := by
  rw [List.mem_map]
  constructor
  · rintro ⟨other, hother, heq⟩
    rw [← heq]
    exact (mem_danglingSites_iff.1 hother).2
  · exact fun hdangles => ⟨site, mem_danglingSites_iff.2 ⟨hsite, hdangles⟩, rfl⟩

/-- Of the references that begin as those to definitions do, the audit reports those that go on with
a name and do not resolve. So it agrees with the resolver on all that go on with a name, and it
reports none of the others. -/
theorem mem_danglingTexts_iff {site : Site} (hsite : site ∈ document.sites) {rest : String}
    (hrest : site.target = SchemaRef.start ++ rest) :
    site.target ∈ document.danglingSites.map (·.target) ↔
      SchemaRef.BeginsWithName rest ∧ Pointer.resolve? document.toJson site.target = none := by
  rw [mem_danglingTexts hsite]
  cases hsplit : SchemaRef.split? site.target with
  | none =>
      have hnameless : ¬SchemaRef.BeginsWithName rest := by
        rwa [← SchemaRef.split?_start_append_eq_none_iff, ← hrest]
      rw [resolves_of_split?_eq_none hsplit]
      simp [hnameless]
  | some entered =>
      have hnamed : SchemaRef.BeginsWithName rest := by
        by_contra hnameless
        rw [← SchemaRef.split?_start_append_eq_none_iff, ← hrest, hsplit] at hnameless
        cases hnameless
      rw [resolves_eq_isSome_resolve? hsplit, Option.isSome_eq_false_iff, Option.isNone_iff_eq_none]
      exact (and_iff_right hnamed).symm

/-- References in odd spellings: a tilde that stands for itself, and an index with a sign. One of
them goes beyond the end of the list. -/
def oddlySpelled : Document :=
  ofSchemas [
    ("Per~son/a", .record [("allOf", .array [.record [("type", .string "string")]])]),
    ("Q", .record [("anyOf", .array [
      .refTo "#/components/schemas/Per~son~1a/allOf/+0",
      .refTo "#/components/schemas/Per~son~1a/allOf/+1"])])]

set_option maxRecDepth 100000 in
theorem mem_danglingTexts_iff_oddlySpelled : ∃ site ∈ oddlySpelled.sites,
    site.target = SchemaRef.start ++ "Per~son~1a/allOf/+1" ∧
    Pointer.resolve? oddlySpelled.toJson site.target = none ∧
    site.target ∈ oddlySpelled.danglingSites.map (·.target) := by
  have hsite : (⟨"#/components/schemas/Q/anyOf/1", "#/components/schemas/Per~son~1a/allOf/+1"⟩ : Site) ∈
      oddlySpelled.sites := by decide +kernel
  have hrest : "#/components/schemas/Per~son~1a/allOf/+1" =
      SchemaRef.start ++ "Per~son~1a/allOf/+1" := by decide +kernel
  have hnamed : SchemaRef.BeginsWithName "Per~son~1a/allOf/+1" := ⟨'P', by decide, by decide⟩
  have hresolve : Pointer.resolve? oddlySpelled.toJson
      "#/components/schemas/Per~son~1a/allOf/+1" = none :=
    Option.isNone_iff_eq_none.1 (by decide +kernel)
  exact ⟨_, hsite, hrest, hresolve, (mem_danglingTexts_iff hsite hrest).2 ⟨hnamed, hresolve⟩⟩

/-- A reference to a definition that has no name, in a document in which each has one. -/
def nameless : Document :=
  ofSchemas [("A", .refTo "#/components/schemas/")]

set_option maxRecDepth 100000 in
theorem not_mem_danglingTexts_nameless : ∃ site ∈ nameless.sites,
    site.target = SchemaRef.start ++ "" ∧
    Pointer.resolve? nameless.toJson site.target = none ∧
    site.target ∉ nameless.danglingSites.map (·.target) := by
  have hsite : (⟨"#/components/schemas/A", "#/components/schemas/"⟩ : Site) ∈ nameless.sites := by
    decide +kernel
  have hresolve : Pointer.resolve? nameless.toJson "#/components/schemas/" = none :=
    Option.isNone_iff_eq_none.1 (by decide +kernel)
  exact ⟨_, hsite, by decide +kernel, hresolve, by decide +kernel⟩

end Document

end SchemaMerge
