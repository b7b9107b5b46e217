import SchemaMerge.Proofs.Composition

/-!
Explicit renames. They can be carried out exactly when they rename definitions only, none of them to
the name of a definition that keeps its name, and no chain of them comes back
(`planRenames?_iff`). A chain then ends at a name that no definition has. So the definitions at the
ends of chains are the ones to be created, each as a copy of the least definition that is renamed to
it directly, and after the renames there are these and the definitions that kept their names.
-/

namespace SchemaMerge

open Relation (TransGen)

/-- The map does to the document what the renames say. -/
structure RenameMap.Realizes (map : RenameMap) (renames : NameMap String) (document : Document) :
    Prop where
  /-- The names that go are those that are renamed to another one. -/
  renamed : ∀ name, (map.get? name).isSome ↔ ∃ target, Link renames name target
  /-- Each of them goes to the end of its chain. -/
  chainEnd : ∀ name final, map.get? name = some final → ChainEnd renames name final
  /-- The definitions at the ends of chains are created. -/
  created : ∀ final, map.materialized.contains final ↔ ∃ name, ChainEnd renames name final
  /-- No definition stands at the end of a chain. -/
  new : ∀ final, map.materialized.contains final → document.definitions.contains final = false
  /-- What is created is a copy of the least definition that is renamed to it directly. -/
  source : ∀ final source, map.materialized.get? final = some source →
    Link renames source final ∧ ∀ name, Link renames name final → source ≤ name
  /-- Afterwards there are the definitions that keep their names, and the ends of chains. -/
  remaining : ∀ out, document.repoint? map = .ok out → ∀ name, out.definitions.contains name ↔
    document.definitions.contains name ∧ map.get? name = none ∨ map.materialized.contains name

variable {renames : NameMap String} {document : Document}

/-- After the renames there are the definitions that keep their names and those that are created. -/
theorem RenameMap.Fits.contains_of_repoint? {map : RenameMap} {out : Document}
    (h : map.Fits document) (hout : document.repoint? map = .ok out) (name : String) :
    out.definitions.contains name ↔
      document.definitions.contains name ∧ map.get? name = none ∨
        map.materialized.contains name := by
  rw [NameMap.contains, h.get?_of_repoint? hout]
  cases hcreated : map.materialized.get? name with
  | none =>
      have hsource : map.source name = name := by rw [RenameMap.source, hcreated]; rfl
      have hforeign : ¬map.materialized.contains name := by simp [NameMap.contains, hcreated]
      rw [hsource, or_iff_left hforeign, NameMap.contains]
      cases map.get? name <;> simp
  | some source =>
      obtain ⟨hnew, hold⟩ := h.created name source hcreated
      have hsource : map.source name = source := by rw [RenameMap.source, hcreated]; rfl
      have hstays : map.get? name = none := by
        rw [Option.eq_none_iff_forall_ne_some]
        intro canonical hcanonical
        rw [h.renamed name canonical hcanonical] at hnew
        cases hnew
      have hcopied : map.materialized.contains name := NameMap.contains_iff.2 ⟨source, hcreated⟩
      rw [NameMap.contains] at hold
      simp [hsource, hstays, hcopied, hold]

/-- Renames that a document takes do to it what they say. -/
theorem realizes_of_planRenames? {map : RenameMap} (h : planRenames? renames document = .ok map) :
    map.Realizes renames document := by
  have hfits := fits_of_planRenames? h
  obtain ⟨hrenamable, haliases, hcreated⟩ := planRenames?_eq_ok_iff.1 h
  have hget : ∀ {name final}, map.get? name = some final ↔ ChainEnd renames name final :=
    get?_resolveChains_iff haliases
  have hsource : ∀ {final source}, map.materialized.get? final = some source →
      document.definitions.contains final = false ∧ Link renames source final ∧
        ∀ name, Link renames name final → source ≤ name := by
    intro final source hfinal
    rw [hcreated] at hfinal
    exact least_of_createdTargets hfinal
  constructor
  case renamed =>
    intro name
    constructor
    · intro hname
      obtain ⟨final, hfinal⟩ := Option.isSome_iff_exists.1 hname
      exact (hget.1 hfinal).exists_link
    · rintro ⟨target, hlink⟩
      obtain ⟨final, hend⟩ := hlink.exists_chainEnd hrenamable.acyclic
      rw [hget.2 hend]
      rfl
  case chainEnd => exact fun name final => hget.1
  case created =>
    intro final
    constructor
    · intro hfinal
      obtain ⟨source, hcopied⟩ := NameMap.contains_iff.1 hfinal
      obtain ⟨hnew, hlink, _⟩ := hsource hcopied
      refine ⟨source, .single hlink, fun next hnext => ?_⟩
      rw [hrenamable.known final hnext.contains] at hnew
      cases hnew
    · rintro ⟨name, hend⟩
      obtain ⟨source, _, hlink⟩ := TransGen.tail'_iff.1 hend.reached
      -- A definition at the end would have to be renamed itself.
      have hnew : document.definitions.contains final = false := by
        rw [Bool.eq_false_iff]
        intro hdefined
        obtain ⟨next, hnext⟩ := hrenamable.vacated source final hlink hdefined
        exact hend.last next hnext
      rw [hcreated]
      exact contains_createdTargets hnew hlink
  case new =>
    intro final hfinal
    obtain ⟨source, hcopied⟩ := NameMap.contains_iff.1 hfinal
    exact (hsource hcopied).1
  case source => exact fun final source hfinal => (hsource hfinal).2
  case remaining => exact fun out hout => hfits.contains_of_repoint? hout

/-- A document takes the renames that can be carried out and no others, and what it takes does to it
what it says. -/
theorem planRenames?_iff (renames : NameMap String) (document : Document) :
    ((∃ map, planRenames? renames document = .ok map) ↔ Renamable renames document.definitions) ∧
      ∀ map, planRenames? renames document = .ok map → map.Realizes renames document := by
  refine ⟨⟨?_, fun hrenamable => ?_⟩, fun map => realizes_of_planRenames?⟩
  · rintro ⟨map, hmap⟩
    exact (planRenames?_eq_ok_iff.1 hmap).1
  · obtain ⟨aliases, haliases⟩ := exists_resolveChains_iff.2 hrenamable.acyclic
    exact ⟨⟨aliases, _⟩, planRenames?_eq_ok_iff.2 ⟨hrenamable, haliases, rfl⟩⟩

/-- A chain that two definitions share, and a definition that is renamed to itself. -/
def joiningRenames : NameMap String :=
  .ofList [("First", "Second"), ("Kept", "Kept"), ("Second", "Final"), ("Third", "Final")]

def joined : Document :=
  .ofSchemas [
    ("First", .record [("type", .string "string")]),
    ("Kept", .record [("$ref", .string "#/components/schemas/First")]),
    ("Second", .record [("type", .string "number")]),
    ("Third", .record [("type", .string "null")])]

set_option maxRecDepth 100000 in
theorem planRenames?_iff_joined : ∃ map out, planRenames? joiningRenames joined = .ok map ∧
    joined.repoint? map = .ok out ∧ Renamable joiningRenames joined.definitions ∧
    map.Realizes joiningRenames joined ∧
    map.aliases.entries = [("First", "Final"), ("Second", "Final"), ("Third", "Final")] ∧
    map.materialized.entries = [("Final", "Second")] ∧
    out.definitions.names = ["Final", "Kept"] := by
  obtain ⟨map, hmap, hrun⟩ : ∃ map, planRenames? joiningRenames joined = .ok map ∧
      ((joined.repoint? map).toOption.map fun out =>
        (map.aliases.entries, map.materialized.entries, out.definitions.names)) =
          some ([("First", "Final"), ("Second", "Final"), ("Third", "Final")],
            [("Final", "Second")], ["Final", "Kept"]) :=
    exists_ok_of_bind (by decide +kernel)
  obtain ⟨out, hout, heffect⟩ := exists_ok_of_toOption hrun
  simp only [Prod.mk.injEq] at heffect
  obtain ⟨hiff, hrealizes⟩ := planRenames?_iff joiningRenames joined
  exact ⟨map, out, hmap, hout, hiff.1 ⟨map, hmap⟩, hrealizes map hmap, heffect⟩

end SchemaMerge
