import SchemaMerge.Proofs.FreshNames
import SchemaMerge.Proofs.Outcome

/-!
What an extraction does to the definitions. Every shape that is extracted becomes a definition with
a new name, and nothing else is added or removed (`Grows`). So an extraction that reports no shape
has left the document alone, and one that leaves it alone has found no shape.
-/

namespace SchemaMerge

namespace Extraction

/-- From one state of an extraction to a later one, no definition goes, as many are added as shapes
are extracted, and there is no other change if there are none. -/
structure Grows (before after : State) : Prop where
  kept : ∀ name, before.definitions.contains name → after.definitions.contains name
  longer : before.extracted.length ≤ after.extracted.length
  counted : after.definitions.size + before.extracted.length =
    before.definitions.size + after.extracted.length
  still : after.extracted.length = before.extracted.length → after = before

theorem Grows.refl (state : State) : Grows state state :=
  ⟨fun _ => id, Nat.le_refl _, rfl, fun _ => rfl⟩

theorem Grows.trans {a b c : State} (hab : Grows a b) (hbc : Grows b c) : Grows a c := by
  refine ⟨fun name hname => hbc.kept name (hab.kept name hname),
    Nat.le_trans hab.longer hbc.longer, ?_, fun hlength => ?_⟩
  · have hab' := hab.counted
    have hbc' := hbc.counted
    omega
  · have hab' := hab.longer
    have hbc' := hbc.longer
    have hb : b = a := hab.still (by omega)
    have hc : c = b := hbc.still (by omega)
    rw [hc, hb]

/-- Putting something in the place of objects changes no name. -/
theorem names_foldl_replace (new : Json) (occurrences : List Occurrence)
    (definitions : NameMap Json) :
    (occurrences.foldl (replace new) definitions).names = definitions.names := by
  induction occurrences generalizing definitions with
  | nil => rfl
  | cons occurrence rest ih => rw [List.foldl_cons, ih, replace, NameMap.names_map]

theorem get?_foldl_replace_eq_none {new : Json} {occurrences : List Occurrence} {name : String}
    (definitions : NameMap Json) (h : definitions.get? name = none) :
    (occurrences.foldl (replace new) definitions).get? name = none := by
  rw [← NameMap.not_contains_iff, Bool.eq_false_iff] at h ⊢
  rwa [ne_eq, ← NameMap.mem_names_iff, names_foldl_replace, NameMap.mem_names_iff]

theorem grows_extractGroup (state : State) (group : List Occurrence) :
    Grows state (extractGroup state group) := by
  cases group with
  | nil => exact .refl state
  | cons first rest =>
      rw [extractGroup]
      split
      case h_1 => exact .refl state
      case h_2 body hbody =>
        set name := uniqueName first.nameHint state.definitions with hname
        set replaced := (first :: rest).foldl
          (replace (.record [("$ref", .string (SchemaRef.ofName name))])) state.definitions
        have hnames : replaced.names = state.definitions.names := names_foldl_replace ..
        have hfresh : replaced.get? name = none :=
          get?_foldl_replace_eq_none _ (uniqueName_free ..)
        have hsize : (replaced.insert name body).size = state.definitions.size + 1 := by
          rw [NameMap.size_insert body hfresh, ← NameMap.length_names, hnames, NameMap.length_names]
        refine ⟨fun old hold => ?_, ?_, ?_, fun hlength => ?_⟩
        · rw [← NameMap.mem_names_iff, ← hnames, NameMap.mem_names_iff] at hold
          dsimp only
          rw [NameMap.contains, NameMap.get?_insert]
          split
          · rfl
          · exact hold
        · simp
        · dsimp only
          rw [hsize, List.length_append, List.length_singleton]
          omega
        · rw [List.length_append, List.length_singleton] at hlength
          omega

theorem grows_foldl_extractGroup (groups : List (List Occurrence)) (state : State) :
    Grows state (groups.foldl extractGroup state) := by
  induction groups generalizing state with
  | nil => exact .refl state
  | cons group rest ih => exact (grows_extractGroup state group).trans (ih _)

theorem grows_rounds? {limit : UInt64} {pinned : List String} {state final : State} {fuel : Nat}
    (h : rounds? limit pinned state fuel = .ok final) : Grows state final := by
  induction fuel generalizing state with
  | zero =>
      rw [rounds?, Except.ok.injEq] at h
      exact h ▸ .refl state
  | succ fuel ih =>
      obtain ⟨groups, _, h⟩ := bind_eq_ok.1 h
      have hround := grows_foldl_extractGroup (innermost groups) state
      dsimp only at h
      split at h
      · rw [pure_eq_ok] at h
        exact h ▸ hround
      · exact hround.trans (ih h)

end Extraction

namespace Document

variable {document start : Document} {limit : UInt64} {extracted : List ExtractedShape}

/-- An extraction is a number of rounds. -/
theorem extractInline?_eq_ok (h : document.extractInline? limit = .ok (start, extracted)) :
    ∃ fuel state, Extraction.rounds? limit (Extraction.deepReferences document)
        ⟨document.definitions, []⟩ fuel = .ok state ∧
      start = document.withDefinitions state.definitions ∧ extracted = state.extracted := by
  obtain ⟨found, _, h⟩ := bind_eq_ok.1 h
  obtain ⟨state, hstate, h⟩ := bind_eq_ok.1 h
  rw [pure_eq_ok] at h
  cases h
  exact ⟨_, state, hstate, rfl, rfl⟩

theorem definitionCount_extractInline?
    (h : document.extractInline? limit = .ok (start, extracted)) :
    start.definitionCount = document.definitionCount + extracted.length ∧
      (extracted = [] → start = document) := by
  obtain ⟨_, state, hstate, rfl, rfl⟩ := extractInline?_eq_ok h
  have hgrows := Extraction.grows_rounds? hstate
  refine ⟨hgrows.counted, fun hnone => ?_⟩
  rw [hgrows.still (by rw [hnone])]
  rfl

/-- An extraction removes no definition. -/
theorem contains_extractInline? (h : document.extractInline? limit = .ok (start, extracted))
    {name : String} (hname : document.definitions.contains name) :
    start.definitions.contains name := by
  obtain ⟨_, state, hstate, rfl, _⟩ := extractInline?_eq_ok h
  exact (Extraction.grows_rounds? hstate).kept name hname

end Document

end SchemaMerge
