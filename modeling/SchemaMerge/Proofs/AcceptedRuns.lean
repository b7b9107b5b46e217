import Mathlib.Algebra.Group.Nat.Defs
import SchemaMerge.Proofs.Coverage
import SchemaMerge.Proofs.Idempotence
import SchemaMerge.Proofs.InlineGroups

/-!
What can stop a run whose document has been analyzed. An analysis fails only where a definition is
nested too deeply. Neither an extraction nor a pass makes a definition that is nested more deeply
than one that was there (`Extraction.shallow_extractGroup`, `NameMap.Shallow.repointed`), and the
search for inline objects is bounded by twice the limit, which a way within the limit never exceeds.
A plan for a classification always has the bodies that it needs. What is left is the check for
references that point at nothing (`Document.consolidate?_ok_or_dangling`).
-/

namespace SchemaMerge

open Extraction (Way replaceAt replace)

namespace Schema

/-- The schema is nested no more deeply than the limit says. -/
def Shallow (limit : UInt64) (schema : Json) : Prop :=
  ∀ depth ∈ depths .schema 0 schema, depth ≤ limit.toNat

variable {limit : UInt64} {schema : Json}

/-- A reference with nothing but annotations beside it holds no schemas. -/
theorem shallow_of_aliasTarget? {target : String} (h : Key.aliasTarget? schema = some target) :
    Shallow limit schema := by
  unfold Key.aliasTarget? at h
  split at h
  case h_2 => cases h
  case h_1 fields _ =>
    split at h
    case isFalse => cases h
    case isTrue hall =>
      intro depth hdepth
      rcases mem_depths_node.1 hdepth with rfl | ⟨keyword, hkeyword, value, hvalue, _⟩
      · exact Nat.zero_le _
      · have hnone : ∀ keyword ∈ visitOrder, keyword ≠ "$ref" ∧ keyword ∉ metadataKeywords := by
          decide
        have hfield := List.all_eq_true.1 hall _ (Fields.mem_of_lookup hvalue)
        simp [hnone keyword hkeyword] at hfield

theorem shallow_of_ofDefinition {tier : MergeTier} {name : String} {key : Key}
    (h : Key.ofDefinition limit tier.toTier name schema = .ok key) : Shallow limit schema := by
  rw [Key.ofDefinition_toTier] at h
  split at h
  case h_1 target halias => exact shallow_of_aliasTarget? halias
  case h_2 =>
    rw [Key.ofShape] at h
    split at h
    case h_1 => cases h
    case h_2 hdeep => exact Key.tooDeep?_eq_none_iff.1 hdeep

theorem Shallow.exists_ofDefinition (h : Shallow limit schema) (tier : MergeTier) (name : String) :
    ∃ key, Key.ofDefinition limit tier.toTier name schema = .ok key := by
  rw [Key.ofDefinition_toTier]
  split
  case h_1 => exact ⟨_, rfl⟩
  case h_2 =>
    rw [Key.ofShape, Key.tooDeep?_eq_none_iff.2 h]
    exact ⟨_, rfl⟩

end Schema

/-- No definition is nested more deeply than the limit says. -/
def NameMap.Shallow (limit : UInt64) (definitions : NameMap Json) : Prop :=
  ∀ name body, definitions.get? name = some body → Schema.Shallow limit body

variable {limit : UInt64} {definitions : NameMap Json}

/-- Definitions can be classified iff none of them is nested too deeply. -/
theorem exists_classify_iff_shallow {tier : MergeTier} :
    (∃ groups, classify limit tier.toTier definitions = .ok groups) ↔ definitions.Shallow limit := by
  rw [exists_classify_eq_ok]
  constructor
  · intro h name body hbody
    obtain ⟨key, hkey⟩ := h name body hbody
    exact Schema.shallow_of_ofDefinition hkey
  · exact fun h name body hbody => (h name body hbody).exists_ofDefinition tier name

namespace Extraction

variable {role : Schema.Role} {depth d e : Nat} {way : List String} {value found : Json}

/-- A schema at the end of a way is nested no more deeply than what it stands in. What is no object
may stand where no schema does, and then its own depth is all that it adds. -/
theorem Way.mem_depths_follow? (h : Way role d way) (hfound : value.follow? way = some found)
    (he : e ∈ Schema.depths .schema (depth + d) found) :
    e = depth + d ∨ e ∈ Schema.depths role depth value := by
  induction h generalizing depth value with
  | here =>
      cases hfound
      exact .inr he
  | @items d way h ih =>
      obtain ⟨fields, inner, rfl, hlookup, hbelow⟩ := Json.follow?_cons_eq_some hfound
      rw [← Nat.add_assoc, Nat.add_right_comm] at he ⊢
      rcases ih hbelow he with heq | hmem
      · exact .inl heq
      · cases inner with
        | object =>
            exact .inr (Schema.mem_depths_node.2 (.inr ⟨"items", by decide, _, hlookup, hmem⟩))
        | _ =>
            rw [Schema.depths_schema_other (by simp), List.mem_singleton] at hmem
            cases way with
            | nil =>
                cases h
                exact .inl hmem
            | cons => cases hbelow
  | @properties d way h ih =>
      obtain ⟨fields, inner, rfl, hlookup, hbelow⟩ := Json.follow?_cons_eq_some hfound
      rw [← Nat.add_assoc, Nat.add_right_comm] at he ⊢
      rcases ih hbelow he with heq | hmem
      · exact .inl heq
      · cases inner with
        | object =>
            exact .inr (Schema.mem_depths_node.2 (.inr ⟨"properties", by decide, _, hlookup, hmem⟩))
        | _ => cases h; cases hbelow
  | name key h ih =>
      obtain ⟨fields, inner, rfl, hlookup, hbelow⟩ := Json.follow?_cons_eq_some hfound
      rcases ih hbelow he with heq | hmem
      · exact .inl heq
      · exact .inr (Schema.mem_depths_named.2 ⟨_, Fields.mem_of_lookup hlookup, hmem⟩)

/-- Where one member of a schema is changed, the depths that are new are below it. -/
theorem mem_depths_change {keyword : String} {change : Json → Json} {fields : List (String × Json)}
    (he : e ∈ Schema.depths .schema depth (.object (Fields.mapValues
      (fun key value => if key = keyword then change value else value) fields))) :
    e ∈ Schema.depths .schema depth (.object fields) ∨
      ∃ value, fields.lookup keyword = some value ∧ keyword ∈ Schema.visitOrder ∧
        e ∈ Schema.depths (Schema.roleUnder keyword (change value)) (depth + 1) (change value) := by
  rcases Schema.mem_depths_node.1 he with rfl | ⟨other, hother, inner, hinner, hmem⟩
  · exact .inl (Schema.mem_depths_node.2 (.inl rfl))
  · rw [Fields.lookup_mapValues, Option.map_eq_some_iff] at hinner
    obtain ⟨value, hvalue, rfl⟩ := hinner
    split at hmem
    case isTrue heq =>
      subst heq
      exact .inr ⟨value, hvalue, hother, hmem⟩
    case isFalse =>
      exact .inl (Schema.mem_depths_node.2 (.inr ⟨other, hother, value, hvalue, hmem⟩))

/-- Replacing what stands at the end of a way by an object adds the depths of the object. -/
theorem Way.mem_depths_replaceAt {new : List (String × Json)} (h : Way role d way)
    (he : e ∈ Schema.depths role depth (replaceAt (.object new) way value)) :
    e ∈ Schema.depths role depth value ∨ e ∈ Schema.depths .schema (depth + d) (.object new) := by
  induction h generalizing depth value with
  | here =>
      rw [replaceAt_nil] at he
      exact .inr he
  | @items d way h ih =>
      cases value with
      | object fields =>
          rw [replaceAt_cons_object] at he
          rcases mem_depths_change he with hold | ⟨inner, hinner, hkeyword, hmem⟩
          · exact .inl hold
          · rw [← Nat.add_assoc, Nat.add_right_comm]
            cases way with
            | nil =>
                cases h
                rw [replaceAt_nil] at hmem
                exact .inr hmem
            | cons segment way =>
                cases inner with
                | object inner =>
                    exact (ih hmem).imp_left fun hbelow =>
                      Schema.mem_depths_node.2 (.inr ⟨"items", hkeyword, _, hinner, hbelow⟩)
                | _ => exact .inl (Schema.mem_depths_node.2 (.inr ⟨"items", hkeyword, _, hinner, hmem⟩))
      | _ => exact .inl he
  | @properties d way h ih =>
      cases value with
      | object fields =>
          rw [replaceAt_cons_object] at he
          rcases mem_depths_change he with hold | ⟨inner, hinner, hkeyword, hmem⟩
          · exact .inl hold
          · rw [← Nat.add_assoc, Nat.add_right_comm]
            cases h with
            | name name h =>
                cases inner with
                | object inner =>
                    exact (ih hmem).imp_left fun hbelow =>
                      Schema.mem_depths_node.2 (.inr ⟨"properties", hkeyword, _, hinner, hbelow⟩)
                | _ =>
                    exact .inl
                      (Schema.mem_depths_node.2 (.inr ⟨"properties", hkeyword, _, hinner, hmem⟩))
      | _ => exact .inl he
  | name key h ih =>
      cases value with
      | object fields =>
          rw [replaceAt_cons_object] at he
          obtain ⟨field, hfield, hmem⟩ := Schema.mem_depths_named.1 he
          obtain ⟨old, hold, rfl⟩ := List.mem_map.1 hfield
          dsimp only at hmem
          split at hmem
          · exact (ih hmem).imp_left fun h => Schema.mem_depths_named.2 ⟨old, hold, h⟩
          · exact .inl (Schema.mem_depths_named.2 ⟨old, hold, hmem⟩)
      | _ => exact .inl he

end Extraction

namespace Occurrence

variable {occurrence : Occurrence}

/-- The occurrence stands at a depth that the limit allows. -/
def Within (limit : UInt64) (occurrence : Occurrence) : Prop :=
  ∃ depth, Way .schema depth occurrence.segments ∧ depth ≤ limit.toNat

theorem Found.within (h : occurrence.Found definitions) (hshallow : definitions.Shallow limit) :
    occurrence.Within limit := by
  obtain ⟨body, depth, hbody, hway, hdepth⟩ := h.way
  exact ⟨depth, hway, hshallow _ body hbody depth hdepth⟩

end Occurrence

namespace Extraction

variable {occurrence : Occurrence} {pinned : List String}

theorem mem_depths_refTo {depth d : Nat} {reference : String}
    (h : d ∈ Schema.depths .schema depth (.refTo reference)) : d = depth := by
  rcases Schema.mem_depths_node.1 h with rfl | ⟨keyword, hkeyword, value, hvalue, _⟩
  · rfl
  · have hother : ∀ keyword ∈ Schema.visitOrder, keyword ≠ "$ref" := by decide
    rw [Fields.lookup_cons, if_neg (hother keyword hkeyword)] at hvalue
    cases hvalue

theorem shallow_replace (h : definitions.Shallow limit) (hwithin : occurrence.Within limit)
    (reference : String) : (replace (.refTo reference) definitions occurrence).Shallow limit := by
  intro name body hbody
  rw [Occurrence.get?_replace] at hbody
  obtain ⟨old, hold, rfl⟩ := Option.map_eq_some_iff.1 hbody
  split
  case isFalse => exact h name old hold
  case isTrue =>
    obtain ⟨depth, hway, hdepth⟩ := hwithin
    intro d hd
    rcases hway.mem_depths_replaceAt hd with hmem | hnew
    · exact h name old hold d hmem
    · rw [mem_depths_refTo hnew, Nat.zero_add]
      exact hdepth

theorem shallow_foldl_replace {group : List Occurrence} (h : definitions.Shallow limit)
    (hwithin : ∀ occurrence ∈ group, occurrence.Within limit) (reference : String) :
    (group.foldl (replace (.refTo reference)) definitions).Shallow limit := by
  induction group generalizing definitions with
  | nil => exact h
  | cons first rest ih =>
      rw [List.forall_mem_cons] at hwithin
      exact ih (shallow_replace h hwithin.1 reference) hwithin.2

/-- What stands below a definition is nested no more deeply than the definition. -/
theorem shallow_value? (h : definitions.Shallow limit) (hwithin : occurrence.Within limit)
    {body : Json} (hbody : occurrence.value? definitions = some body) :
    Schema.Shallow limit body := by
  obtain ⟨whole, hwhole, hfollow⟩ := Option.bind_eq_some_iff.1 hbody
  obtain ⟨depth, hway, _⟩ := hwithin
  intro d hd
  have hfurther : d + depth ∈ Schema.depths .schema (0 + depth) body := by
    rw [Schema.depths_add]
    exact List.mem_map.2 ⟨d, hd, rfl⟩
  rcases hway.mem_depths_follow? hfollow hfurther with heq | hmem
  · omega
  · exact Nat.le_trans (Nat.le_add_right ..) (h _ whole hwhole _ hmem)

/-- An extraction makes no definition that is nested more deeply than one that was there. -/
theorem shallow_extractGroup {state : State} {group : List Occurrence}
    (h : state.definitions.Shallow limit)
    (hwithin : ∀ occurrence ∈ group, occurrence.Within limit) :
    (extractGroup state group).definitions.Shallow limit := by
  rcases extractGroup_cases state group with hsame | ⟨name, body, htakes⟩
  · rwa [hsame]
  · obtain ⟨first, hfirst, hbody, _⟩ := htakes.named
    rw [htakes.definitions]
    intro other found hfound
    rw [NameMap.get?_insert] at hfound
    split at hfound
    case isTrue =>
      cases hfound
      exact shallow_value? h (hwithin first (List.mem_of_mem_head? hfirst)) hbody
    case isFalse => exact shallow_foldl_replace h hwithin _ other found hfound

theorem shallow_foldl_extractGroup {state : State} {groups : List (List Occurrence)}
    (h : state.definitions.Shallow limit)
    (hwithin : ∀ group ∈ groups, ∀ occurrence ∈ group, occurrence.Within limit) :
    (groups.foldl extractGroup state).definitions.Shallow limit := by
  induction groups generalizing state with
  | nil => exact h
  | cons group rest ih =>
      rw [List.forall_mem_cons] at hwithin
      exact ih (shallow_extractGroup h hwithin.1) hwithin.2

section Bounded

variable (hlimit : limit.toNat < 2 ^ 63)

include hlimit

/-- A way within the limit is no longer than the search allows. -/
theorem exists_inlineObjects? {name : String} {body : Json} (h : Schema.Shallow limit body) :
    ∃ found, inlineObjects? limit name body = .ok found := by
  refine inlineObjects?_isOk_iff.2 fun node hnode => ?_
  obtain ⟨depth, below, heq, hway, hdepth, _⟩ := exists_way_of_mem_nodes 0 hnode
  have hle := h _ hdepth
  have hlength := hway.length_le
  rw [if_neg (by decide)] at hlength
  have htwo : (2 : UInt64).toNat = 2 := rfl
  rw [heq, List.nil_append, UInt64.toNat_mul, htwo]
  omega

theorem exists_allInlineObjects? (h : definitions.Shallow limit) :
    ∃ found, allInlineObjects? limit definitions = .ok found := by
  have hall : ∀ entry ∈ definitions.entries,
      ∃ found, inlineObjects? limit entry.1 entry.2 = .ok found := fun entry hentry =>
    exists_inlineObjects? hlimit (h entry.1 entry.2 (NameMap.get?_eq_some_iff.2 hentry))
  obtain ⟨found, hfound⟩ := exists_mapM_eq_ok.2 hall
  exact ⟨_, bind_eq_ok.2 ⟨found, hfound, rfl⟩⟩

theorem exists_repeatedShapes? (h : definitions.Shallow limit) :
    ∃ groups, repeatedShapes? limit pinned definitions = .ok groups := by
  obtain ⟨found, hfound⟩ := exists_allInlineObjects? hlimit h
  have hkeys : ∀ occurrence ∈ found.filter (fun occurrence => !occurrence.isPinned pinned),
      ∃ keyed, keyOf? limit definitions occurrence = .ok keyed := by
    intro occurrence hmem
    have hwithin := (found_of_mem_allInlineObjects? hfound (List.mem_filter.1 hmem).1).within h
    rw [keyOf?]
    split
    case h_1 => exact ⟨none, rfl⟩
    case h_2 schema hschema =>
      obtain ⟨key, hkey⟩ := (shallow_value? h hwithin hschema).exists_ofDefinition .structural ""
      have hok : Key.ofDefinition limit .structural "" schema = .ok key := hkey
      rw [hok]
      exact ⟨_, rfl⟩
  obtain ⟨keyed, hkeyed⟩ := exists_mapM_eq_ok.2 hkeys
  exact ⟨_, bind_eq_ok.2 ⟨found, hfound, bind_eq_ok.2 ⟨keyed, hkeyed, rfl⟩⟩⟩

theorem exists_rounds? {state : State} (h : state.definitions.Shallow limit) (fuel : Nat) :
    ∃ final, rounds? limit pinned state fuel = .ok final ∧ final.definitions.Shallow limit := by
  induction fuel generalizing state with
  | zero => exact ⟨state, rfl, h⟩
  | succ fuel ih =>
      obtain ⟨groups, hgroups⟩ : ∃ groups,
          repeatedShapes? limit pinned state.definitions = .ok groups :=
        exists_repeatedShapes? hlimit h
      have hnext : ((innermost groups).foldl extractGroup state).definitions.Shallow limit :=
        shallow_foldl_extractGroup h fun group hgroup occurrence hmem =>
          ((repeats_of_repeatedShapes? hgroups).found group (mem_innermost.1 hgroup).1 occurrence
            hmem).within h
      rw [rounds?, hgroups]
      by_cases hsame : ((innermost groups).foldl extractGroup state).extracted.length =
          state.extracted.length
      · refine ⟨_, ?_, hnext⟩
        exact if_pos hsame
      · obtain ⟨final, hfinal, hshallow⟩ := ih hnext
        exact ⟨final, (if_neg hsame).trans hfinal, hshallow⟩

end Bounded

end Extraction

/-- What a plan repoints is as deep as it was. -/
theorem NameMap.Shallow.repointed {options : Options} {document : Document}
    {groups : List MergeGroup} {map : RenameMap} {allotted : List (MergeGroup × String)}
    {created : NameMap Json} (h : document.definitions.Shallow limit)
    (hc : Classified options.maxDepth options.tier document.definitions groups)
    (hallots : Allotted document.definitions groups map allotted)
    (hcreated : map.withCreated? document.definitions = .ok created) :
    (document.repointed map created).definitions.Shallow limit := by
  intro name body hbody
  rw [hallots.get?_definitions_repointed hc hcreated] at hbody
  split at hbody
  case isTrue => cases hbody
  case isFalse =>
    obtain ⟨old, hold, rfl⟩ := Option.map_eq_some_iff.1 hbody
    rw [Schema.Shallow, map.schema_eq_edit, Schema.depths_edit map.isLocal_keyword]
    exact h _ old hold

/-- The computation succeeds, or it stops at references that point at nothing. -/
def Settles {α : Type} (outcome : Except Error α) : Prop :=
  (∃ result, outcome = .ok result) ∨ ∃ sites, outcome = .error (.dangling sites)

namespace Settles

variable {α β : Type} {outcome : Except Error α} {next : α → Except Error β}

theorem ok (result : α) : Settles (.ok result) :=
  .inl ⟨result, rfl⟩

/-- Two steps settle if the first one does and the second one does after it. -/
theorem bind (h : Settles outcome) (hnext : ∀ result, outcome = .ok result → Settles (next result)) :
    Settles (outcome >>= next) := by
  rcases h with ⟨result, rfl⟩ | ⟨sites, rfl⟩
  · exact hnext result rfl
  · exact .inr ⟨sites, rfl⟩

end Settles

/-- Once the new definitions are there, only a reference can be in the way of a map. -/
theorem Document.settles_repoint? {document : Document} {map : RenameMap} {created : NameMap Json}
    (hcreated : map.withCreated? document.definitions = .ok created) :
    Settles (document.repoint? map) := by
  rw [repoint?, hcreated]
  split
  case isTrue => exact .ok document
  case isFalse =>
    by_cases hnone : ((document.repointed map created).danglingSites.filter fun site =>
        site.target ∉ document.danglingSites.map (·.target)).isEmpty
    · exact .inl ⟨_, if_pos hnone⟩
    · exact .inr ⟨_, if_neg hnone⟩

namespace Progress

variable {options : Options} {table : NamingTable}

/-- A pass settles, and it leaves no definition that is nested too deeply. -/
theorem settles_pass? (hpolicy : options.conflictPolicy = .suffix) {progress : Progress}
    (h : progress.working.definitions.Shallow options.maxDepth) {groups : List MergeGroup}
    (hgroups : classifyForMerge options.maxDepth options.tier options.keepSeparate
      progress.working.definitions = .ok groups) (hne : groups ≠ []) :
    Settles (progress.pass? options table groups) ∧
      ∀ next, progress.pass? options table groups = .ok next →
        next.working.definitions.Shallow options.maxDepth := by
  have hc := Classified.of_classifyForMerge hgroups
  obtain ⟨plan, hplan⟩ := Plan.exists_ofGroups?_suffix table hc
  obtain ⟨allotted, hallots⟩ := Plan.exists_allotted hc hplan
  obtain ⟨created, hcreated⟩ := RenameMap.exists_withCreated? fun _ _ hsource =>
    (hallots.created_new hc hsource).2
  rw [pass?, hpolicy, hplan]
  constructor
  · exact (Document.settles_repoint? hcreated).bind fun working _ => .ok _
  · intro next hnext
    obtain ⟨plan', hplan', hnext⟩ := bind_eq_ok.1 hnext
    cases hplan'
    obtain ⟨working, hworking, hnext⟩ := bind_eq_ok.1 hnext
    rw [pure_eq_ok] at hnext
    subst hnext
    obtain ⟨created', hcreated', rfl, _⟩ :=
      Document.repoint?_eq_ok (hallots.isEmpty_eq_false hc hne) hworking
    exact h.repointed hc hallots hcreated'

theorem settles_run? (hpolicy : options.conflictPolicy = .suffix) (fuel : Nat)
    {progress : Progress} (h : progress.working.definitions.Shallow options.maxDepth) :
    Settles (progress.run? options table fuel) := by
  induction fuel generalizing progress with
  | zero => exact .ok progress
  | succ fuel ih =>
      obtain ⟨found, hfound⟩ : ∃ found, classify options.maxDepth options.tier.toTier
          progress.working.definitions = .ok found := exists_classify_iff_shallow.2 h
      have hclassified : Settles (classifyForMerge options.maxDepth options.tier
          options.keepSeparate progress.working.definitions) :=
        .inl ⟨_, bind_eq_ok.2 ⟨found, hfound, rfl⟩⟩
      rw [run?]
      refine hclassified.bind fun groups hgroups => ?_
      by_cases hnone : groups.isEmpty
      · exact .inl ⟨progress, if_pos hnone⟩
      · obtain ⟨hpass, hnext⟩ : Settles (progress.pass? options table groups) ∧
            ∀ next, progress.pass? options table groups = .ok next →
              next.working.definitions.Shallow options.maxDepth :=
          settles_pass? hpolicy h hgroups (by simpa using hnone)
        rw [if_neg hnone]
        exact hpass.bind fun next hok => ih (hnext next hok)

end Progress

namespace Document

variable {document : Document} {options : Options} {table : NamingTable} {report : Report}

theorem exists_start? (hlimit : options.maxDepth.toNat < 2 ^ 63)
    (h : document.definitions.Shallow options.maxDepth) :
    ∃ start extracted, document.start? options = .ok (start, extracted) ∧
      start.definitions.Shallow options.maxDepth := by
  rw [start?]
  split
  case isTrue =>
    obtain ⟨found, hfound⟩ := Extraction.exists_allInlineObjects? hlimit h
    obtain ⟨final, hfinal, hshallow⟩ : ∃ final, Extraction.rounds? options.maxDepth
        (Extraction.deepReferences document) ⟨document.definitions, []⟩ (found.length + 1) =
          .ok final ∧ final.definitions.Shallow options.maxDepth :=
      Extraction.exists_rounds? hlimit h _
    exact ⟨document.withDefinitions final.definitions, final.extracted,
      bind_eq_ok.2 ⟨found, hfound, bind_eq_ok.2 ⟨final, hfinal, rfl⟩⟩, hshallow⟩
  case isFalse => exact ⟨document, [], rfl, h⟩

/-- What can be analyzed can be consolidated, or a reference comes to point at nothing, if names
that are taken get a number. -/
theorem consolidate?_ok_or_dangling (hpolicy : options.conflictPolicy = .suffix)
    (hlimit : options.maxDepth.toNat < 2 ^ 63)
    (htable : Naming.table? options.namingRules = .ok table)
    (hreport : document.analyze? options = .ok report) :
    (∃ result, document.consolidate? options = .ok result) ∨
      ∃ sites, document.consolidate? options = .error (.dangling sites) := by
  have hshallow : document.definitions.Shallow options.maxDepth :=
    exists_classify_iff_shallow.1
      (exists_classify_of_analyze? hreport (MergeTier.toTier .structural))
  obtain ⟨start, extracted, hstart, hshallow⟩ := exists_start? hlimit hshallow
  rw [consolidate?, htable, hreport, hstart]
  exact (Progress.settles_run? hpolicy _ hshallow).bind fun final _ => .ok _

set_option maxRecDepth 100000 in
theorem consolidate?_ok_or_dangling_lateTwins : ∃ table report,
    Options.conflictPolicy { extractInline := true } = .suffix ∧
    (Options.maxDepth { extractInline := true }).toNat < 2 ^ 63 ∧
    Naming.table? (Options.namingRules { extractInline := true }) = .ok table ∧
    lateTwins.analyze? { extractInline := true } = .ok report ∧
    ((∃ result, lateTwins.consolidate? { extractInline := true } = .ok result) ∨
      ∃ sites, lateTwins.consolidate? { extractInline := true } = .error (.dangling sites)) := by
  obtain ⟨report, hreport, _⟩ : ∃ report,
      lateTwins.analyze? { extractInline := true } = .ok report ∧ report.before.definitions = 3 :=
    exists_ok_of_toOption (by decide +kernel)
  exact ⟨_, report, rfl, by decide, rfl, hreport,
    consolidate?_ok_or_dangling rfl (by decide) rfl hreport⟩

end Document

end SchemaMerge
