import SchemaMerge.Proofs.SameValues
import SchemaMerge.Report

/-!
Reports are read from what is written of them, in whatever order the members of objects stand
(`Json.Rearranges`). A record looks its fields up by name, and the tiers of a table are filled in
one by one (`ByTier.exists_foldlM_set`), so the order does not matter. Counts and differences have
to fit 64 bits (`Report.InRange`). The whole is `Report.ofJson?_rearranged`.
-/

namespace SchemaMerge

namespace Json

/-- What changes the order of the members of objects and nothing else. -/
structure Rearranges (f : Json → Json) : Prop where
  null : f .null = .null
  bool (value : Bool) : f (.bool value) = .bool value
  number (value : Number) : f (.number value) = .number value
  string (value : String) : f (.string value) = .string value
  array (items : List Json) : f (.array items) = .array (items.map f)
  object (fields : List (String × Json)) (h : (Fields.keys fields).Nodup) :
    ∃ fields', f (.object fields) = .object fields' ∧
      fields'.Perm (Fields.mapValues (fun _ => f) fields)

theorem rearranges_id : Rearranges id where
  null := rfl
  bool _ := rfl
  number _ := rfl
  string _ := rfl
  array items := congrArg Json.array (List.map_id items).symm
  object fields _ := by
    refine ⟨fields, rfl, ?_⟩
    rw [Fields.mapValues_eq_self fun _ _ => rfl]

theorem rearranges_inOrder : Rearranges inOrder where
  null := rfl
  bool _ := rfl
  number _ := rfl
  string _ := rfl
  array := inOrder_array
  object fields h := by
    have hkeys : (Fields.keys (Fields.mapValues (fun _ => inOrder) fields)).Nodup := by
      rwa [Fields.keys_mapValues]
    exact ⟨_, inOrder_object fields, NameMap.entries_ofList_perm hkeys⟩

/-- An integer of 64 bits with a sign. -/
def IsInt64 (value : Int) : Prop :=
  -(Nat.pow 2 63 : Int) ≤ value ∧ value < Nat.pow 2 63

namespace Rearranges

variable {f : Json → Json} (hf : Rearranges f)

include hf

theorem count?_ofNat {n : Nat} (h : n < UInt64.size) : count? (f (ofNat n)) = some n := by
  have hvalue : (0 : Int) ≤ n ∧ (n : Int) < UInt64.size :=
    ⟨Int.natCast_nonneg n, Int.ofNat_lt.2 h⟩
  rw [ofNat, hf.number, count?, uint64?, Number.toUInt64?, if_pos hvalue, Option.map_some,
    Int.toNat_natCast, UInt64.toNat_ofNat_of_lt' h]

theorem int64?_ofInt {value : Int} (h : IsInt64 value) : int64? (f (ofInt value)) = some value := by
  rw [ofInt, hf.number, int64?]
  exact if_pos h

theorem list?_map {α : Type} {read : Json → Option α} {write : α → Json} {items : List α}
    (h : ∀ item ∈ items, read (f (write item)) = some item) :
    list? read (f (.array (items.map write))) = some items := by
  rw [hf.array, list?, array?, Option.bind_some, List.map_map]
  induction items with
  | nil => rfl
  | cons item items ih =>
      rw [List.map_cons, List.mapM_cons, Function.comp_apply, h item List.mem_cons_self,
        ih fun other hother => h other (List.mem_cons_of_mem _ hother)]
      rfl

theorem strings?_ofStrings (strings : List String) :
    strings? (f (ofStrings strings)) = some strings :=
  hf.list?_map fun item _ => by rw [hf.string, string?]

theorem stringLists?_map (lists : List (List String)) :
    stringLists? (f (.array (lists.map ofStrings))) = some lists :=
  hf.list?_map fun strings _ => hf.strings?_ofStrings strings

/-- The fields of a record are found under their names. -/
theorem exists_recordFields? (names : List String) (value : Json) {fields : List (String × Json)}
    (hvalue : value = .record fields) (h : (Fields.keys fields).Nodup) :
    ∃ fields', (f value).recordFields? names = some fields' ∧
      ∀ name, fields'.lookup name = (fields.lookup name).map f := by
  obtain ⟨fields', heq, hperm⟩ := hf.object fields h
  refine ⟨fields', ?_, fun name => ?_⟩
  · rw [hvalue, record, heq, recordFields?]
  · have hkeys : (Fields.keys (Fields.mapValues (fun _ => f) fields)).Nodup := by
      rwa [Fields.keys_mapValues]
    rw [Fields.lookup_of_perm hkeys hperm, Fields.lookup_mapValues]

end Rearranges

end Json

open Json (Rearranges IsInt64)

structure GroupSummary.InRange (summary : GroupSummary) : Prop where
  size : summary.size < UInt64.size

structure TierSummary.InRange (summary : TierSummary) : Prop where
  groupCount : summary.groupCount < UInt64.size
  schemaCount : summary.schemaCount < UInt64.size
  topGroups : ∀ group ∈ summary.topGroups, group.InRange

structure DocumentSize.InRange (size : DocumentSize) : Prop where
  definitions : size.definitions < UInt64.size
  bytes : size.bytes < UInt64.size

structure PlanStats.InRange (stats : PlanStats) : Prop where
  groupsMerged : stats.groupsMerged < UInt64.size
  schemasRemoved : stats.schemasRemoved < UInt64.size
  schemasAdded : stats.schemasAdded < UInt64.size
  estimatedByteDelta : IsInt64 stats.estimatedByteDelta

/-- Counts and differences fit 64 bits. -/
structure Report.InRange (report : Report) : Prop where
  tiers : ∀ tier summary, report.tiers.get? tier = some summary → summary.InRange
  before : report.before.InRange
  after : report.after.InRange
  sizeDelta : IsInt64 report.sizeDelta
  plan : ∀ stats, report.plan = some stats → stats.InRange

section Records

variable {f : Json → Json} (hf : Rearranges f)

include hf

theorem GroupSummary.ofJson?_rearranged {summary : GroupSummary} (h : summary.InRange) :
    ofJson? (f summary.toJson) = some summary := by
  obtain ⟨fields, hfields, hlookup⟩ := hf.exists_recordFields? fieldNames summary.toJson rfl
    (by simp [Fields.keys])
  rw [ofJson?, hfields]
  simp [Json.field?, hlookup, Fields.lookup_cons, hf.count?_ofNat h.size, hf.strings?_ofStrings]

theorem TierSummary.ofJson?_rearranged {summary : TierSummary} (h : summary.InRange) :
    ofJson? (f summary.toJson) = some summary := by
  obtain ⟨fields, hfields, hlookup⟩ := hf.exists_recordFields? fieldNames summary.toJson rfl
    (by simp [Fields.keys])
  have hgroups : Json.list? GroupSummary.ofJson?
      (f (.array (summary.topGroups.map GroupSummary.toJson))) = some summary.topGroups :=
    hf.list?_map fun group hgroup => GroupSummary.ofJson?_rearranged hf (h.topGroups group hgroup)
  rw [ofJson?, hfields]
  simp [Json.field?, hlookup, Fields.lookup_cons, hf.count?_ofNat h.groupCount,
    hf.count?_ofNat h.schemaCount, hgroups]

theorem DocumentSize.ofJson?_rearranged {size : DocumentSize} (h : size.InRange) :
    ofJson? (f size.toJson) = some size := by
  obtain ⟨fields, hfields, hlookup⟩ := hf.exists_recordFields? fieldNames size.toJson rfl
    (by simp [Fields.keys])
  rw [ofJson?, hfields]
  simp [Json.field?, hlookup, Fields.lookup_cons, hf.count?_ofNat h.definitions,
    hf.count?_ofNat h.bytes]

theorem MergeRecord.ofJson?_rearranged (record : MergeRecord) :
    ofJson? (f record.toJson) = some record := by
  obtain ⟨fields, hfields, hlookup⟩ := hf.exists_recordFields? fieldNames record.toJson rfl
    (by simp [Fields.keys])
  rw [ofJson?, hfields]
  simp [Json.field?, hlookup, Fields.lookup_cons, hf.string, hf.bool, hf.strings?_ofStrings,
    Json.string?, Json.bool?, Json.choiceName?, MergeTier.ofName?_name]

theorem NameConflict.ofJson?_rearranged (conflict : NameConflict) :
    ofJson? (f conflict.toJson) = some conflict := by
  obtain ⟨fields, hfields, hlookup⟩ := hf.exists_recordFields? fieldNames conflict.toJson rfl
    (by simp [Fields.keys])
  rw [ofJson?, hfields]
  simp [Json.field?, hlookup, Fields.lookup_cons, hf.string, hf.strings?_ofStrings, Json.string?]

theorem ExtractedShape.ofJson?_rearranged (shape : ExtractedShape) :
    ofJson? (f shape.toJson) = some shape := by
  obtain ⟨fields, hfields, hlookup⟩ := hf.exists_recordFields? fieldNames shape.toJson rfl
    (by simp [Fields.keys])
  rw [ofJson?, hfields]
  simp [Json.field?, hlookup, Fields.lookup_cons, hf.string, hf.strings?_ofStrings, Json.string?]

theorem PlanStats.ofJson?_rearranged {stats : PlanStats} (h : stats.InRange) :
    ofJson? (f stats.toJson) = some stats := by
  obtain ⟨fields, hfields, hlookup⟩ := hf.exists_recordFields? fieldNames stats.toJson rfl
    (by simp [Fields.keys])
  rw [ofJson?, hfields]
  simp [Json.field?, hlookup, Fields.lookup_cons, hf.count?_ofNat h.groupsMerged,
    hf.count?_ofNat h.schemasRemoved, hf.count?_ofNat h.schemasAdded,
    hf.int64?_ofInt h.estimatedByteDelta]

end Records

theorem Tier.name_inj {tier other : Tier} : tier.name = other.name ↔ tier = other := by
  refine ⟨fun heq => ?_, congrArg _⟩
  have hsome := ofName?_name tier
  rw [heq, ofName?_name] at hsome
  exact (Option.some.inj hsome).symm

section Tables

variable {α : Type}

/-- Each tier is listed once at most. -/
theorem ByTier.pairwise_toList (table : ByTier α) :
    table.toList.Pairwise fun entry other => entry.1.name ≠ other.1.name := by
  have hall : Tier.all.Pairwise fun tier other => tier.name ≠ other.name := by decide
  rw [toList, List.pairwise_filterMap]
  refine hall.imp fun {tier other} hne entry hentry entry' hentry' => ?_
  obtain ⟨_, _, rfl⟩ := Option.map_eq_some_iff.1 hentry
  obtain ⟨_, _, rfl⟩ := Option.map_eq_some_iff.1 hentry'
  exact hne

/-- Members that stand for values of a table fill in those values, in any order. -/
theorem ByTier.exists_foldlM_set {read : Json → Option α} {table : ByTier α}
    {fields : List (String × Json)}
    (h : ∀ field ∈ fields, ∃ tier x, field.1 = tier.name ∧ read field.2 = some x ∧
      table.get? tier = some x) (start : ByTier α) :
    ∃ result, fields.foldlM (fun (table : ByTier α) field => do
        return table.set (← Tier.ofName? field.1) (← read field.2)) start = some result ∧
      ∀ tier, result.get? tier =
        if tier.name ∈ Fields.keys fields then table.get? tier else start.get? tier := by
  induction fields generalizing start with
  | nil => exact ⟨start, rfl, fun tier => rfl⟩
  | cons field fields ih =>
      obtain ⟨tier, x, hname, hread, hget⟩ := h field List.mem_cons_self
      obtain ⟨result, hresult, hvalues⟩ := ih
        (fun other hother => h other (List.mem_cons_of_mem _ hother)) (start.set tier x)
      refine ⟨result, ?_, fun other => ?_⟩
      · rw [List.foldlM_cons, hname, Tier.ofName?_name, hread]
        exact hresult
      · have hmem : other.name ∈ Fields.keys (field :: fields) ↔
            other = tier ∨ other.name ∈ Fields.keys fields := by
          rw [← Tier.name_inj, ← hname]
          exact List.mem_cons
        rw [hvalues, get?_set, if_congr hmem rfl rfl]
        by_cases heq : other = tier
        · rw [if_pos heq, heq, hget, ite_self, if_pos (.inl rfl)]
        · simp only [heq, false_or, if_false]

theorem ByTier.ofJson?_rearranged {f : Json → Json} (hf : Rearranges f) {read : Json → Option α}
    {write : α → Json} {table : ByTier α}
    (h : ∀ tier x, table.get? tier = some x → read (f (write x)) = some x) :
    ofJson? read (f (table.toJson write)) = some table := by
  obtain ⟨fields, hfields, hperm⟩ := hf.object
    (table.toList.map fun entry => (entry.1.name, write entry.2)) (by
      rw [Fields.keys, List.map_map]
      exact List.pairwise_map.2 table.pairwise_toList)
  have hmem : ∀ field, field ∈ fields ↔
      ∃ tier x, table.get? tier = some x ∧ (tier.name, f (write x)) = field := by
    intro field
    rw [hperm.mem_iff, Fields.mapValues, List.map_map, List.mem_map, Prod.exists]
    simp only [mem_toList, Function.comp_apply]
  have hread : ∀ field ∈ fields, ∃ tier x, field.1 = tier.name ∧ read field.2 = some x ∧
      table.get? tier = some x := by
    intro field hfield
    obtain ⟨tier, x, hx, rfl⟩ := (hmem field).1 hfield
    exact ⟨tier, x, rfl, h tier x hx, hx⟩
  obtain ⟨result, hresult, hvalues⟩ := exists_foldlM_set hread {}
  have htable : result = table := by
    refine ext_get? fun tier => ?_
    rw [hvalues]
    split
    case isTrue => rfl
    case isFalse hkey =>
      cases hx : table.get? tier with
      | none => cases tier <;> rfl
      | some x =>
          exact absurd (List.mem_map_of_mem ((hmem _).2 ⟨tier, x, hx, rfl⟩)) hkey
  rw [ofJson?, toJson, Json.record, hfields, Json.object?, Option.bind_eq_bind, Option.bind_some,
    hresult, htable]

end Tables

namespace Report

theorem lookup_listField {α : Type} (name key : String) (write : α → Json) (items : List α) :
    (listField name write items).lookup key =
      if key = name ∧ items ≠ [] then some (.array (items.map write)) else none := by
  cases items with
  | nil => simp [listField]
  | cons item items => simp [listField, Fields.lookup_cons]

theorem lookup_plan (key : String) (plan : Option PlanStats) :
    ((plan.map fun stats => ("plan", stats.toJson)).toList).lookup key =
      if key = "plan" then plan.map PlanStats.toJson else none := by
  cases plan <;> simp [Fields.lookup_cons]

/-- The members of a written report: the lists at the end and the plan only if there are any. -/
theorem keys_toFields (report : Report) : Fields.keys report.toFields =
    ["tiers", "nearDuplicates", "constraintOnly", "before", "after", "sizeDelta"] ++
      (if report.merges = [] then [] else ["merges"]) ++
      (if report.conflicts = [] then [] else ["conflicts"]) ++
      (if report.extracted = [] then [] else ["extracted"]) ++
      (if report.plan = none then [] else ["plan"]) := by
  have hlist : ∀ {α : Type} (name : String) (write : α → Json) (items : List α),
      (listField name write items).map (·.1) = if items = [] then [] else [name] := by
    intro α name write items
    cases items <;> rfl
  rw [Fields.keys, toFields, List.map_append, List.map_append, List.map_append, List.map_append,
    hlist, hlist, hlist]
  cases report.plan <;> rfl

theorem nodup_keys_toFields (report : Report) : (Fields.keys report.toFields).Nodup := by
  rw [keys_toFields]
  split_ifs <;> decide

theorem plan?_rearranged {f : Json → Json} (hf : Rearranges f) {stats : PlanStats}
    (h : stats.InRange) : plan? (f stats.toJson) = some (some stats) := by
  have hread := PlanStats.ofJson?_rearranged hf h
  rw [plan?.eq_def]
  split
  case h_1 hnull =>
    rw [hnull] at hread
    cases hread
  case h_2 => rw [hread, Option.map_some]

end Report

theorem Json.Rearranges.fieldOr?_list {f : Json → Json} (hf : Rearranges f) {α : Type}
    {fields : List (String × Json)} {name : String} {read : Json → Option α} {write : α → Json}
    {items : List α} (hlookup : fields.lookup name =
      (if items ≠ [] then some (.array (items.map write)) else none).map f)
    (h : ∀ item ∈ items, read (f (write item)) = some item) :
    Json.fieldOr? fields name [] (Json.list? read) = some items := by
  rw [Json.fieldOr?, hlookup]
  by_cases hempty : items = []
  · rw [if_neg (not_not.2 hempty), hempty]
    rfl
  · rw [if_pos hempty]
    exact hf.list?_map h

namespace Report

/-- A report is read from what is written of it, however the members of objects are rearranged. -/
theorem ofJson?_rearranged {f : Json → Json} (hf : Rearranges f) {report : Report}
    (h : report.InRange) : ofJson? (f report.toJson) = some report := by
  obtain ⟨fields, hfields, hlookup⟩ := hf.exists_recordFields? fieldNames report.toJson rfl
    report.nodup_keys_toFields
  have htiers : ByTier.ofJson? TierSummary.ofJson? (f (report.tiers.toJson TierSummary.toJson)) =
      some report.tiers :=
    ByTier.ofJson?_rearranged hf fun tier summary hsummary =>
      TierSummary.ofJson?_rearranged hf (h.tiers tier summary hsummary)
  have hmerges : Json.fieldOr? fields "merges" [] (Json.list? MergeRecord.ofJson?) =
      some report.merges := by
    refine hf.fieldOr?_list ?_ fun record _ => MergeRecord.ofJson?_rearranged hf record
    rw [hlookup]
    simp [toFields, List.lookup_append, Fields.lookup_cons, lookup_listField, lookup_plan]
  have hconflicts : Json.fieldOr? fields "conflicts" [] (Json.list? NameConflict.ofJson?) =
      some report.conflicts := by
    refine hf.fieldOr?_list ?_ fun conflict _ => NameConflict.ofJson?_rearranged hf conflict
    rw [hlookup]
    simp [toFields, List.lookup_append, Fields.lookup_cons, lookup_listField, lookup_plan]
  have hextracted : Json.fieldOr? fields "extracted" [] (Json.list? ExtractedShape.ofJson?) =
      some report.extracted := by
    refine hf.fieldOr?_list ?_ fun shape _ => ExtractedShape.ofJson?_rearranged hf shape
    rw [hlookup]
    simp [toFields, List.lookup_append, Fields.lookup_cons, lookup_listField, lookup_plan]
  have hplan : Json.fieldOr? fields "plan" none plan? = some report.plan := by
    have hfound : fields.lookup "plan" = (report.plan.map PlanStats.toJson).map f := by
      rw [hlookup]
      simp [toFields, List.lookup_append, Fields.lookup_cons, lookup_listField, lookup_plan]
    rw [Json.fieldOr?, hfound]
    cases hstats : report.plan with
    | none => rfl
    | some stats => exact plan?_rearranged hf (h.plan stats hstats)
  rw [ofJson?, hfields]
  simp [Json.field?, hlookup, toFields, Fields.lookup_cons, htiers, hf.stringLists?_map,
    DocumentSize.ofJson?_rearranged hf h.before, DocumentSize.ofJson?_rearranged hf h.after,
    hf.int64?_ofInt h.sizeDelta, hmerges, hconflicts, hextracted, hplan]

end Report

end SchemaMerge
