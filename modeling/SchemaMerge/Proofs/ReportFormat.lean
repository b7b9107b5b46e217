import SchemaMerge.Proofs.ReadBack
import SchemaMerge.Proofs.ReportReading

/-!
The report format loses nothing. What is written of a report is shallow and holds integers of 64
bits only, so it is read back from either text (`Json.Portable`), and reading it gives the report
(`Report.keptBy_toJson`). Its members have names in camel case, but for the tiers of a table, and
lists at the end and the plan are left out if there are none.
-/

namespace SchemaMerge

namespace Json

/-- Every member of an object has such a name. -/
inductive Named (named : String → Prop) : Json → Prop where
  | null : Named named .null
  | bool (value : Bool) : Named named (.bool value)
  | number (value : Number) : Named named (.number value)
  | string (value : String) : Named named (.string value)
  | array {items : List Json} (h : ∀ item ∈ items, Named named item) : Named named (.array items)
  | object {fields : List (String × Json)} (hkeys : ∀ field ∈ fields, named field.1)
      (h : ∀ field ∈ fields, Named named field.2) : Named named (.object fields)

variable {named : String → Prop}

@[simp]
theorem named_array_iff {items : List Json} :
    Named named (.array items) ↔ ∀ item ∈ items, Named named item := by
  constructor
  · intro h
    cases h with
    | array hitems => exact hitems
  · exact .array

@[simp]
theorem named_object_iff {fields : List (String × Json)} :
    Named named (.object fields) ↔
      ∀ field ∈ fields, named field.1 ∧ Named named field.2 := by
  constructor
  · intro h
    cases h with
    | object hkeys hfields => exact fun field hfield => ⟨hkeys field hfield, hfields field hfield⟩
  · exact fun h => .object (fun field hfield => (h field hfield).1)
      fun field hfield => (h field hfield).2

end Json

/-- Whether a name is a word, or several, of which each but the first starts with a capital. -/
def isCamelCase (name : String) : Bool :=
  name.toList.all Char.isAlpha && name.toList.head?.any Char.isLower

namespace Json

/-- A value can be read back from its text, and its members have names in camel case or names of
tiers. -/
structure Portable (nesting : Nat) (value : Json) : Prop where
  fits : value.Fits nesting
  named : value.Named fun name => isCamelCase name ∨ ∃ tier : Tier, name = tier.name

variable {nesting : Nat}

@[simp]
theorem portable_string (text : String) : Portable nesting (.string text) := ⟨.string _, .string _⟩

@[simp]
theorem portable_bool (flag : Bool) : Portable nesting (.bool flag) := ⟨.bool _, .bool _⟩

theorem portable_ofNat {n : Nat} (h : n < UInt64.size) : Portable nesting (ofNat n) :=
  ⟨.integer (by omega) (Int.ofNat_lt.2 h), .number _⟩

theorem portable_ofInt {value : Int} (h : IsInt64 value) : Portable nesting (ofInt value) :=
  ⟨.integer h.1 (Int.lt_trans h.2 (by decide)), .number _⟩

@[simp]
theorem portable_array_iff {items : List Json} :
    Portable (nesting + 1) (.array items) ↔ ∀ item ∈ items, Portable nesting item := by
  constructor
  · rintro ⟨hfits, hnamed⟩ item hitem
    exact ⟨fits_array_iff.1 hfits item hitem, named_array_iff.1 hnamed item hitem⟩
  · exact fun h => ⟨.array fun item hitem => (h item hitem).fits,
      .array fun item hitem => (h item hitem).named⟩

@[simp]
theorem portable_record_iff {fields : List (String × Json)} :
    Portable (nesting + 1) (.record fields) ↔ ∀ field ∈ fields,
      (isCamelCase field.1 ∨ ∃ tier : Tier, field.1 = tier.name) ∧ Portable nesting field.2 := by
  constructor
  · rintro ⟨hfits, hnamed⟩ field hfield
    obtain ⟨hname, hbelow⟩ := named_object_iff.1 hnamed field hfield
    exact ⟨hname, fits_object_iff.1 hfits field hfield, hbelow⟩
  · exact fun h => ⟨.object fun field hfield => (h field hfield).2.fits,
      .object (fun field hfield => (h field hfield).1) fun field hfield => (h field hfield).2.named⟩

@[simp]
theorem portable_ofStrings (strings : List String) :
    Portable (nesting + 1) (ofStrings strings) := by
  simp [ofStrings]

end Json

section Records

variable (nesting : Nat)

theorem GroupSummary.portable_toJson {summary : GroupSummary} (h : summary.InRange) :
    summary.toJson.Portable (nesting + 2) := by
  simp +decide [toJson, Json.portable_ofNat h.size]

theorem TierSummary.portable_toJson {summary : TierSummary} (h : summary.InRange) :
    summary.toJson.Portable (nesting + 4) := by
  have hgroups : ∀ group ∈ summary.topGroups, group.toJson.Portable (nesting + 2) :=
    fun group hgroup => group.portable_toJson nesting (h.topGroups group hgroup)
  simpa +decide [toJson, Json.portable_ofNat h.groupCount, Json.portable_ofNat h.schemaCount]
    using hgroups

theorem ByTier.portable_toJson {α : Type} {write : α → Json} {table : ByTier α}
    (h : ∀ tier x, table.get? tier = some x → (write x).Portable nesting) :
    (table.toJson write).Portable (nesting + 1) := by
  rw [toJson, Json.portable_record_iff, List.forall_mem_map]
  exact fun entry hentry => ⟨.inr ⟨entry.1, rfl⟩, h entry.1 entry.2 (mem_toList.1 hentry)⟩

theorem DocumentSize.portable_toJson {size : DocumentSize} (h : size.InRange) :
    size.toJson.Portable (nesting + 1) := by
  simp +decide [toJson, Json.portable_ofNat h.definitions, Json.portable_ofNat h.bytes]

theorem MergeRecord.portable_toJson (record : MergeRecord) :
    record.toJson.Portable (nesting + 2) := by
  simp +decide [toJson]

theorem NameConflict.portable_toJson (conflict : NameConflict) :
    conflict.toJson.Portable (nesting + 2) := by
  simp +decide [toJson]

theorem ExtractedShape.portable_toJson (shape : ExtractedShape) :
    shape.toJson.Portable (nesting + 2) := by
  simp +decide [toJson]

theorem PlanStats.portable_toJson {stats : PlanStats} (h : stats.InRange) :
    stats.toJson.Portable (nesting + 1) := by
  simp +decide [toJson, Json.portable_ofNat h.groupsMerged, Json.portable_ofNat h.schemasRemoved,
    Json.portable_ofNat h.schemasAdded, Json.portable_ofInt h.estimatedByteDelta]

theorem Report.portable_listField {α : Type} {name : String} {write : α → Json} {items : List α}
    (hname : isCamelCase name) (h : ∀ item, (write item).Portable nesting) :
    ∀ field ∈ listField name write items,
      (isCamelCase field.1 ∨ ∃ tier : Tier, field.1 = tier.name) ∧
        field.2.Portable (nesting + 1) := by
  rw [listField]
  split_ifs
  · exact fun field hfield => absurd hfield List.not_mem_nil
  · simp [hname, h]

theorem Report.portable_toJson {report : Report} (h : report.InRange) :
    report.toJson.Portable (nesting + 6) := by
  have htiers : (report.tiers.toJson TierSummary.toJson).Portable (nesting + 5) :=
    ByTier.portable_toJson (nesting + 4) fun tier summary hsummary =>
      summary.portable_toJson nesting (h.tiers tier summary hsummary)
  have hbefore := report.before.portable_toJson (nesting + 4) h.before
  have hafter := report.after.portable_toJson (nesting + 4) h.after
  have hplan : ∀ stats, report.plan = some stats → stats.toJson.Portable (nesting + 5) :=
    fun stats hstats => stats.portable_toJson _ (h.plan stats hstats)
  rw [toJson, Json.portable_record_iff, toFields]
  simp only [List.forall_mem_append]
  refine ⟨⟨⟨⟨?_, ?_⟩, ?_⟩, ?_⟩, ?_⟩
  · simp +decide [htiers, hbefore, hafter, Json.portable_ofInt h.sizeDelta]
  · exact portable_listField _ (by decide) fun record => record.portable_toJson (nesting + 2)
  · exact portable_listField _ (by decide) fun conflict => conflict.portable_toJson (nesting + 2)
  · exact portable_listField _ (by decide) fun shape => shape.portable_toJson (nesting + 2)
  · rintro field hfield
    rw [Option.mem_toList] at hfield
    obtain ⟨stats, hstats, rfl⟩ := Option.map_eq_some_iff.1 hfield
    have hname : isCamelCase "plan" := by decide
    exact ⟨.inl hname, hplan stats hstats⟩

end Records

/-- Six levels are less than what the reader takes. -/
theorem Report.fits_toJson {report : Report} (h : report.InRange) :
    report.toJson.Fits Json.nestingLimit :=
  (report.portable_toJson 121 h).fits

/-- A JSON value that keeps all of a report. -/
structure Report.KeptBy (report : Report) (value : Json) : Prop where
  /-- Lists at the end and the plan are left out if there are none. -/
  members : ∃ fields, value = .object fields ∧ Fields.keys fields =
    ["tiers", "nearDuplicates", "constraintOnly", "before", "after", "sizeDelta"] ++
      (if report.merges = [] then [] else ["merges"]) ++
      (if report.conflicts = [] then [] else ["conflicts"]) ++
      (if report.extracted = [] then [] else ["extracted"]) ++
      (if report.plan = none then [] else ["plan"])
  /-- At any depth, a member has a name in camel case or that of a tier. -/
  named : value.Named fun name => isCamelCase name ∨ ∃ tier : Tier, name = tier.name
  restored : ofJson? value = some report
  /-- The report is read from either text. -/
  restored_compact : (Json.read? value.compact).bind Report.ofJson? = some report
  restored_pretty : (Json.read? value.pretty).bind Report.ofJson? = some report

/-- What is written of a report gives the report back. -/
theorem Report.keptBy_toJson {report : Report} (h : report.InRange) :
    report.KeptBy report.toJson where
  members := ⟨report.toFields, rfl, report.keys_toFields⟩
  named := (report.portable_toJson 0 h).named
  restored := Report.ofJson?_rearranged Json.rearranges_id h
  restored_compact := by
    rw [Json.read?_compact (fits_toJson h), Option.bind_some]
    exact Report.ofJson?_rearranged Json.rearranges_inOrder h
  restored_pretty := by
    rw [Json.read?_pretty (fits_toJson h), Option.bind_some]
    exact Report.ofJson?_rearranged Json.rearranges_inOrder h

/-- A report on two of the tiers, with the largest and the least numbers, without merges and
extracted shapes. -/
def Report.sparse : Report where
  tiers := {
    structural := some ⟨1, 2, [⟨2, ["Pet", "Pet \"2\""]⟩]⟩
    attributes := some ⟨UInt64.size - 1, 0, []⟩ }
  nearDuplicates := [["Pet", "Pet \"2\""], []]
  constraintOnly := []
  before := ⟨3, 0⟩
  after := ⟨2, UInt64.size - 1⟩
  sizeDelta := -(Nat.pow 2 63 : Int)
  merges := []
  conflicts := [⟨"Pet", "Pet2", ["Pet \"2\""], ["Pet"]⟩]
  extracted := []
  plan := some { estimatedByteDelta := -1 }

theorem Report.keptBy_toJson_sparse : sparse.InRange ∧ sparse.KeptBy sparse.toJson ∧
    Fields.keys sparse.toFields = ["tiers", "nearDuplicates", "constraintOnly", "before", "after",
      "sizeDelta", "conflicts", "plan"] := by
  have hrange : sparse.InRange := by
    constructor
    · intro tier summary hsummary
      cases tier <;> cases hsummary
      · refine ⟨by decide, by decide, fun group hgroup => ?_⟩
        cases List.mem_singleton.1 hgroup
        exact ⟨by decide⟩
      · exact ⟨by decide, by decide, nofun⟩
    · exact ⟨by decide, by decide⟩
    · exact ⟨by decide, by decide⟩
    · exact ⟨by decide, by decide⟩
    · intro stats hstats
      cases hstats
      exact ⟨by decide, by decide, by decide, by decide, by decide⟩
  exact ⟨hrange, keptBy_toJson hrange, rfl⟩

end SchemaMerge
