import SchemaMerge.Proofs.Revival

/-!
What the report of a run counts. The report knows no passes. It takes the map of the whole run and
the document from which the passes started, and makes a record for each name that a definition of
that document was sent to (`RenameMap.mem_recorded_iff`). So it counts as gone every definition whose
name is in the map, also where the name has come back, and as added the new names that have a record.
The counts add up iff no name of a definition has come back and every definition that was created
and is left has a record (`Document.report_counts_iff`).
-/

namespace SchemaMerge

section Counting

variable {α : Type}

/-- Two lists without repetitions have as many items of a kind if these are the same. -/
theorem countP_eq_of_same {p q : α → Bool} {left right : List α} (hl : left.Nodup)
    (hr : right.Nodup) (h : ∀ x, x ∈ left ∧ p x ↔ x ∈ right ∧ q x) :
    left.countP p = right.countP q := by
  rw [List.countP_eq_length_filter, List.countP_eq_length_filter]
  refine List.Perm.length_eq ((List.perm_ext_iff_of_nodup (hl.filter p) (hr.filter q)).2 ?_)
  intro x
  rw [List.mem_filter, List.mem_filter]
  exact h x

theorem countP_split (p q : α → Bool) (items : List α) :
    items.countP p =
      items.countP (fun x => p x && q x) + items.countP fun x => p x && !q x := by
  rw [List.countP_eq_countP_filter_add items p q, List.countP_filter, List.countP_filter]

variable {κ : Type} [DecidableEq κ]

/-- A key is that of one list at most, the others are counted without it. -/
theorem sum_length_eq {entries : List (κ × List α)} (key : κ)
    (h : (entries.map (·.1)).Nodup) :
    (entries.map (·.2.length)).foldr (· + ·) 0 = ((entries.lookup key).getD []).length +
      ((entries.filter fun entry => entry.1 ≠ key).map (·.2.length)).foldr (· + ·) 0 := by
  induction entries with
  | nil => rfl
  | cons head rest ih =>
      obtain ⟨k, gathered⟩ := head
      obtain ⟨hk, hrest⟩ := List.nodup_cons.1 h
      by_cases hkey : key = k
      · subst hkey
        have hall : rest.filter (fun entry => entry.1 ≠ key) = rest := by
          rw [List.filter_eq_self]
          intro entry hentry
          simpa using fun heq : entry.1 = key => hk (List.mem_map.2 ⟨entry, hentry, heq⟩)
        rw [List.filter_cons_of_neg (by simp), hall, List.lookup_cons_self]
        rfl
      · have hne : (key == k) = false := beq_false_of_ne hkey
        have hlookup : ((k, gathered) :: rest).lookup key = rest.lookup key := by
          rw [List.lookup_cons, hne]
        rw [List.filter_cons_of_pos (by simp [Ne.symm hkey]), hlookup, List.map_cons,
          List.foldr_cons, ih hrest, List.map_cons, List.foldr_cons]
        omega

/-- Every item is gathered once. -/
theorem sum_length_gather (items : List (κ × α)) :
    ((gather items).map (·.2.length)).foldr (· + ·) 0 = items.length := by
  induction items with
  | nil => rfl
  | cons head rest ih =>
      obtain ⟨key, item⟩ := head
      rw [gather, List.map_cons, List.foldr_cons, List.length_cons, List.length_cons, ← ih,
        sum_length_eq key (nodup_keys_gather rest)]
      omega

theorem mem_keys_gather_iff {items : List (κ × α)} {key : κ} :
    key ∈ (gather items).map (·.1) ↔ ∃ item, (key, item) ∈ items := by
  constructor
  · intro h
    obtain ⟨⟨_, gathered⟩, hmem, rfl⟩ := List.mem_map.1 h
    obtain ⟨item, hitem⟩ := List.exists_mem_of_ne_nil gathered (ne_nil_of_mem_gather hmem)
    exact ⟨item, (mem_gathered_iff hmem).1 hitem⟩
  · rintro ⟨item, hitem⟩
    obtain ⟨gathered, hgathered⟩ := exists_mem_gather hitem
    exact List.mem_map.2 ⟨_, hgathered, rfl⟩

end Counting

namespace RenameMap

variable {map : RenameMap} {before : Document} {tier : MergeTier}

/-- The renames of definitions, turned round. -/
def known (map : RenameMap) (before : Document) : List (String × String) :=
  (map.aliases.entries.filter fun entry => before.definitions.contains entry.1).map fun entry =>
    (entry.2, entry.1)

theorem mem_known_iff {name source : String} : (name, source) ∈ map.known before ↔
    before.definitions.contains source ∧ map.get? source = some name := by
  rw [known, List.mem_map]
  constructor
  · rintro ⟨⟨_, _⟩, hmem, heq⟩
    cases heq
    obtain ⟨hentry, hcontains⟩ := List.mem_filter.1 hmem
    exact ⟨hcontains, NameMap.get?_eq_some_iff.2 hentry⟩
  · rintro ⟨hcontains, hget⟩
    exact ⟨(source, name), List.mem_filter.2 ⟨NameMap.get?_eq_some_iff.1 hget, hcontains⟩, rfl⟩

theorem length_known : (map.known before).length =
    before.definitions.names.countP fun name => (map.get? name).isSome := by
  have hkeys : (map.known before).length =
      map.aliases.names.countP before.definitions.contains := by
    rw [known, List.length_map, NameMap.names, Fields.keys, List.countP_map,
      List.countP_eq_length_filter]
    rfl
  rw [hkeys]
  refine countP_eq_of_same map.aliases.nodup_names before.definitions.nodup_names fun name => ?_
  rw [NameMap.mem_names_iff, NameMap.mem_names_iff]
  exact and_comm

/-- The names that have a record. -/
def recorded (map : RenameMap) (before : Document) (tier : MergeTier) : List String :=
  (map.mergeRecords before tier).map (·.canonicalName)

theorem recorded_perm :
    (map.recorded before tier).Perm ((gather (map.known before)).map (·.1)) := by
  rw [recorded, mergeRecords, List.map_map]
  exact (NameMap.entries_ofList_perm (nodup_keys_gather _)).map _

theorem nodup_recorded : (map.recorded before tier).Nodup :=
  recorded_perm.nodup_iff.2 (nodup_keys_gather _)

/-- A name has a record iff a definition was sent to it. -/
theorem mem_recorded_iff {name : String} : name ∈ map.recorded before tier ↔
    ∃ source, before.definitions.contains source ∧ map.get? source = some name := by
  rw [recorded_perm.mem_iff, mem_keys_gather_iff]
  exact exists_congr fun _ => mem_known_iff

/-- What the records count as removed are the definitions that the map has. -/
theorem schemasRemoved_mergeRecords (byteDelta : Int) :
    (Document.overallStats (map.mergeRecords before tier) byteDelta).schemasRemoved =
      before.definitions.names.countP fun name => (map.get? name).isSome := by
  rw [← length_known, ← sum_length_gather,
    ← ((NameMap.entries_ofList_perm (nodup_keys_gather (map.known before))).map _).foldr_eq,
    Document.overallStats, mergeRecords, List.map_map]
  rfl

/-- What the records count as added are the names with a record that are no definitions. -/
theorem schemasAdded_mergeRecords (byteDelta : Int) :
    (Document.overallStats (map.mergeRecords before tier) byteDelta).schemasAdded =
      (map.recorded before tier).countP fun name => !before.definitions.contains name := by
  rw [recorded, List.countP_map, Document.overallStats, ← List.countP_eq_length_filter]
  refine List.countP_congr fun record hrecord => ?_
  obtain ⟨entry, _, rfl⟩ := List.mem_map.1 hrecord
  rfl

end RenameMap

namespace Document

/-- The definitions that the map says are gone although the output has them. -/
def returned (start output : Document) (map : RenameMap) : List String :=
  start.definitions.names.filter fun name =>
    (map.get? name).isSome && output.definitions.contains name

/-- The definitions of the output that are new and have no record. -/
def unrecorded (start output : Document) (recorded : List String) : List String :=
  output.definitions.names.filter fun name =>
    !start.definitions.contains name && name ∉ recorded

theorem mem_returned_iff {start output : Document} {map : RenameMap} {name : String} :
    name ∈ start.returned output map ↔ start.definitions.contains name ∧
      (map.get? name).isSome ∧ output.definitions.contains name := by
  rw [returned, List.mem_filter, NameMap.mem_names_iff, Bool.and_eq_true]

theorem mem_unrecorded_iff {start output : Document} {recorded : List String} {name : String} :
    name ∈ start.unrecorded output recorded ↔ output.definitions.contains name ∧
      start.definitions.contains name = false ∧ name ∉ recorded := by
  rw [unrecorded, List.mem_filter, NameMap.mem_names_iff, Bool.and_eq_true, Bool.not_eq_true',
    decide_eq_true_iff]

end Document

namespace Passes

variable {options : Options} {table : NamingTable} {start output : Document} {plans : List Plan}
  {name : String}

/-- A definition of the start that the map of the passes does not have is one of the output. -/
theorem contains_of_get?_composed_eq_none (h : Passes options table start plans output)
    (hname : start.definitions.contains name) (hkept : (composed .empty plans).get? name = none) :
    output.definitions.contains name := by
  refine h.contains_of_kept hname fun plan hplan => ?_
  rw [← Option.not_isSome_iff_eq_none]
  intro hsome
  have hlisted : ((composed .empty plans).get? name).isSome :=
    isSome_get?_composed.2 (.inr ⟨plan, hplan, hsome⟩)
  rw [hkept] at hlisted
  cases hlisted

/-- The map of the passes has all but those definitions of the start that the output has, and also
those that have come back. -/
theorem countP_old (h : Passes options table start plans output) :
    output.definitions.names.countP start.definitions.contains +
        start.definitions.names.countP (fun name => ((composed .empty plans).get? name).isSome) =
      start.definitionCount + (start.returned output (composed .empty plans)).length := by
  have hboth : output.definitions.names.countP start.definitions.contains =
      start.definitions.names.countP output.definitions.contains := by
    refine countP_eq_of_same output.definitions.nodup_names start.definitions.nodup_names ?_
    intro name
    rw [NameMap.mem_names_iff, NameMap.mem_names_iff]
    exact and_comm
  have hstays : start.definitions.names.countP (fun name =>
        output.definitions.contains name && !((composed .empty plans).get? name).isSome) =
      start.definitions.names.countP fun name => !((composed .empty plans).get? name).isSome := by
    refine List.countP_congr fun name hname => ?_
    rw [NameMap.mem_names_iff] at hname
    rw [Bool.and_eq_true]
    refine and_iff_right_of_imp fun hkept => h.contains_of_get?_composed_eq_none hname ?_
    rwa [Bool.not_eq_true', Option.isSome_eq_false_iff, Option.isNone_iff_eq_none] at hkept
  have hreturned : (start.returned output (composed .empty plans)).length =
      start.definitions.names.countP fun name =>
        output.definitions.contains name && ((composed .empty plans).get? name).isSome := by
    rw [Document.returned, ← List.countP_eq_length_filter]
    exact List.countP_congr fun name _ => by rw [Bool.and_comm]
  have hall := List.length_eq_countP_add_countP
    (fun name => ((composed .empty plans).get? name).isSome) (l := start.definitions.names)
  rw [hboth, countP_split _ fun name => ((composed .empty plans).get? name).isSome, hstays,
    ← hreturned, Document.definitionCount, ← NameMap.length_names, hall]
  simp only [Bool.not_eq_true, Bool.decide_eq_false]
  omega

/-- The definitions of the output that are new have a record or not. All that has a record and is new
is such a definition. -/
theorem countP_new (h : Passes options table start plans output) (tier : MergeTier) :
    output.definitions.names.countP (fun name => !start.definitions.contains name) =
      ((composed .empty plans).recorded start tier).countP
          (fun name => !start.definitions.contains name) +
        (start.unrecorded output ((composed .empty plans).recorded start tier)).length := by
  rw [countP_split _ fun name => decide (name ∈ (composed .empty plans).recorded start tier),
    Document.unrecorded, ← List.countP_eq_length_filter]
  congr 1
  · refine countP_eq_of_same output.definitions.nodup_names RenameMap.nodup_recorded ?_
    intro name
    rw [NameMap.mem_names_iff, Bool.and_eq_true, decide_eq_true_iff]
    constructor
    · exact fun ⟨_, hnew, hrecorded⟩ => ⟨hrecorded, hnew⟩
    · rintro ⟨hrecorded, hnew⟩
      obtain ⟨source, _, hget⟩ := RenameMap.mem_recorded_iff.1 hrecorded
      exact ⟨h.contains_of_get?_composed hget, hnew, hrecorded⟩
  · exact List.countP_congr fun name _ => by rw [decide_not]

/-- A definition of the start has come back iff the output has it although the map has it too. -/
theorem mem_returned_composed_iff (h : Passes options table start plans output) :
    name ∈ start.returned output (composed .empty plans) ↔
      start.definitions.contains name ∧ Revived plans name := by
  rw [Document.mem_returned_iff, ← h.renamed_and_contains_iff, isSome_get?_composed]
  exact and_congr_right' (and_congr_left' (or_iff_right Bool.false_ne_true))

/-- What is left after the passes, against what the records count. -/
theorem definitionCount_balance (h : Passes options table start plans output) (tier : MergeTier)
    (byteDelta : Int) :
    let stats := Document.overallStats ((composed .empty plans).mergeRecords start tier) byteDelta
    output.definitionCount + stats.schemasRemoved =
      start.definitionCount + stats.schemasAdded +
        (start.returned output (composed .empty plans)).length +
        (start.unrecorded output ((composed .empty plans).recorded start tier)).length := by
  have hold := h.countP_old
  have hnew := h.countP_new tier
  have hall := List.length_eq_countP_add_countP start.definitions.contains
    (l := output.definitions.names)
  simp only [Bool.not_eq_true, Bool.decide_eq_false] at hall
  dsimp only
  rw [RenameMap.schemasRemoved_mergeRecords, RenameMap.schemasAdded_mergeRecords,
    Document.definitionCount, ← NameMap.length_names, hall]
  omega

end Passes

namespace Document

/-- What the report of a consolidation says of its passes. -/
theorem report_of_consolidate? {document start : Document} {options : Options}
    {result : Consolidation} {extracted : List ExtractedShape} {final : Progress}
    (h : document.consolidate? options = .ok result)
    (hstart : document.start? options = .ok (start, extracted))
    (hfinal : document.progress? options = .ok final) :
    result.report.after = .of result.document ∧
      result.report.merges = final.renameMap.mergeRecords start options.tier ∧
      result.report.plan = some (overallStats result.report.merges final.byteDelta) := by
  obtain ⟨table, htable, h⟩ := bind_eq_ok.1 h
  obtain ⟨_, _, h⟩ := bind_eq_ok.1 h
  obtain ⟨_, hstart', h⟩ := bind_eq_ok.1 h
  obtain ⟨last, hlast, h⟩ := bind_eq_ok.1 h
  rw [hstart] at hstart'
  cases hstart'
  have hprogress : document.progress? options = .ok last :=
    bind_eq_ok.2 ⟨table, htable, bind_eq_ok.2 ⟨(start, extracted), hstart, hlast⟩⟩
  rw [hfinal] at hprogress
  cases hprogress
  rw [pure_eq_ok] at h
  subst h
  exact ⟨rfl, rfl, rfl⟩

/-- The report of a consolidation never counts more definitions as gone than there were. Its counts
add up iff no definition that the passes started from has come back and every definition that is new
has a record. -/
theorem report_counts_iff {document : Document} {options : Options} {result : Consolidation}
    (h : document.consolidate? options = .ok result) :
    ∃ start extracted final stats, document.start? options = .ok (start, extracted) ∧
      document.progress? options = .ok final ∧ result.report.plan = some stats ∧
      stats.schemasRemoved ≤ start.definitionCount ∧
      (result.report.after.definitions =
          start.definitionCount - stats.schemasRemoved + stats.schemasAdded ↔
        (∀ name, start.definitions.contains name → ¬Revived final.plans name) ∧
        ∀ name, result.document.definitions.contains name →
          start.definitions.contains name = false →
            ∃ record ∈ result.report.merges, record.canonicalName = name) := by
  obtain ⟨_, _, start, extracted, final, _, _, hstart, hpasses, hprogress, _⟩ :=
    consolidate?_eq_ok h
  obtain ⟨hafter, hmerges, hplan⟩ := report_of_consolidate? h hstart hprogress
  have hbalance := hpasses.definitionCount_balance options.tier final.byteDelta
  have hmap : composed .empty final.plans = final.renameMap := rfl
  rw [hmap] at hbalance
  have hle : (overallStats result.report.merges final.byteDelta).schemasRemoved ≤
      start.definitionCount := by
    rw [hmerges, RenameMap.schemasRemoved_mergeRecords, definitionCount, ← NameMap.length_names]
    exact List.countP_le_length
  refine ⟨start, extracted, final, _, hstart, hprogress, hplan, hle, ?_⟩
  have hnone : start.returned result.document final.renameMap = [] ↔
      ∀ name, start.definitions.contains name → ¬Revived final.plans name := by
    rw [List.eq_nil_iff_forall_not_mem]
    refine forall_congr' fun name => ?_
    rw [← hmap, hpasses.mem_returned_composed_iff, not_and]
  have hrecords : start.unrecorded result.document
        (final.renameMap.recorded start options.tier) = [] ↔
      ∀ name, result.document.definitions.contains name →
        start.definitions.contains name = false →
          ∃ record ∈ result.report.merges, record.canonicalName = name := by
    rw [List.eq_nil_iff_forall_not_mem]
    refine forall_congr' fun name => ?_
    rw [mem_unrecorded_iff, hmerges, RenameMap.recorded, List.mem_map, not_and, not_and, not_not]
  rw [← hnone, ← hrecords, ← List.length_eq_zero_iff, ← List.length_eq_zero_iff, hafter]
  rw [← hmerges] at hbalance
  dsimp only [DocumentSize.of] at hbalance ⊢
  omega

theorem report_counts_iff_twins : ∃ result, twins.consolidate? {} = .ok result ∧
    result.report.after.definitions = 1 ∧
    ∃ start extracted final stats, twins.start? {} = .ok (start, extracted) ∧
      twins.progress? {} = .ok final ∧ result.report.plan = some stats ∧
      stats.schemasRemoved ≤ start.definitionCount ∧
      (result.report.after.definitions =
          start.definitionCount - stats.schemasRemoved + stats.schemasAdded ↔
        (∀ name, start.definitions.contains name → ¬Revived final.plans name) ∧
        ∀ name, result.document.definitions.contains name →
          start.definitions.contains name = false →
            ∃ record ∈ result.report.merges, record.canonicalName = name) := by
  obtain ⟨result, hresult, _, hcount⟩ := consolidate?_twins
  exact ⟨result, hresult, hcount, report_counts_iff hresult⟩

theorem report_miscounts_successor : ∃ result stats, successor.consolidate? {} = .ok result ∧
    successor.start? {} = .ok (successor, []) ∧ result.report.plan = some stats ∧
    successor.definitionCount = 4 ∧ stats.schemasRemoved = 3 ∧ stats.schemasAdded = 0 ∧
    result.report.after.definitions = 2 := by
  obtain ⟨result, hresult, _, hstats, hafter⟩ := consolidate?_successor
  obtain ⟨stats, hplan, hcounts⟩ := Option.map_eq_some_iff.1 hstats
  obtain ⟨hremoved, hadded⟩ := Prod.mk.inj hcounts
  exact ⟨result, stats, hresult, rfl, hplan, by decide +kernel, hremoved, hadded, hafter⟩

end Document

end SchemaMerge
