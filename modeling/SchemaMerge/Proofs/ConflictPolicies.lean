import SchemaMerge.Proofs.CleanPlans

/-!
The two policies for names that are taken. A run that stops at such a name and one that gives the
group a number ask the same questions of the same draft until a name is taken for the first time.
There the one records a conflict and goes on, and the other one fails with what would be recorded
(`Draft.addGroup_fail`). So what comes of the strict policy can be read off the plan that the other
one makes: it is that plan if nothing is recorded in it, and else the failure that its first conflict
tells of (`Plan.ofGroups?_policies`).
-/

namespace SchemaMerge

/-- The failure that stands for a conflict where conflicts are not put up with. -/
def NameConflict.refusal (conflict : NameConflict) : Error :=
  .nameTaken conflict.requested [conflict.heldBy, conflict.members]

/-- A result that was got with the given conflicts on the way, for those who put up with none. -/
def strictly {α : Type} (conflicts : List NameConflict) (result : α) : Except Error α :=
  match conflicts.head? with
  | none => .ok result
  | some first => .error first.refusal

variable {definitions : NameMap Json} {table : NamingTable}

namespace Draft

/-- Where the one policy records a conflict, the other one fails with it. -/
theorem assign?_fail {draft : Draft} {group : MergeGroup} {requested assigned : String}
    {conflict : Option NameConflict}
    (h : draft.assign? definitions .suffix group requested = .ok (assigned, conflict)) :
    draft.assign? definitions .fail group requested =
      strictly conflict.toList (assigned, conflict) := by
  unfold assign? at h ⊢
  dsimp only at h ⊢
  split at h
  case isTrue hfree =>
    cases h
    rw [if_pos hfree]
    rfl
  case isFalse htaken =>
    cases h
    rw [if_neg htaken]
    rfl

/-- For one more group the policies agree unless a conflict is recorded for it. -/
theorem addGroup_fail {draft next : Draft} {group : MergeGroup}
    (h : draft.addGroup definitions table .suffix group = .ok next) :
    ∃ found, next.conflicts = draft.conflicts ++ found ∧
      draft.addGroup definitions table .fail group = strictly found next := by
  obtain ⟨⟨canonical, conflict⟩, hassign, hnext⟩ := bind_eq_ok.1 h
  have hkept : ∀ made : Draft, (((made.create definitions group canonical).merge definitions group
      canonical).claim group canonical).conflicts = made.conflicts := by
    intro made
    unfold claim merge create
    split <;> split <;> rfl
  rw [pure_eq_ok] at hnext
  refine ⟨conflict.toList, ?_, ?_⟩
  · rw [← hnext, hkept]
  · unfold addGroup
    dsimp only
    rw [assign?_fail hassign]
    cases conflict with
    | none =>
        rw [← hnext]
        rfl
    | some first => rfl

/-- So they agree for a whole list of groups if no conflict is recorded for any of them. What is
recorded after the first conflict does not matter. -/
theorem foldlM_addGroup_fail {groups : List MergeGroup} {draft final : Draft}
    (h : groups.foldlM (addGroup definitions table .suffix) draft = .ok final) :
    ∃ found, final.conflicts = draft.conflicts ++ found ∧
      groups.foldlM (addGroup definitions table .fail) draft = strictly found final := by
  induction groups generalizing draft with
  | nil =>
      rw [List.foldlM_nil, pure_eq_ok] at h
      subst h
      exact ⟨[], (List.append_nil _).symm, rfl⟩
  | cons group groups ih =>
      rw [List.foldlM_cons, bind_eq_ok] at h
      obtain ⟨next, hnext, hrest⟩ := h
      obtain ⟨here, hhere, hgroup⟩ := addGroup_fail hnext
      obtain ⟨later, hlater, hgroups⟩ := ih hrest
      refine ⟨here ++ later, by rw [hlater, hhere, List.append_assoc], ?_⟩
      rw [List.foldlM_cons, hgroup]
      cases here with
      | nil =>
          rw [List.nil_append, ← hgroups]
          rfl
      | cons first others => rfl

end Draft

namespace Plan

variable {groups : List MergeGroup} {document : Document}

/-- What the strict policy makes of groups that can be planned with numbers. -/
theorem ofGroups?_fail {plan : Plan}
    (h : Plan.ofGroups? groups document table .suffix = .ok plan) :
    Plan.ofGroups? groups document table .fail = strictly plan.conflicts plan := by
  obtain ⟨draft, hdraft, hmade⟩ := bind_eq_ok.1 h
  obtain ⟨renameMap, hmap, hmade⟩ := bind_eq_ok.1 hmade
  rw [pure_eq_ok] at hmade
  obtain ⟨found, hfound, hstrict⟩ := Draft.foldlM_addGroup_fail hdraft
  have hconflicts : plan.conflicts = found := by
    rw [← hmade]
    exact hfound
  rw [hconflicts]
  unfold Plan.ofGroups?
  rw [hstrict]
  cases found with
  | nil => exact bind_eq_ok.2 ⟨draft, rfl, bind_eq_ok.2 ⟨renameMap, hmap, pure_eq_ok.2 hmade⟩⟩
  | cons first later => rfl

/-- The groups of one classification can be planned with numbers. If no conflict is recorded in that
plan, the strict policy makes the same plan, and else it fails: with the name that was asked for in
the first conflict, who held it and who asked for it. -/
theorem ofGroups?_policies {limit : UInt64} {tier : MergeTier} {keepSeparate : List (List String)}
    (table : NamingTable)
    (h : classifyForMerge limit tier keepSeparate document.definitions = .ok groups) :
    ∃ plan, Plan.ofGroups? groups document table .suffix = .ok plan ∧
      (plan.conflicts = [] → Plan.ofGroups? groups document table .fail = .ok plan) ∧
      ∀ first later, plan.conflicts = first :: later →
        Plan.ofGroups? groups document table .fail =
          .error (.nameTaken first.requested [first.heldBy, first.members]) := by
  obtain ⟨plan, hplan⟩ := exists_ofGroups?_suffix table (Classified.of_classifyForMerge h)
  refine ⟨plan, hplan, fun hnone => ?_, fun first later hfirst => ?_⟩
  · rw [ofGroups?_fail hplan, hnone]
    rfl
  · rw [ofGroups?_fail hplan, hfirst]
    rfl

set_option maxRecDepth 100000 in
theorem ofGroups?_policies_pairs : ∃ groups plan,
    classifyForMerge 64 .structural [] pairs.definitions = .ok groups ∧
    Plan.ofGroups? groups pairs pairNames .suffix = .ok plan ∧
    plan.conflicts = [⟨"Pair", "Pair3", ["PairC", "PairD"], ["PairA", "PairB"]⟩] ∧
    Plan.ofGroups? groups pairs pairNames .fail =
      .error (.nameTaken "Pair" [["PairA", "PairB"], ["PairC", "PairD"]]) := by
  obtain ⟨groups, hgroups, hconflicts⟩ : ∃ groups,
      classifyForMerge 64 .structural [] pairs.definitions = .ok groups ∧
        (Plan.ofGroups? groups pairs pairNames .suffix).toOption.map Plan.conflicts =
          some [⟨"Pair", "Pair3", ["PairC", "PairD"], ["PairA", "PairB"]⟩] :=
    exists_ok_of_bind (by decide +kernel)
  obtain ⟨plan, hplan, _, hrefused⟩ := ofGroups?_policies pairNames hgroups
  rw [hplan] at hconflicts
  have hfirst := Option.some.inj hconflicts
  exact ⟨groups, plan, hgroups, hplan, hfirst, hrefused _ [] hfirst⟩

end Plan

end SchemaMerge
