import SchemaMerge.Proofs.Tracking

/-!
That the passes come to an end. The loop of passes goes on until no group is left and knows no bound
on their number (`Progress.Ends`). Every pass leaves fewer definitions than there were, so the loop
ends after no more passes than there are definitions, and a bounded run ends as the loop does
(`Progress.exists_ends_run?`).
-/

namespace SchemaMerge

namespace Progress

/-- The loop of passes, started from this state, ends in this way after so many passes. -/
inductive Ends (options : Options) (table : NamingTable) :
    Progress → Nat → Except Error Progress → Prop where
  /-- What is left cannot be classified. -/
  | unclassified {progress : Progress} {error : Error}
      (hgroups : classifyForMerge options.maxDepth options.tier options.keepSeparate
        progress.working.definitions = .error error) :
      Ends options table progress 0 (.error error)
  /-- No group is left. -/
  | done {progress : Progress}
      (hgroups : classifyForMerge options.maxDepth options.tier options.keepSeparate
        progress.working.definitions = .ok []) :
      Ends options table progress 0 (.ok progress)
  /-- The groups that are left cannot be merged. -/
  | refused {progress : Progress} {groups : List MergeGroup} {error : Error}
      (hgroups : classifyForMerge options.maxDepth options.tier options.keepSeparate
        progress.working.definitions = .ok groups)
      (hne : groups ≠ []) (hpass : progress.pass? options table groups = .error error) :
      Ends options table progress 0 (.error error)
  | pass {progress next : Progress} {groups : List MergeGroup} {passes : Nat}
      {outcome : Except Error Progress}
      (hgroups : classifyForMerge options.maxDepth options.tier options.keepSeparate
        progress.working.definitions = .ok groups)
      (hne : groups ≠ []) (hpass : progress.pass? options table groups = .ok next)
      (hrest : Ends options table next passes outcome) :
      Ends options table progress (passes + 1) outcome

variable {options : Options} {table : NamingTable}

/-- A run that may go through more passes than there are definitions ends as the loop does. -/
theorem exists_ends_run? (progress : Progress) {fuel : Nat}
    (hfuel : progress.working.definitionCount < fuel) :
    ∃ passes ≤ progress.working.definitionCount,
      Ends options table progress passes (progress.run? options table fuel) := by
  induction fuel generalizing progress with
  | zero => omega
  | succ fuel ih =>
      rw [run?]
      cases hgroups : classifyForMerge options.maxDepth options.tier options.keepSeparate
          progress.working.definitions with
      | error error => exact ⟨0, Nat.zero_le _, .unclassified hgroups⟩
      | ok groups =>
          by_cases hne : groups = []
          · subst hne
            exact ⟨0, Nat.zero_le _, .done hgroups⟩
          have hempty : ¬groups.isEmpty := by simpa using hne
          cases hpass : progress.pass? options table groups with
          | error error =>
              refine ⟨0, Nat.zero_le _, ?_⟩
              change Ends options table progress 0 (if groups.isEmpty then _ else _)
              rw [if_neg hempty, hpass]
              exact .refused hgroups hne hpass
          | ok next =>
              obtain ⟨_, hp, _⟩ := exists_pass hgroups hne hpass
              have hlt := hp.definitionCount_lt
              obtain ⟨passes, hle, hends⟩ := ih next (by omega)
              refine ⟨passes + 1, by omega, ?_⟩
              change Ends options table progress (passes + 1) (if groups.isEmpty then _ else _)
              rw [if_neg hempty, hpass]
              exact .pass hgroups hne hpass hends

/-- The loop ends in one way only. -/
theorem Ends.unique {progress : Progress} {m n : Nat} {outcome other : Except Error Progress}
    (h : Ends options table progress m outcome) (h' : Ends options table progress n other) :
    m = n ∧ outcome = other := by
  induction h generalizing n with
  | unclassified hgroups => cases h' <;> simp_all
  | done hgroups => cases h' <;> simp_all
  | refused hgroups hne hpass => cases h' <;> simp_all
  | pass hgroups hne hpass _ ih =>
      cases h' with
      | pass hgroups' hne' hpass' hrest' =>
          rw [hgroups, Except.ok.injEq] at hgroups'
          subst hgroups'
          rw [hpass, Except.ok.injEq] at hpass'
          subst hpass'
          exact (ih hrest').imp (congrArg (· + 1)) id
      | _ => simp_all

end Progress

namespace Document

/-- Every pass leaves fewer definitions. So the passes of a consolidation come to an end, in one way
and after no more of them than there are definitions to start from, and the consolidation has the
document that they end with or fails as they do. -/
theorem consolidate?_ends (document : Document) (options : Options) :
    (∀ table groups plan next, Pass options table document groups plan next →
      next.definitionCount < document.definitionCount) ∧
    ∀ table report start extracted, Naming.table? options.namingRules = .ok table →
      document.analyze? options = .ok report →
      document.start? options = .ok (start, extracted) →
      ∃ passes ≤ start.definitionCount, ∃ outcome,
        Progress.Ends options table { working := start } passes outcome ∧
        (∀ other ending, Progress.Ends options table { working := start } other ending →
          other = passes ∧ ending = outcome) ∧
        (document.consolidate? options).map (·.document) = outcome.map (·.working) := by
  refine ⟨fun table groups plan next hpass => hpass.definitionCount_lt, ?_⟩
  intro table report start extracted htable hreport hstart
  obtain ⟨passes, hle, hends⟩ : ∃ passes ≤ start.definitionCount,
      Progress.Ends options table { working := start } passes
        (Progress.run? { working := start } options table (start.definitionCount + 1)) :=
    Progress.exists_ends_run? { working := start } (Nat.lt_succ_self start.definitionCount)
  refine ⟨passes, hle, _, hends, fun other ending hother => hother.unique hends, ?_⟩
  rw [consolidate?, htable, hreport, hstart]
  change Except.map _ (Progress.run? { working := start } options table _ >>= _) = _
  cases Progress.run? { working := start } options table (start.definitionCount + 1) with
  | error error => rfl
  | ok final => rfl

set_option maxRecDepth 100000 in
theorem consolidate?_ends_twins : ∃ groups plan next report passes outcome,
    Pass {} Naming.conventions twins groups plan next ∧
    next.definitionCount < twins.definitionCount ∧
    Naming.table? (Options.namingRules {}) = .ok Naming.conventions ∧
    twins.analyze? {} = .ok report ∧ twins.start? {} = .ok (twins, []) ∧
    passes ≤ twins.definitionCount ∧
    Progress.Ends {} Naming.conventions { working := twins } passes outcome ∧
    (twins.consolidate? {}).map (·.document) = outcome.map (·.working) := by
  obtain ⟨groups, hgroups, hplan⟩ : ∃ groups,
      classifyForMerge 64 .structural [] twins.definitions = .ok groups ∧
        (groups.isEmpty, (Plan.ofGroups? groups twins Naming.conventions .suffix).toOption.map
          fun plan => (twins.repoint? plan.renameMap).toOption.map definitionCount) =
            (false, some (some 1)) :=
    exists_ok_of_toOption (by decide +kernel)
  obtain ⟨hne, hplan⟩ := Prod.mk.inj hplan
  obtain ⟨plan, hplan, hnext⟩ := exists_ok_of_toOption hplan
  obtain ⟨next, hnext, _⟩ := exists_ok_of_toOption hnext
  obtain ⟨report, hreport, _⟩ : ∃ report, twins.analyze? {} = .ok report ∧
      report.before.definitions = 2 :=
    exists_ok_of_toOption (by decide +kernel)
  have hpass : Pass {} Naming.conventions twins groups plan next :=
    ⟨hgroups, by simpa using hne, hplan, hnext⟩
  obtain ⟨hfewer, hends⟩ := consolidate?_ends twins {}
  obtain ⟨passes, hle, outcome, hends, _, houtcome⟩ := hends _ report twins [] rfl hreport rfl
  exact ⟨groups, plan, next, report, passes, outcome, hpass, hfewer _ _ _ _ hpass, rfl, hreport,
    rfl, hle, hends, houtcome⟩

end Document

end SchemaMerge
