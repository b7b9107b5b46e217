import SchemaMerge.Proofs.Passes

/-!
Where the map of a whole run sends a name. The map is put together pass by pass with
`RenameMap.thenMap`, in which what a later pass says of a name takes the place of all that was known
of it. That is right as long as the later pass finds the same definition under the name. It goes
wrong for a name that was given up and then given to another definition (`Misled`): the map of the
run says then where that other definition went.
-/

namespace SchemaMerge

/-- The name that a definition has after passes with the given plans, one after the other. -/
def follow (plans : List Plan) (name : String) : String :=
  plans.foldl (fun name plan => plan.renameMap.target name) name

/-- The last plan to rename `name` meets another definition under it, and one that ends under
another name than the definition that was called `name` at first. -/
def Misled (plans : List Plan) (name : String) : Prop :=
  ∃ before plan after, plans = before ++ plan :: after ∧ (plan.renameMap.get? name).isSome ∧
    (∀ later ∈ after, later.renameMap.get? name = none) ∧
    follow (plan :: after) (follow before name) ≠ follow (plan :: after) name

theorem follow_append (before after : List Plan) (name : String) :
    follow (before ++ after) name = follow after (follow before name) :=
  List.foldl_append

/-- A name that no plan renames is kept. -/
theorem follow_of_kept {plans : List Plan} {name : String}
    (h : ∀ plan ∈ plans, plan.renameMap.get? name = none) : follow plans name = name := by
  induction plans with
  | nil => rfl
  | cons plan plans ih =>
      have htarget : plan.renameMap.target name = name := by
        rw [RenameMap.target, h plan List.mem_cons_self, Option.getD_none]
      rw [follow, List.foldl_cons, htarget]
      exact ih fun later hlater => h later (List.mem_cons_of_mem _ hlater)

namespace RenameMap

theorem get?_thenMap (map next : RenameMap) (name : String) :
    (map.thenMap next).get? name = (next.get? name).or ((map.get? name).map next.target) := by
  rw [thenMap, get?, NameMap.get?_override, NameMap.get?_map]
  rfl

theorem target_thenMap_of_renamed {map next : RenameMap} {name : String}
    (h : (next.get? name).isSome) : (map.thenMap next).target name = next.target name := by
  obtain ⟨canonical, hcanonical⟩ := Option.isSome_iff_exists.1 h
  rw [target, get?_thenMap, target, hcanonical, Option.some_or]

theorem target_thenMap_of_kept {map next : RenameMap} {name : String}
    (h : next.get? name = none) :
    (map.thenMap next).target name = next.target (map.target name) := by
  rw [target, get?_thenMap, h, Option.none_or]
  cases hmap : map.get? name with
  | none => rw [Option.map_none, Option.getD_none, target, target, hmap, Option.getD_none, h,
      Option.getD_none]
  | some canonical => rw [Option.map_some, Option.getD_some, target.eq_1 map, hmap,
      Option.getD_some]

end RenameMap

/-- The maps of plans as one, after the map of earlier ones. -/
def composed (map : RenameMap) (plans : List Plan) : RenameMap :=
  plans.foldl (fun map plan => map.thenMap plan.renameMap) map

/-- The composed map has a name iff one of the maps has it. -/
theorem isSome_get?_composed {map : RenameMap} {plans : List Plan} {name : String} :
    ((composed map plans).get? name).isSome ↔
      (map.get? name).isSome ∨ ∃ plan ∈ plans, (plan.renameMap.get? name).isSome := by
  induction plans generalizing map with
  | nil => simp [composed]
  | cons plan plans ih =>
      have hstep : composed map (plan :: plans) = composed (map.thenMap plan.renameMap) plans := rfl
      rw [hstep, ih, RenameMap.get?_thenMap, Option.isSome_or, Option.isSome_map, Bool.or_eq_true]
      simp only [List.mem_cons, exists_eq_or_imp]
      exact or_assoc.trans or_left_comm

/-- While no plan renames the name itself, the composed map follows the plans. -/
theorem target_composed_of_kept {plans : List Plan} {name : String}
    (h : ∀ plan ∈ plans, plan.renameMap.get? name = none) (map : RenameMap) :
    (composed map plans).target name = follow plans (map.target name) := by
  induction plans generalizing map with
  | nil => rfl
  | cons plan plans ih =>
      have hplan := h plan List.mem_cons_self
      have hrest := ih (fun later hlater => h later (List.mem_cons_of_mem _ hlater))
        (map.thenMap plan.renameMap)
      rw [RenameMap.target_thenMap_of_kept hplan] at hrest
      exact hrest

/-- The last plan to rename the name decides alone. -/
theorem target_composed_of_renamed {before after : List Plan} {plan : Plan} {name : String}
    (hplan : (plan.renameMap.get? name).isSome)
    (hafter : ∀ later ∈ after, later.renameMap.get? name = none) (map : RenameMap) :
    (composed map (before ++ plan :: after)).target name = follow (plan :: after) name := by
  have hstep : composed map (before ++ plan :: after) =
      composed ((composed map before).thenMap plan.renameMap) after := by
    rw [composed, List.foldl_append, List.foldl_cons]
    rfl
  rw [hstep, target_composed_of_kept hafter, RenameMap.target_thenMap_of_renamed hplan]
  rfl

/-- Either no plan renames a name, or there is a last one that does. -/
theorem exists_last_rename (plans : List Plan) (name : String) :
    (∀ plan ∈ plans, plan.renameMap.get? name = none) ∨
      ∃ before plan after, plans = before ++ plan :: after ∧ (plan.renameMap.get? name).isSome ∧
        ∀ later ∈ after, later.renameMap.get? name = none := by
  induction plans with
  | nil => exact .inl (by simp)
  | cons head rest ih =>
      rcases ih with hnone | ⟨before, plan, after, rfl, hplan, hafter⟩
      · cases hhead : head.renameMap.get? name with
        | none =>
            left
            intro plan hplan
            rcases List.mem_cons.1 hplan with rfl | hplan
            · exact hhead
            · exact hnone plan hplan
        | some canonical => exact .inr ⟨[], head, rest, rfl, by rw [hhead]; rfl, hnone⟩
      · exact .inr ⟨head :: before, plan, after, rfl, hplan, hafter⟩

/-- The map of the passes tracks a name iff the name does not mislead it. -/
theorem target_composed_eq_follow_iff (plans : List Plan) (name : String) :
    (composed .empty plans).target name = follow plans name ↔ ¬Misled plans name := by
  constructor
  · rintro htarget ⟨before, plan, after, rfl, hplan, hafter, hne⟩
    rw [target_composed_of_renamed hplan hafter, follow_append] at htarget
    exact hne htarget.symm
  · intro hsound
    rcases exists_last_rename plans name with hnone | ⟨before, plan, after, rfl, hplan, hafter⟩
    · exact target_composed_of_kept hnone .empty
    · rw [target_composed_of_renamed hplan hafter, follow_append]
      by_contra hne
      exact hsound ⟨before, plan, after, rfl, hplan, hafter, Ne.symm hne⟩

namespace Passes

variable {options : Options} {table : NamingTable} {document final : Document} {plans : List Plan}
  {name : String}

/-- Every plan is that of a pass, the later plans are those of the passes after it, and the names that
the definitions have got by then are those of definitions. -/
theorem exists_pass {before after : List Plan} {plan : Plan}
    (h : Passes options table document (before ++ plan :: after) final) :
    ∃ current groups next, Pass options table current groups plan next ∧
      Passes options table next after final ∧
      ∀ name, document.definitions.contains name →
        current.definitions.contains (follow before name) := by
  induction before generalizing document with
  | nil =>
      cases h with
      | pass hpass hrest => exact ⟨document, _, _, hpass, hrest, fun _ => id⟩
  | cons head before ih =>
      rw [List.cons_append] at h
      cases h with
      | pass hpass hrest =>
          obtain ⟨current, groups, next, hplan, hlater, hcontains⟩ := ih hrest
          exact ⟨current, groups, next, hplan, hlater, fun name hname =>
            hcontains _ (hpass.contains_target hname)⟩

/-- A name that is no definition and that no pass creates is not renamed. -/
theorem not_renamed (hp : Passes options table document plans final)
    (hname : document.definitions.contains name = false)
    (hnew : ∀ plan ∈ plans, plan.renameMap.materialized.get? name = none) :
    ∀ plan ∈ plans, plan.renameMap.get? name = none := by
  induction hp with
  | done => simp
  | pass hpass hrest ih =>
      obtain ⟨hrenamed, hstays⟩ := hpass.contains_next name
      have hhead := hnew _ List.mem_cons_self
      intro plan hmem
      rcases List.mem_cons.1 hmem with rfl | hmem
      · rw [← Option.not_isSome_iff_eq_none]
        intro hsome
        rw [hrenamed hsome] at hname
        cases hname
      · refine ih ?_ (fun later hlater => hnew later (List.mem_cons_of_mem _ hlater)) plan hmem
        rw [Bool.eq_false_iff]
        intro hcontains
        rw [((hstays hhead).1 hcontains).2] at hname
        cases hname

/-- A definition whose name no pass gives to another one keeps it until it is renamed. -/
theorem follow_eq_self {before after : List Plan} {plan : Plan}
    (hp : Passes options table document (before ++ plan :: after) final)
    (hname : document.definitions.contains name)
    (hnew : ∀ later ∈ before ++ plan :: after, later.renameMap.materialized.get? name = none)
    (hsome : (plan.renameMap.get? name).isSome) : follow before name = name := by
  induction before generalizing document with
  | nil => rfl
  | cons head before ih =>
      rw [List.cons_append] at hp
      have hlater : ∀ later ∈ before ++ plan :: after,
          later.renameMap.materialized.get? name = none := fun later hmem =>
        hnew later (List.mem_cons_of_mem _ hmem)
      cases hp with
      | @pass _ next _ _ _ _ hpass hrest =>
          have hstays := (hpass.contains_next name).2 (hnew head List.mem_cons_self)
          cases hhead : head.renameMap.get? name with
          | some canonical =>
              have hgone : next.definitions.contains name = false := by
                rw [Bool.eq_false_iff]
                intro hcontains
                rw [hhead] at hstays
                cases (hstays.1 hcontains).1
              rw [hrest.not_renamed hgone hlater plan (by simp)] at hsome
              cases hsome
          | none =>
              have htarget : head.renameMap.target name = name := by
                rw [RenameMap.target, hhead, Option.getD_none]
              rw [follow, List.foldl_cons, htarget]
              exact ih hrest (hstays.2 ⟨hhead, hname⟩) hlater

/-- Such a definition is tracked. -/
theorem not_misled (hp : Passes options table document plans final)
    (hname : document.definitions.contains name)
    (hnew : ∀ plan ∈ plans, plan.renameMap.materialized.get? name = none) :
    ¬Misled plans name := by
  rintro ⟨before, plan, after, rfl, hsome, _, hne⟩
  rw [hp.follow_eq_self hname hnew hsome] at hne
  exact hne rfl

end Passes

namespace Document

/-- The map that a consolidation returns sends a name to where the passes lead its definition,
unless the name was given to another definition on the way. -/
theorem renameMap_tracks_iff {document : Document} {options : Options} {result : Consolidation}
    (h : document.consolidate? options = .ok result) :
    ∃ final, document.progress? options = .ok final ∧
      ∀ name, result.renameMap.target name = follow final.plans name ↔
        ¬Misled final.plans name := by
  obtain ⟨_, _, _, _, final, _, _, _, _, hprogress, _, hmap⟩ := consolidate?_eq_ok h
  refine ⟨final, hprogress, fun name => ?_⟩
  rw [hmap]
  exact target_composed_eq_follow_iff final.plans name

/-- Two definitions with one shape. -/
def twins : Document :=
  ofSchemas [
    ("A", .record [("type", .string "string")]),
    ("B", .record [("type", .string "string")])]

set_option maxRecDepth 100000 in
theorem renameMap_tracks_iff_twins : ∃ result, twins.consolidate? {} = .ok result ∧
    result.renameMap.target "B" = "A" ∧ ∃ final, twins.progress? {} = .ok final ∧
      ∀ name, result.renameMap.target name = follow final.plans name ↔
        ¬Misled final.plans name := by
  obtain ⟨result, hresult, htarget⟩ : ∃ result, twins.consolidate? {} = .ok result ∧
      result.renameMap.target "B" = "A" :=
    exists_ok_of_toOption (by decide +kernel)
  exact ⟨result, hresult, htarget, renameMap_tracks_iff hresult⟩

/-- The first pass gives up `DeleteResponse` for `C` and creates it again for the two responses that
were deleted. The second one merges what has that name now into `R`. -/
def secondLife : Document :=
  ofSchemas [
    ("C", .record [("type", .string "string")]),
    ("DeleteAResponse", .record [("allOf", .array [
      .refTo "#/components/schemas/C", .refTo "#/components/schemas/U"])]),
    ("DeleteBResponse", .record [("allOf", .array [
      .refTo "#/components/schemas/DeleteResponse", .refTo "#/components/schemas/U"])]),
    ("DeleteResponse", .record [("type", .string "string")]),
    ("R", .record [("allOf", .array [
      .refTo "#/components/schemas/C", .refTo "#/components/schemas/V"])]),
    ("U", .record [("not", .refTo "#/components/schemas/C")]),
    ("V", .record [("not", .refTo "#/components/schemas/DeleteResponse")])]

set_option maxRecDepth 100000 in
theorem renameMap_misled_secondLife : ∃ result final, secondLife.consolidate? {} = .ok result ∧
    secondLife.start? {} = .ok (secondLife, []) ∧ secondLife.progress? {} = .ok final ∧
    secondLife.definitions.contains "DeleteResponse" ∧
    result.renameMap.target "DeleteResponse" = "R" ∧ follow final.plans "DeleteResponse" = "C" := by
  -- One evaluation for both, since the consolidation goes through the same passes.
  have hrun : ((secondLife.consolidate? {}).toOption.map fun result =>
        result.renameMap.target "DeleteResponse",
      (secondLife.progress? {}).toOption.map fun final =>
        follow final.plans "DeleteResponse") = (some "R", some "C") := by decide +kernel
  obtain ⟨htarget, hfollow⟩ := Prod.mk.inj hrun
  obtain ⟨result, hresult, htarget⟩ := exists_ok_of_toOption htarget
  obtain ⟨final, hfinal, hfollow⟩ := exists_ok_of_toOption hfollow
  exact ⟨result, final, hresult, rfl, hfinal, by decide +kernel, htarget, hfollow⟩

/-- The map that a consolidation returns tracks every definition that it started from and whose name
it gave to no other one. -/
theorem renameMap_tracks_of_not_created {document : Document} {options : Options}
    {result : Consolidation} (h : document.consolidate? options = .ok result) :
    ∃ start extracted final, document.start? options = .ok (start, extracted) ∧
      document.progress? options = .ok final ∧ ∀ name, start.definitions.contains name →
        (∀ plan ∈ final.plans, plan.renameMap.materialized.get? name = none) →
          result.renameMap.target name = follow final.plans name := by
  obtain ⟨_, _, start, extracted, final, _, _, hstart, hpasses, hprogress, _, hmap⟩ :=
    consolidate?_eq_ok h
  refine ⟨start, extracted, final, hstart, hprogress, fun name hname hnew => ?_⟩
  rw [hmap]
  exact (target_composed_eq_follow_iff final.plans name).2 (hpasses.not_misled hname hnew)

end Document

end SchemaMerge
