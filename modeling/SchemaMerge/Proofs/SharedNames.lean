import Mathlib.Data.List.Dedup
import SchemaMerge.Proofs.CleanPlans
import SchemaMerge.Proofs.RenameChains

/-!
Plans for groups that may overlap, as those of several classifications do. Planning such groups
allots every one a name in its turn, and what a draft holds can be read off these names
(`Draft.Records`): the last group that renames a definition counts, and the first one that lacks its
name has it created. Two things can go wrong. A group may share the name of an earlier one with its
key although this is a definition that it lacks, which is then created once more, and a definition
may be renamed by two groups, which counts twice. A plan is clean exactly when neither happens
(`Plan.keepsBooks_iff`).
-/

namespace SchemaMerge

/-- The groups of a plan with the names that they were allotted, in the order of the planning. -/
abbrev Allotments := List (MergeGroup × String)

namespace Allotments

/-- The first group that was allotted a name. -/
def holder? (allotted : Allotments) (name : String) : Option MergeGroup :=
  (allotted.find? fun pair => pair.2 = name).map (·.1)

/-- The name that the last group to rename a definition gives it. -/
def newName? (allotted : Allotments) (name : String) : Option String :=
  (allotted.reverse.find? fun pair => name ∈ pair.1.members ∧ name ≠ pair.2).map (·.2)

/-- What the first group that lacks its name has created under it. -/
def copied? (allotted : Allotments) (name : String) : Option String :=
  (allotted.find? fun pair => pair.2 = name ∧ name ∉ pair.1.members).map (·.1.first)

/-- The names that the groups give up, group by group. -/
def givenUp (allotted : Allotments) : List String :=
  allotted.flatMap fun pair => pair.1.members.filter fun name => name ≠ pair.2

/-- A group asks for a name that was first allotted to a group with the same key. -/
def Shares (table : NamingTable) (before : Allotments) (group : MergeGroup) : Prop :=
  ∃ holder, before.holder? (Naming.choose table group.members) = some holder ∧
    holder.key = group.key

/-- A group gets the name that it shares, or else one that is free. -/
inductive Turn (definitions : NameMap Json) (table : NamingTable) (before : Allotments) :
    MergeGroup × String → Prop where
  | shared {group : MergeGroup} (hshares : Shares table before group) :
      Turn definitions table before (group, Naming.choose table group.members)
  | given {group : MergeGroup} {canonical : String} (hshares : ¬Shares table before group)
      (hgiven : GivenName (group.Barred definitions (before.map (·.2)))
        (Naming.choose table group.members) canonical) :
      Turn definitions table before (group, canonical)

/-- The groups get their names one after the other. -/
def InTurn (definitions : NameMap Json) (table : NamingTable) (allotted : Allotments) : Prop :=
  ∀ before pair after, allotted = before ++ pair :: after → Turn definitions table before pair

/-- Some group shares the name of a definition that is no member of it. -/
def SharesForeign (definitions : NameMap Json) (table : NamingTable) (allotted : Allotments) :
    Prop :=
  ∃ before group canonical after, allotted = before ++ (group, canonical) :: after ∧
    Shares table before group ∧ definitions.contains canonical ∧ canonical ∉ group.members

variable {allotted : Allotments} {group : MergeGroup} {canonical name next : String}

theorem holder?_concat : holder? (allotted ++ [(group, canonical)]) name =
    (allotted.holder? name).or (if name = canonical then some group else none) := by
  rw [holder?, List.find?_append, Option.map_or, ← holder?]
  by_cases hname : name = canonical <;> simp [hname, eq_comm]

theorem newName?_concat : newName? (allotted ++ [(group, canonical)]) name =
    if name ∈ group.members ∧ name ≠ canonical then some canonical
    else allotted.newName? name := by
  rw [newName?, List.reverse_append, List.reverse_singleton, List.singleton_append,
    List.find?_cons]
  by_cases hname : name ∈ group.members ∧ name ≠ canonical <;> simp [hname, newName?]

theorem copied?_concat : copied? (allotted ++ [(group, canonical)]) name =
    (allotted.copied? name).or
      (if name = canonical ∧ canonical ∉ group.members then some group.first else none) := by
  rw [copied?, List.find?_append, Option.map_or, ← copied?]
  by_cases hname : name = canonical
  · subst hname
    by_cases hmember : name ∈ group.members <;> simp [hmember]
  · simp [hname, Ne.symm hname]

theorem givenUp_concat : givenUp (allotted ++ [(group, canonical)]) =
    allotted.givenUp ++ group.members.filter fun name => name ≠ canonical := by
  simp [givenUp]

theorem mem_givenUp_iff : name ∈ allotted.givenUp ↔
    ∃ pair ∈ allotted, name ∈ pair.1.members ∧ name ≠ pair.2 := by
  simp [givenUp]

theorem exists_holder_iff : (∃ group, allotted.holder? name = some group) ↔
    name ∈ allotted.map (·.2) := by
  rw [← Option.isSome_iff_exists, holder?, Option.isSome_map, List.find?_isSome]
  simp

/-- A definition is given its new name by a group that gives it up. -/
theorem exists_of_newName? (h : allotted.newName? name = some next) :
    ∃ pair ∈ allotted, name ∈ pair.1.members ∧ name ≠ pair.2 ∧ pair.2 = next := by
  obtain ⟨pair, hfound, rfl⟩ := Option.map_eq_some_iff.1 h
  have hmem := List.mem_reverse.1 (List.mem_of_find?_eq_some hfound)
  have hrenames : name ∈ pair.1.members ∧ name ≠ pair.2 := by
    simpa using List.find?_some hfound
  exact ⟨pair, hmem, hrenames.1, hrenames.2, rfl⟩

/-- What some group gives up has a new name. -/
theorem mem_givenUp_iff_newName? : name ∈ allotted.givenUp ↔
    ∃ next, allotted.newName? name = some next := by
  rw [mem_givenUp_iff, ← Option.isSome_iff_exists, newName?, Option.isSome_map, List.find?_isSome]
  simp

/-- What is given up once only has the name of the group that gives it up. -/
theorem newName?_of_mem (hnodup : allotted.givenUp.Nodup) {pair : MergeGroup × String}
    (hpair : pair ∈ allotted) (hmember : name ∈ pair.1.members) (hne : name ≠ pair.2) :
    allotted.newName? name = some pair.2 := by
  obtain ⟨next, hnext⟩ := mem_givenUp_iff_newName?.1 (mem_givenUp_iff.2 ⟨pair, hpair, hmember, hne⟩)
  obtain ⟨other, hother, hmember', hne', rfl⟩ := exists_of_newName? hnext
  have hsame : other = pair := by
    by_contra hdiffer
    have hsymm : Std.Symm (Function.onFun List.Disjoint fun pair : MergeGroup × String =>
        pair.1.members.filter fun name => name ≠ pair.2) := ⟨fun _ _ h => h.symm⟩
    have hdisjoint := (List.nodup_flatMap.1 hnodup).2.forall hother hpair hdiffer
    exact hdisjoint (List.mem_filter.2 ⟨hmember', decide_eq_true hne'⟩)
      (List.mem_filter.2 ⟨hmember, decide_eq_true hne⟩)
  rw [hnext, hsame]

theorem exists_copied_iff : (∃ source, allotted.copied? name = some source) ↔
    ∃ pair ∈ allotted, pair.2 = name ∧ name ∉ pair.1.members := by
  rw [← Option.isSome_iff_exists, copied?, Option.isSome_map, List.find?_isSome]
  simp only [decide_eq_true_eq]

end Allotments

namespace Draft

variable {definitions : NameMap Json} {table : NamingTable} {policy : ConflictPolicy}
  {draft next : Draft} {allotted : Allotments} {group : MergeGroup} {canonical : String}

section Steps

variable (draft : Draft) (definitions : NameMap Json) (group : MergeGroup) (canonical : String)

theorem get?_claims_claim (name : String) : (draft.claim group canonical).claims.get? name =
    (draft.claims.get? name).or
      (if name = canonical then some ⟨group.key, group.members⟩ else none) := by
  unfold Draft.claim
  by_cases hname : name = canonical
  · subst hname
    split
    case isTrue hheld =>
      obtain ⟨claim, hclaim⟩ := NameMap.contains_iff.1 hheld
      simp [hclaim]
    case isFalse hfree =>
      rw [Bool.not_eq_true, NameMap.not_contains_iff] at hfree
      simp [NameMap.get?_insert, hfree]
  · split <;> simp [NameMap.get?_insert, hname]

@[simp]
theorem aliases_claim : (draft.claim group canonical).aliases = draft.aliases := by
  unfold Draft.claim
  split <;> rfl

@[simp]
theorem materialized_claim : (draft.claim group canonical).materialized = draft.materialized := by
  unfold Draft.claim
  split <;> rfl

@[simp]
theorem stats_claim : (draft.claim group canonical).stats = draft.stats := by
  unfold Draft.claim
  split <;> rfl

theorem get?_materialized_create (name : String) :
    (draft.create definitions group canonical).materialized.get? name =
      (draft.materialized.get? name).or
        (if name = canonical ∧ canonical ∉ group.members then some group.first else none) := by
  by_cases hmember : canonical ∈ group.members
  · simp [create, hmember]
  · cases hfound : draft.materialized.get? canonical with
    | none =>
        rw [get?_create_materialized definitions group hfound]
        by_cases hname : name = canonical <;> simp [hname, hmember, hfound]
    | some source =>
        have hcontains : draft.materialized.contains canonical := by
          simp [NameMap.contains, hfound]
        by_cases hname : name = canonical <;> simp [create, hname, hcontains, hfound]

@[simp]
theorem claims_create : (draft.create definitions group canonical).claims = draft.claims := by
  unfold Draft.create
  split <;> rfl

@[simp]
theorem aliases_create : (draft.create definitions group canonical).aliases = draft.aliases := by
  unfold Draft.create
  split <;> rfl

@[simp]
theorem schemasRemoved_create : (draft.create definitions group canonical).stats.schemasRemoved =
    draft.stats.schemasRemoved := by
  unfold Draft.create
  split <;> rfl

end Steps

/-- What a draft holds after some groups have been allotted names. -/
structure Records (definitions : NameMap Json) (table : NamingTable) (draft : Draft)
    (allotted : Allotments) : Prop where
  inTurn : allotted.InTurn definitions table
  claims : ∀ name, draft.claims.get? name =
    (allotted.holder? name).map fun group => ⟨group.key, group.members⟩
  aliases : ∀ name, draft.aliases.get? name = allotted.newName? name
  materialized : ∀ name, draft.materialized.get? name = allotted.copied? name
  schemasRemoved : draft.stats.schemasRemoved = allotted.givenUp.length
  schemasAdded : draft.stats.schemasAdded = draft.materialized.size

namespace Records

theorem start (definitions : NameMap Json) (table : NamingTable) :
    Records definitions table {} [] where
  inTurn before pair after h := by simp at h
  claims _ := rfl
  aliases _ := rfl
  materialized _ := rfl
  schemasRemoved := rfl
  schemasAdded := rfl

variable (h : Records definitions table draft allotted)

include h

theorem shares_iff (group : MergeGroup) :
    draft.shares group (Naming.choose table group.members) ↔ allotted.Shares table group := by
  rw [shares, h.claims, Allotments.Shares]
  cases allotted.holder? (Naming.choose table group.members) <;> simp

theorem taken_iff (group : MergeGroup) (name : String) :
    draft.taken definitions group.members name ↔
      group.Barred definitions (allotted.map (·.2)) name := by
  have hclaimed : draft.claims.contains name ↔ name ∈ allotted.map (·.2) := by
    rw [NameMap.contains, h.claims, Option.isSome_map, Option.isSome_iff_exists,
      Allotments.exists_holder_iff]
  rw [taken, MergeGroup.Barred, Bool.or_eq_true, Bool.and_eq_true, decide_eq_true_eq, hclaimed]

/-- A group gets the name that it shares or one that is free. -/
theorem turn {conflict : Option NameConflict}
    (hassign : draft.assign? definitions policy group (Naming.choose table group.members) =
      .ok (canonical, conflict)) :
    Allotments.Turn definitions table allotted (group, canonical) := by
  have hshares := h.shares_iff group
  cases hfound : draft.shares group (Naming.choose table group.members) with
  | true =>
      rw [assign?, hfound] at hassign
      cases hassign
      exact .shared (hshares.1 hfound)
  | false =>
      have hgiven := assign?_unshared hfound hassign
      simp only [h.taken_iff] at hgiven
      rw [hfound] at hshares
      exact .given (fun hshared => Bool.false_ne_true (hshares.2 hshared)) hgiven

/-- One more group is recorded. -/
theorem addGroup (hnext : draft.addGroup definitions table policy group = .ok next) :
    ∃ canonical, Records definitions table next (allotted ++ [(group, canonical)]) := by
  obtain ⟨⟨canonical, conflict⟩, hassign, hnext⟩ := bind_eq_ok.1 hnext
  rw [pure_eq_ok] at hnext
  subst hnext
  refine ⟨canonical, forall_split_concat h.inTurn (h.turn hassign), fun name => ?_,
    fun name => ?_, fun name => ?_, ?_, ?_⟩
  · rw [get?_claims_claim, merge, claims_create, h.claims, Allotments.holder?_concat,
      Option.map_or]
    by_cases hname : name = canonical <;> simp [hname]
  · rw [aliases_claim, merge, get?_foldl_insert, aliases_create, Allotments.newName?_concat]
    simp only [List.mem_filter, decide_eq_true_eq, h.aliases]
  · rw [materialized_claim, merge, get?_materialized_create, Allotments.copied?_concat,
      h.materialized]
  · rw [stats_claim, merge, schemasRemoved_create, Allotments.givenUp_concat, List.length_append,
      ← h.schemasRemoved]
  · rw [stats_claim, materialized_claim]
    refine schemasAdded_create ?_ definitions group canonical
    exact h.schemasAdded

end Records

theorem exists_records {groups : List MergeGroup}
    (h : groups.foldlM (Draft.addGroup definitions table policy) {} = .ok draft) :
    ∃ allotted : Allotments, allotted.map (·.1) = groups ∧
      Records definitions table draft allotted := by
  refine foldlM_invariant (fun done draft => ∃ allotted : Allotments, allotted.map (·.1) = done ∧
    Records definitions table draft allotted) ?_ ⟨[], rfl, .start definitions table⟩ h
  rintro done group rest draft next - ⟨allotted, rfl, hrecords⟩ hnext
  obtain ⟨canonical, hrecords⟩ := hrecords.addGroup hnext
  exact ⟨_, List.map_append, hrecords⟩

end Draft

namespace RenameMap

variable {map : RenameMap} {definitions created : NameMap Json}

/-- The definitions that there are once new ones have been created, whatever they are copied from. -/
theorem contains_withCreated? (h : map.withCreated? definitions = .ok created) (name : String) :
    created.contains name ↔ definitions.contains name ∨ map.materialized.contains name := by
  have hinv : ∀ name, created.contains name ↔
      definitions.contains name ∨ name ∈ Fields.keys map.materialized.entries := by
    refine foldlM_invariant (fun done state => ∀ name, state.contains name ↔
      definitions.contains name ∨ name ∈ Fields.keys done) ?_ (fun name => ?_) h
    · rintro done ⟨canonical, origin⟩ rest state next - hdone hnext name
      dsimp only at hnext
      split at hnext
      case h_2 => cases hnext
      case h_1 body hfound =>
        cases hnext
        have hname := hdone name
        rw [NameMap.contains] at hname ⊢
        rw [NameMap.get?_insert, Fields.keys, List.map_append]
        by_cases hcanonical : name = canonical
        · simp [hcanonical]
        · simp only [hcanonical, if_false, hname]
          simp [Fields.keys, hcanonical]
    · simp [Fields.keys]
  rw [hinv, ← NameMap.mem_names_iff (m := map.materialized)]
  rfl

end RenameMap

namespace Document

variable {document out : Document} {map : RenameMap}

/-- The definitions that there are after renames. -/
theorem contains_repoint? (hout : document.repoint? map = .ok out) (name : String) :
    out.definitions.contains name ↔ map.aliases.contains name = false ∧
      (document.definitions.contains name ∨ map.materialized.contains name) := by
  cases hempty : map.isEmpty with
  | true =>
      have hnone : ∀ m : NameMap String, m.isEmpty → m.contains name = false := by
        intro m hm
        have hentries : m.entries = [] := List.isEmpty_iff.1 hm
        simp [NameMap.contains, NameMap.get?, hentries]
      have hboth : map.aliases.isEmpty ∧ map.materialized.isEmpty := by
        simpa [RenameMap.isEmpty] using hempty
      rw [repoint?, if_pos hempty, pure_eq_ok] at hout
      simp [← hout, hnone _ hboth.1, hnone _ hboth.2]
  | false =>
      obtain ⟨created, hcreated, rfl, -⟩ := repoint?_eq_ok hempty hout
      rw [← RenameMap.contains_withCreated? hcreated, NameMap.contains, get?_repointed_definitions]
      cases map.aliases.contains name <;> simp [NameMap.contains]

/-- How many definitions there are after renames of definitions. What is created under the name of a
definition adds none. -/
theorem definitionCount_repoint? (hold : ∀ name, map.aliases.contains name →
      document.definitions.contains name) (hout : document.repoint? map = .ok out) :
    out.definitionCount + map.aliases.size = document.definitionCount +
      (map.materialized.names.filter fun name => !document.definitions.contains name).length := by
  have hstay : (out.definitions.names ++ map.aliases.names).Nodup := by
    refine out.definitions.nodup_names.append map.aliases.nodup_names fun name hout' halias => ?_
    rw [NameMap.mem_names_iff] at hout' halias
    rw [((contains_repoint? hout name).1 hout').1] at halias
    cases halias
  have hnew : (document.definitions.names ++
      map.materialized.names.filter fun name => !document.definitions.contains name).Nodup := by
    refine document.definitions.nodup_names.append (map.materialized.nodup_names.filter _) ?_
    intro name hdefined hcreated
    rw [NameMap.mem_names_iff] at hdefined
    simp [hdefined] at hcreated
  have hperm := (List.perm_ext_iff_of_nodup hstay hnew).2 fun name => by
    have hname := hold name
    simp only [List.mem_append, List.mem_filter, NameMap.mem_names_iff, contains_repoint? hout]
    revert hname
    cases document.definitions.contains name <;> cases map.aliases.contains name <;> simp
  have hlength := hperm.length_eq
  simp only [List.length_append, NameMap.length_names] at hlength
  exact hlength

end Document

namespace Plan

variable {document out : Document} {table : NamingTable} {policy : ConflictPolicy} {plan : Plan}

/-- What a plan creates is no definition yet. -/
def CreatesNew (plan : Plan) (definitions : NameMap Json) : Prop :=
  ∀ name, plan.renameMap.materialized.contains name → definitions.contains name = false

/-- What a plan creates is what some definition is called afterwards. -/
def CreatesTargets (plan : Plan) : Prop :=
  ∀ name, plan.renameMap.materialized.contains name →
    ∃ old, plan.renameMap.get? old = some name

/-- The number of definitions changes by what the plan counts. -/
def Accounts (plan : Plan) (document out : Document) : Prop :=
  (out.definitionCount : Int) - document.definitionCount =
    plan.stats.schemasAdded - plan.stats.schemasRemoved

theorem CreatesNew.filter_eq_nil {definitions : NameMap Json} (h : plan.CreatesNew definitions) :
    plan.renameMap.materialized.names.filter definitions.contains = [] := by
  rw [List.filter_eq_nil_iff]
  intro name hname hdefined
  rw [h name (NameMap.mem_names_iff.1 hname)] at hdefined
  cases hdefined

/-- What a plan holds can be read off the names that its groups were allotted. -/
structure Records (plan : Plan) (definitions : NameMap Json) (table : NamingTable)
    (allotted : Allotments) : Prop where
  inTurn : allotted.InTurn definitions table
  renamed : ∀ name, plan.renameMap.aliases.contains name ↔ name ∈ allotted.givenUp
  target : ∀ final, (∃ name, plan.renameMap.get? name = some final) ↔
    allotted.newName? final = none ∧ ∃ name, allotted.newName? name = some final
  created : ∀ name, plan.renameMap.materialized.contains name ↔
    ∃ pair ∈ allotted, pair.2 = name ∧ name ∉ pair.1.members
  schemasRemoved : plan.stats.schemasRemoved = allotted.givenUp.length
  schemasAdded : plan.stats.schemasAdded = plan.renameMap.materialized.size

section Chains

variable {raw : NameMap String} {allotted : Allotments}
  (hraw : ∀ name, raw.get? name = allotted.newName? name)

include hraw

theorem link_iff (name next : String) : Link raw name next ↔ allotted.newName? name = some next := by
  rw [Link, hraw]
  refine and_iff_left_of_imp fun hnext => ?_
  obtain ⟨pair, -, -, hne, rfl⟩ := Allotments.exists_of_newName? hnext
  exact hne

/-- A name is the end of a chain of renames if something is renamed to it, and it is not renamed
itself. -/
theorem exists_chainEnd_iff (final : String) : (∃ name, ChainEnd raw name final) ↔
    allotted.newName? final = none ∧ ∃ name, allotted.newName? name = some final := by
  constructor
  · rintro ⟨name, hend⟩
    obtain ⟨last, -, hlast⟩ := Relation.TransGen.tail'_iff.1 hend.reached
    refine ⟨?_, last, (link_iff hraw last final).1 hlast⟩
    rw [Option.eq_none_iff_forall_ne_some]
    exact fun next hnext => hend.last next ((link_iff hraw final next).2 hnext)
  · rintro ⟨hstays, name, hname⟩
    refine ⟨name, .single ((link_iff hraw name final).2 hname), fun next hnext => ?_⟩
    rw [link_iff hraw, hstays] at hnext
    cases hnext

/-- What a group gives up is at the start of a chain. -/
theorem exists_chainEnd_of_resolved {resolved : NameMap String}
    (hresolved : resolveChains raw = .ok resolved) (name : String) :
    (∃ final, ChainEnd raw name final) ↔ name ∈ allotted.givenUp := by
  rw [Allotments.mem_givenUp_iff_newName?]
  constructor
  · rintro ⟨final, hend⟩
    obtain ⟨next, hlink⟩ := hend.exists_link
    exact ⟨next, (link_iff hraw name next).1 hlink⟩
  · rintro ⟨next, hnext⟩
    exact ((link_iff hraw name next).2 hnext).exists_chainEnd
      (exists_resolveChains_iff.1 ⟨resolved, hresolved⟩)

end Chains

theorem exists_records {groups : List MergeGroup}
    (h : Plan.ofGroups? groups document table policy = .ok plan) :
    ∃ allotted : Allotments, allotted.map (·.1) = groups ∧
      plan.Records document.definitions table allotted := by
  obtain ⟨draft, hdraft, h⟩ := bind_eq_ok.1 h
  obtain ⟨renameMap, hmap, h⟩ := bind_eq_ok.1 h
  obtain ⟨resolved, hresolved, hmap⟩ := bind_eq_ok.1 hmap
  rw [pure_eq_ok] at h hmap
  subst h
  subst hmap
  obtain ⟨allotted, hgroups, hrecords⟩ := Draft.exists_records hdraft
  refine ⟨allotted, hgroups, hrecords.inTurn, fun name => ?_, fun final => ?_, fun name => ?_,
    hrecords.schemasRemoved, hrecords.schemasAdded⟩
  · rw [NameMap.contains_iff, ← exists_chainEnd_of_resolved hrecords.aliases hresolved]
    exact exists_congr fun final => get?_resolveChains_iff hresolved
  · rw [← exists_chainEnd_iff hrecords.aliases]
    exact exists_congr fun name => get?_resolveChains_iff hresolved
  · rw [NameMap.contains_iff]
    simp only [hrecords.materialized]
    exact Allotments.exists_copied_iff

namespace Records

variable {allotted : Allotments} (h : plan.Records document.definitions table allotted)

include h

/-- A group that lacks the definition whose name it has shares that name. -/
theorem sharesForeign_iff : allotted.SharesForeign document.definitions table ↔
    ∃ pair ∈ allotted, document.definitions.contains pair.2 ∧ pair.2 ∉ pair.1.members := by
  constructor
  · rintro ⟨before, group, canonical, after, rfl, -, hdefined, hforeign⟩
    exact ⟨(group, canonical), by simp, hdefined, hforeign⟩
  · rintro ⟨⟨group, canonical⟩, hpair, hdefined, hforeign⟩
    obtain ⟨before, after, hsplit⟩ := List.append_of_mem hpair
    refine ⟨before, group, canonical, after, hsplit, ?_, hdefined, hforeign⟩
    cases h.inTurn before _ after hsplit with
    | shared hshares => exact hshares
    | given _ hgiven => exact absurd (.inr ⟨hdefined, hforeign⟩) hgiven.free

theorem createsNew_iff : plan.CreatesNew document.definitions ↔
    ¬allotted.SharesForeign document.definitions table := by
  rw [h.sharesForeign_iff, CreatesNew]
  simp only [h.created]
  constructor
  · rintro hnew ⟨pair, hpair, hdefined, hforeign⟩
    rw [hnew pair.2 ⟨pair, hpair, rfl, hforeign⟩] at hdefined
    cases hdefined
  · rintro hshares name ⟨pair, hpair, rfl, hforeign⟩
    exact Bool.eq_false_iff.2 fun hdefined => hshares ⟨pair, hpair, hdefined, hforeign⟩

theorem createsTargets_iff : plan.CreatesTargets ↔ ∀ pair ∈ allotted, pair.2 ∉ pair.1.members →
    allotted.newName? pair.2 = none ∧ ∃ name, allotted.newName? name = some pair.2 := by
  rw [CreatesTargets]
  simp only [h.created, h.target]
  constructor
  · exact fun htargets pair hpair hforeign => htargets pair.2 ⟨pair, hpair, rfl, hforeign⟩
  · rintro htargets name ⟨pair, hpair, rfl, hforeign⟩
    exact htargets pair hpair hforeign

theorem size_aliases : plan.renameMap.aliases.size = allotted.givenUp.dedup.length := by
  have hperm := (List.perm_ext_iff_of_nodup plan.renameMap.aliases.nodup_names
    allotted.givenUp.nodup_dedup).2 fun name => by
      rw [NameMap.mem_names_iff, h.renamed, List.mem_dedup]
  rw [← hperm.length_eq, NameMap.length_names]

variable (hold : ∀ pair ∈ allotted, ∀ name ∈ pair.1.members, document.definitions.contains name)

include hold

/-- The numbers agree if as many renames are counted more than once as there are definitions that
are created once more. -/
theorem accounts_iff (hout : document.repoint? plan.renameMap = .ok out) :
    plan.Accounts document out ↔ allotted.givenUp.length = allotted.givenUp.dedup.length +
      (plan.renameMap.materialized.names.filter document.definitions.contains).length := by
  have hcount := Document.definitionCount_repoint? (fun name hname => by
    obtain ⟨pair, hpair, hmember, -⟩ := Allotments.mem_givenUp_iff.1 ((h.renamed name).1 hname)
    exact hold pair hpair name hmember) hout
  have hcreated := List.length_eq_length_filter_add
    (l := plan.renameMap.materialized.names) document.definitions.contains
  rw [NameMap.length_names] at hcreated
  rw [h.size_aliases] at hcount
  unfold Accounts
  rw [h.schemasRemoved, h.schemasAdded]
  omega

/-- Nothing is wrong with a plan if no group shares the name of a definition that it lacks and no
definition is renamed twice. -/
theorem keepsBooks_iff (hout : document.repoint? plan.renameMap = .ok out) :
    plan.CreatesNew document.definitions ∧ plan.CreatesTargets ∧ plan.Accounts document out ↔
      ¬allotted.SharesForeign document.definitions table ∧ allotted.givenUp.Nodup := by
  rw [h.createsNew_iff, h.accounts_iff hold hout]
  constructor
  · rintro ⟨hshares, -, hnumbers⟩
    rw [(h.createsNew_iff.2 hshares).filter_eq_nil, List.length_nil, Nat.add_zero] at hnumbers
    refine ⟨hshares, ?_⟩
    rw [← List.dedup_eq_self]
    exact (List.dedup_sublist _).eq_of_length hnumbers.symm
  · rintro ⟨hshares, hnodup⟩
    have hnew := h.createsNew_iff.2 hshares
    refine ⟨hshares, h.createsTargets_iff.2 fun pair hpair hforeign => ⟨?_, pair.1.first, ?_⟩, ?_⟩
    · -- What is created is no definition, so no group has it as a member.
      have hfresh := hnew pair.2 ((h.created pair.2).2 ⟨pair, hpair, rfl, hforeign⟩)
      rw [Option.eq_none_iff_forall_ne_some]
      intro next hnext
      obtain ⟨other, hother, hmember, -, -⟩ := Allotments.exists_of_newName? hnext
      rw [hold other hother pair.2 hmember] at hfresh
      cases hfresh
    · have hne : pair.1.first ≠ pair.2 := fun heq => hforeign (heq ▸ pair.1.first_mem)
      exact Allotments.newName?_of_mem hnodup hpair pair.1.first_mem hne
    · rw [hnew.filter_eq_nil, List.length_nil, Nat.add_zero, hnodup.dedup]

end Records

/-- When a plan keeps its books, in terms of the names that its groups were allotted. -/
structure KeepsBooksWhen (plan : Plan) (document : Document) (table : NamingTable)
    (allotted : Allotments) : Prop where
  /-- The names are given as the groups come, and only a group with the same key shares one. -/
  inTurn : allotted.InTurn document.definitions table
  createsNew : plan.CreatesNew document.definitions ↔
    ¬allotted.SharesForeign document.definitions table
  /-- A name that is created has to be the last one that some definition is given, and no member of
  another group. -/
  createsTargets : plan.CreatesTargets ↔ ∀ pair ∈ allotted, pair.2 ∉ pair.1.members →
    allotted.newName? pair.2 = none ∧ ∃ name, allotted.newName? name = some pair.2
  accounts : ∀ out, document.repoint? plan.renameMap = .ok out →
    (plan.Accounts document out ↔ allotted.givenUp.length = allotted.givenUp.dedup.length +
      (plan.renameMap.materialized.names.filter document.definitions.contains).length)
  all : ∀ out, document.repoint? plan.renameMap = .ok out →
    (plan.CreatesNew document.definitions ∧ plan.CreatesTargets ∧ plan.Accounts document out ↔
      ¬allotted.SharesForeign document.definitions table ∧ allotted.givenUp.Nodup)

/-- A plan for the groups of several classifications creates only what is new, creates only what
something is called afterwards, and counts what it adds and removes, exactly when no group shares the
name of a definition that it lacks and no definition is renamed by two groups. -/
theorem ofGroups?_keepsBooks {parts : List (List MergeGroup)}
    (hparts : ∀ part ∈ parts, ∃ limit tier keepSeparate,
      classifyForMerge limit tier keepSeparate document.definitions = .ok part)
    (hplan : Plan.ofGroups? parts.flatten document table policy = .ok plan) :
    ∃ allotted : Allotments, allotted.map (·.1) = parts.flatten ∧
      plan.KeepsBooksWhen document table allotted := by
  obtain ⟨allotted, hgroups, h⟩ := exists_records hplan
  have hold : ∀ pair ∈ allotted, ∀ name ∈ pair.1.members,
      document.definitions.contains name := by
    intro pair hpair name hmember
    have hgroup : pair.1 ∈ parts.flatten := hgroups ▸ List.mem_map_of_mem hpair
    obtain ⟨part, hpart, hgroup⟩ := List.mem_flatten.1 hgroup
    obtain ⟨limit, tier, keepSeparate, hclassified⟩ := hparts part hpart
    exact (Classified.of_classifyForMerge hclassified).contains hgroup hmember
  exact ⟨allotted, hgroups, h.inTurn, h.createsNew_iff, h.createsTargets_iff,
    fun out => h.accounts_iff hold, fun out => h.keepsBooks_iff hold⟩

/-- Two pairs of definitions. -/
def twoPairs : Document :=
  .ofSchemas [
    ("Day", .record [("type", .string "string")]),
    ("Hour", .record [("type", .string "integer")]),
    ("Minute", .record [("type", .string "integer")]),
    ("Month", .record [("type", .string "string")])]

set_option maxRecDepth 100000 in
theorem ofGroups?_keepsBooks_twoPairs : ∃ days minutes plan,
    classifyForMerge 64 .exact [["Hour", "Minute"]] twoPairs.definitions = .ok days ∧
    classifyForMerge 64 .structural [["Day", "Month"]] twoPairs.definitions = .ok minutes ∧
    Plan.ofGroups? [days, minutes].flatten twoPairs Naming.conventions .suffix = .ok plan ∧
    (∃ allotted : Allotments, allotted.map (·.1) = [days, minutes].flatten ∧
      plan.KeepsBooksWhen twoPairs Naming.conventions allotted) ∧
    plan.stats.schemasRemoved = 2 := by
  obtain ⟨days, hdays, hnext⟩ : ∃ days,
      classifyForMerge 64 .exact [["Hour", "Minute"]] twoPairs.definitions = .ok days ∧
        ((classifyForMerge 64 .structural [["Day", "Month"]] twoPairs.definitions).toOption >>=
          fun minutes => (Plan.ofGroups? [days, minutes].flatten twoPairs
            Naming.conventions .suffix).toOption >>= fun plan =>
              some plan.stats.schemasRemoved) = some 2 :=
    exists_ok_of_bind (by decide +kernel)
  obtain ⟨minutes, hminutes, hnext⟩ := exists_ok_of_bind hnext
  obtain ⟨plan, hplan, hremoved⟩ := exists_ok_of_bind hnext
  refine ⟨days, minutes, plan, hdays, hminutes, hplan, ?_, Option.some.inj hremoved⟩
  refine ofGroups?_keepsBooks (fun part hpart => ?_) hplan
  rcases List.mem_pair.1 hpart with rfl | rfl
  · exact ⟨64, .exact, [["Hour", "Minute"]], hdays⟩
  · exact ⟨64, .structural, [["Day", "Month"]], hminutes⟩

/-- One of three definitions with one shape has a description besides, and the name that the other
two ask for. -/
def described : Document :=
  .ofSchemas [
    ("DeleteAResponse", .record [("type", .string "string")]),
    ("DeleteBResponse", .record [("type", .string "string")]),
    ("DeleteResponse", .record [("description", .string "gone"), ("type", .string "string")])]

set_option maxRecDepth 100000 in
/-- The group at the exact tier shares the name that the one at the structural tier has. The
definition of that name is created once more, and the two others are counted twice. -/
theorem not_keepsBooks_described : ∃ three two plan out,
    classifyForMerge 64 .structural [] described.definitions = .ok three ∧
    classifyForMerge 64 .exact [] described.definitions = .ok two ∧
    Plan.ofGroups? [three, two].flatten described Naming.conventions .suffix = .ok plan ∧
    described.repoint? plan.renameMap = .ok out ∧
    ¬plan.CreatesNew described.definitions ∧ ¬plan.Accounts described out := by
  obtain ⟨three, hthree, hnext⟩ : ∃ three,
      classifyForMerge 64 .structural [] described.definitions = .ok three ∧
        ((classifyForMerge 64 .exact [] described.definitions).toOption >>= fun two =>
          (Plan.ofGroups? [three, two].flatten described Naming.conventions .suffix).toOption >>=
            fun plan => (described.repoint? plan.renameMap).toOption >>= fun out =>
              some (plan.renameMap.materialized.contains "DeleteResponse",
                plan.stats.schemasAdded, plan.stats.schemasRemoved, out.definitionCount)) =
          some (true, 1, 4, 1) :=
    exists_ok_of_bind (by decide +kernel)
  obtain ⟨two, htwo, hnext⟩ := exists_ok_of_bind hnext
  obtain ⟨plan, hplan, hnext⟩ := exists_ok_of_bind hnext
  obtain ⟨out, hout, hnext⟩ := exists_ok_of_bind hnext
  simp only [Option.some.injEq, Prod.mk.injEq] at hnext
  obtain ⟨hcreated, hadded, hremoved, hcount⟩ := hnext
  have hdefined : described.definitions.contains "DeleteResponse" := by decide +kernel
  have hstart : described.definitionCount = 3 := by decide +kernel
  refine ⟨three, two, plan, out, hthree, htwo, hplan, hout, fun hnew => ?_, ?_⟩
  · rw [hnew "DeleteResponse" hcreated] at hdefined
    cases hdefined
  · rw [Accounts, hadded, hremoved, hcount, hstart]
    decide

end Plan

end SchemaMerge
