import Mathlib.Data.List.Infix
import SchemaMerge.Naming.Conventions
import SchemaMerge.Proofs.Planning
import SchemaMerge.Proofs.Sorting

/-!
Where the names that a plan allots come from. A group is named after one of its members, as a
configured rule says or by one of the conventions, and a name that is taken gets a number
(`Plan.exists_allotted_chosen`). So what no definition and no rule has in its name, no new
definition has in its name either, as long as it ends with a character that the conventions and
the numbers do not bring in (`Naming.Chosen.not_hasPointer`, `Naming.Chosen.mem_or_ne`).
-/

namespace SchemaMerge

/-- A part of a text that ends with a character stands in front of what does not have it. -/
theorem infix_of_infix_append {part a b : List Char} {c : Char} (h : part <:+: a ++ b)
    (hlast : part.getLast? = some c) (hb : c ∉ b) : part <:+: a := by
  rcases List.infix_append_iff.1 h with ha | hpart | ⟨front, back, rfl, hfront, hback⟩
  · exact ha
  · exact absurd (hpart.subset (List.mem_of_getLast? hlast)) hb
  · cases back with
    | nil =>
        rw [List.append_nil]
        exact hfront.isInfix
    | cons d back =>
        rw [List.getLast?_append_of_ne_nil _ (List.cons_ne_nil d back)] at hlast
        exact absurd (hback.subset (List.mem_of_getLast? hlast)) hb

theorem Text.beforeEnd?_eq_some_iff {ending s rest : String} :
    beforeEnd? ending s = some rest ↔ s = rest ++ ending := by
  rw [beforeEnd?, Option.map_eq_some_iff, ← String.toList_inj, String.toList_append]
  constructor
  · rintro ⟨c, hc, rfl⟩
    rw [String.toList_ofList, List.isSuffixOf?_eq_some_iff_append_eq.1 hc]
  · exact fun h => ⟨_, List.isSuffixOf?_eq_some_iff_append_eq.2 h.symm, String.ofList_toList⟩

/-- There is the start of a pointer to a definition somewhere in the name. -/
def HasPointer (name : String) : Prop :=
  SchemaRef.start.toList <:+: name.toList

instance (name : String) : Decidable (HasPointer name) :=
  inferInstanceAs (Decidable (_ <:+: _))

theorem split?_eq_none_of_not_hasPointer {name : String} (h : ¬HasPointer name) :
    SchemaRef.split? name = none := by
  rw [SchemaRef.split?]
  cases hafter : Text.afterStart? SchemaRef.start name with
  | none => rfl
  | some rest =>
      rw [Text.afterStart?_eq_some_iff] at hafter
      refine absurd ?_ h
      rw [HasPointer, hafter, String.toList_append]
      exact List.infix_append [] _ _

theorem not_hasPointer_append {name added : String} (h : ¬HasPointer name)
    (hslash : '/' ∉ added.toList) : ¬HasPointer (name ++ added) := by
  intro hpointer
  rw [HasPointer, String.toList_append] at hpointer
  exact h (infix_of_infix_append hpointer (by decide) hslash)

namespace Naming

/-- The names that the conventions give without looking at the group. -/
def fixedNames : List String :=
  ["EventResponse", "DeleteResponse", "BulkActionResponse", "TokenResponse", "PasskeyOptions",
    "UserResponse", "ReorderRequest", "BulkUuidsRequest"]

/-- A name that a group of the given names may get. -/
inductive Chosen (configs : List RuleConfig) (names : List String) : String → Prop where
  | member {name : String} (h : name ∈ names) : Chosen configs names name
  | configured {config : RuleConfig} (h : config ∈ configs) : Chosen configs names config.canonical
  | fixed {name : String} (h : name ∈ fixedNames) : Chosen configs names name
  /-- The entity is a part of a name of the group. -/
  | listing {name entity : String} (hname : name ∈ names) (h : entity.toList <:+: name.toList) :
      Chosen configs names (entity ++ "ListResponse")
  | numbered {name : String} (h : Chosen configs names name) (n : Nat) :
      Chosen configs names (name ++ toString n)

theorem prefix_of_beforeEnd? {ending s rest : String} (h : Text.beforeEnd? ending s = some rest) :
    rest.toList <+: s.toList := by
  rw [Text.beforeEnd?_eq_some_iff] at h
  exact ⟨_, by rw [h, String.toList_append]⟩

theorem prefix_stem (name : String) : (stem name).toList <+: name.toList := by
  rw [stem]
  cases h : Text.beforeEnd? "Dto" name with
  | none => exact List.prefix_rfl
  | some rest => exact prefix_of_beforeEnd? h

theorem prefix_singular (entity : String) : (singular entity).toList <+: entity.toList := by
  rw [singular]
  split
  · rw [String.toList_ofList]
    exact List.dropLast_prefix _
  · exact List.prefix_rfl

/-- The entity of a listing is a part of its name. -/
theorem infix_of_listedEntity? {stem entity : String} (h : listedEntity? stem = some entity) :
    entity.toList <:+: stem.toList := by
  obtain ⟨hbetween, _⟩ := Option.filter_eq_some_iff.1 h
  obtain ⟨rest, hrest, hentity⟩ := Option.bind_eq_some_iff.1 hbetween
  rw [Text.afterStart?_eq_some_iff] at hrest
  have hsuffix : rest.toList <:+ stem.toList := ⟨_, by rw [hrest, String.toList_append]⟩
  exact (prefix_of_beforeEnd? hentity).isInfix.trans hsuffix.isInfix

/-- The counted entities are parts of the names. -/
theorem exists_of_mem_entityCounts {stems : List String} {entity : String}
    (h : (entityCounts stems).contains entity) :
    ∃ stem ∈ stems, entity.toList <:+: stem.toList := by
  suffices ∀ (entities : List String) (counts : NameMap Nat),
      (entities.foldl (fun counts entity =>
        counts.insert (singular entity) (((counts.get? (singular entity)).getD 0) + 1))
          counts).contains entity →
        counts.contains entity ∨ ∃ listed ∈ entities, entity = singular listed by
    rcases this (stems.filterMap listedEntity?) .empty h with hempty | ⟨listed, hlisted, rfl⟩
    · cases hempty
    · obtain ⟨stem, hstem, hentity⟩ := List.mem_filterMap.1 hlisted
      exact ⟨stem, hstem, (prefix_singular listed).isInfix.trans (infix_of_listedEntity? hentity)⟩
  intro entities
  induction entities with
  | nil => exact fun counts h => .inl h
  | cons listed rest ih =>
      intro counts hfold
      rcases ih _ hfold with hcounts | ⟨other, hother, heq⟩
      · rw [NameMap.contains, NameMap.get?_insert] at hcounts
        split at hcounts
        case isTrue heq => exact .inr ⟨listed, List.mem_cons_self, heq⟩
        case isFalse => exact .inl hcounts
      · exact .inr ⟨other, List.mem_cons_of_mem _ hother, heq⟩

/-- What is picked from some items, one against the next, is one of them. -/
theorem foldl_pick_mem {α : Type} {f : α → α → α} (hf : ∀ a b, f a b = a ∨ f a b = b)
    (best : α) (rest : List α) : rest.foldl f best ∈ best :: rest := by
  induction rest generalizing best with
  | nil => exact List.mem_cons_self
  | cons other rest ih =>
      have hmem := ih (f best other)
      rw [List.foldl_cons]
      rcases hf best other with heq | heq
      · rw [heq] at hmem ⊢
        exact (List.cons_subset_cons best (List.subset_cons_self other rest)) hmem
      · rw [heq] at hmem ⊢
        exact List.mem_cons_of_mem _ hmem

/-- The entity that is listed most often is one of those that are counted, if there are any. -/
theorem commonestEntity_mem (counts : NameMap Nat) :
    commonestEntity counts = "" ∨ counts.contains (commonestEntity counts) := by
  rw [commonestEntity, NameMap.contains_iff]
  cases hentries : counts.entries with
  | nil => exact .inl rfl
  | cons first rest =>
      have hpick := foldl_pick_mem (f := fun best entry : String × Nat =>
        if best.2 < entry.2 then entry else best) (fun a b => (ite_eq_or_eq _ b a).symm) first rest
      exact .inr ⟨_, NameMap.get?_eq_some_iff.2 (hentries ▸ hpick)⟩

theorem shortest_mem {names : List String} (h : names ≠ []) : shortest names ∈ names := by
  cases names with
  | nil => exact absurd rfl h
  | cons name rest => exact foldl_pick_mem (fun a b => (ite_eq_or_eq _ b a).symm) name rest

/-- What the conventions choose. -/
theorem chosen_nameFor {configs : List RuleConfig} {names : List String} (hne : names ≠ [])
    {rule : NamingRule} (hrule : rule ∈ conventions) :
    Chosen configs names (rule.nameFor (names.map stem)) := by
  have hlisting : Chosen configs names (listingName (names.map stem)) := by
    rcases commonestEntity_mem (entityCounts (names.map stem)) with hnone | hcounted
    · obtain ⟨name, hname⟩ := List.exists_mem_of_ne_nil names hne
      exact .listing hname (by rw [hnone]; exact List.nil_infix)
    · obtain ⟨_, hstem, hentity⟩ := exists_of_mem_entityCounts hcounted
      obtain ⟨name, hname, rfl⟩ := List.mem_map.1 hstem
      exact .listing hname (hentity.trans (prefix_stem name).isInfix)
  have hfixed : ∀ label accepts canonical, canonical ∈ fixedNames → Chosen configs names
      ((NamingRule.fixed label accepts canonical).nameFor (names.map stem)) :=
    fun _ _ _ => .fixed
  simp only [conventions, List.mem_cons, List.not_mem_nil, or_false] at hrule
  rcases hrule with rfl | rfl | rfl | rfl | rfl | rfl | rfl | rfl | rfl
  case inr.inr.inr.inr.inr.inr.inl => exact hlisting
  all_goals exact hfixed _ _ _ (by decide)

/-- What the table chooses for a group. -/
theorem chosen_choose {configs : List RuleConfig} {table : NamingTable}
    (h : table? configs = .ok table) {names : List String} (hne : names ≠ []) :
    Chosen configs names (choose table names) := by
  obtain ⟨configured, hconfigured, htable⟩ := bind_eq_ok.1 h
  rw [pure_eq_ok] at htable
  subst htable
  have hsorted := distinctSorted_ne_nil hne
  have hmem : ∀ {name}, Chosen configs (distinctSorted names) name → Chosen configs names name := by
    intro name hchosen
    induction hchosen with
    | member h => exact .member (mem_distinctSorted.1 h)
    | configured h => exact .configured h
    | fixed h => exact .fixed h
    | listing hname h => exact .listing (mem_distinctSorted.1 hname) h
    | numbered _ n ih => exact .numbered ih n
  refine hmem ?_
  rw [choose]
  cases hfound : (configured ++ conventions).find? fun rule =>
      rule.acceptsAll ((distinctSorted names).map stem) with
  | none => exact .member (shortest_mem hsorted)
  | some rule =>
      rcases List.mem_append.1 (List.mem_of_find?_eq_some hfound) with hrule | hrule
      · obtain ⟨config, hconfig, hrule⟩ := exists_left_of_forall₂ (mapM_eq_ok.1 hconfigured) hrule
        rw [NamingRule.ofConfig?] at hrule
        split at hrule
        case h_1 =>
          cases hrule
          exact .configured hconfig
        case h_2 => cases hrule
      · exact chosen_nameFor hsorted hrule

namespace Chosen

variable {configs : List RuleConfig} {names : List String} {chosen : String}

/-- No pointer comes into a name that none of the names and none of the rules has one in. -/
theorem not_hasPointer (h : Chosen configs names chosen) (hnames : ∀ name ∈ names, ¬HasPointer name)
    (hconfigs : ∀ config ∈ configs, ¬HasPointer config.canonical) : ¬HasPointer chosen := by
  induction h with
  | member h => exact hnames _ h
  | configured h => exact hconfigs _ h
  | fixed h =>
      have hnone : ∀ name ∈ fixedNames, ¬HasPointer name := by decide
      exact hnone _ h
  | listing hname h =>
      refine not_hasPointer_append (fun hpointer => ?_) (by decide)
      exact hnames _ hname (hpointer.trans h)
  | numbered _ n ih =>
      refine not_hasPointer_append ih fun hslash => ?_
      have hdigit := isDigit_of_mem_toString hslash
      revert hdigit
      decide

/-- A keyword that is looked for by the scan is chosen only if a rule or a member is called so. -/
theorem mem_or_ne (h : Chosen configs names chosen) {keyword : String}
    (hkeyword : keyword = "$ref" ∨ keyword = "discriminator")
    (hconfigs : ∀ config ∈ configs, config.canonical ≠ keyword) :
    chosen ∈ names ∨ chosen ≠ keyword := by
  cases h with
  | member h => exact .inl h
  | configured h => exact .inr (hconfigs _ h)
  | fixed h =>
      right
      rintro rfl
      rcases hkeyword with rfl | rfl
      · revert h
        decide
      · revert h
        decide
  | listing hname h =>
      right
      intro heq
      have hsuffix : "ListResponse".toList <:+ keyword.toList :=
        ⟨_, by rw [← heq, String.toList_append]⟩
      revert hsuffix
      rcases hkeyword with rfl | rfl <;> decide
  | @numbered base h n =>
      right
      intro heq
      have hdigits : (toString n).toList = Nat.toDigits 10 n := Nat.toList_repr
      have hc := List.getLast?_eq_some_getLast (hdigits ▸ Nat.toDigits_ne_nil)
      generalize (toString n).toList.getLast _ = c at hc
      have hdigit := isDigit_of_mem_toString (List.mem_of_getLast? hc)
      have hlast : keyword.toList.getLast? = some c := by
        rw [← heq, String.toList_append, List.getLast?_append, hc]
        rfl
      rcases hkeyword with rfl | rfl
      · cases hlast
        revert hdigit
        decide
      · cases hlast
        revert hdigit
        decide

end Chosen

end Naming

/-- A free name is the base, if no other can be found, or the base with a number. -/
theorem freeName_cases (taken : String → Bool) (base : String) (bound : Nat) :
    freeName taken base bound = base ∨ ∃ n : Nat, freeName taken base bound = base ++ toString n := by
  rw [freeName]
  cases hfound : ((List.range' 2 bound).map fun n => base ++ toString n).find?
      fun name => !taken name with
  | none => exact .inl rfl
  | some name =>
      obtain ⟨n, _, rfl⟩ := List.mem_map.1 (List.mem_of_find?_eq_some hfound)
      exact .inr ⟨n, rfl⟩

namespace Plan

/-- A name that can be assigned to a group is chosen for it, with a number or without. -/
theorem Assignable.chosen {definitions : NameMap Json} {configs : List RuleConfig}
    {table : NamingTable} {policy : ConflictPolicy} {pair : MergeGroup × String}
    (h : Assignable definitions table policy pair) (htable : Naming.table? configs = .ok table) :
    Naming.Chosen configs pair.1.members pair.2 := by
  obtain ⟨draft, conflict, hassign⟩ := h
  have hchosen : Naming.Chosen configs pair.1.members (Naming.choose table pair.1.members) :=
    Naming.chosen_choose htable (List.ne_nil_of_mem pair.1.first_mem)
  unfold Draft.assign? at hassign
  dsimp only at hassign
  split at hassign
  case isTrue =>
    rw [Except.ok.injEq, Prod.mk.injEq] at hassign
    exact hassign.1 ▸ hchosen
  case isFalse =>
    cases policy with
    | fail => cases hassign
    | suffix =>
        rw [Except.ok.injEq, Prod.mk.injEq] at hassign
        rw [← hassign.1]
        rcases freeName_cases (draft.taken definitions pair.1.members)
          (Naming.choose table pair.1.members) (draft.claims.size + definitions.size + 1) with
          hbase | ⟨n, hnumbered⟩
        · rw [hbase]
          exact hchosen
        · rw [hnumbered]
          exact .numbered hchosen n

/-- A plan allots every group a name that is chosen for it. -/
theorem exists_allotted_chosen {limit : UInt64} {tier : MergeTier} {groups : List MergeGroup}
    {document : Document} {configs : List RuleConfig} {table : NamingTable}
    {policy : ConflictPolicy} {plan : Plan}
    (hc : Classified limit tier document.definitions groups)
    (htable : Naming.table? configs = .ok table)
    (h : Plan.ofGroups? groups document table policy = .ok plan) :
    ∃ allotted, Allotted document.definitions groups plan.renameMap allotted ∧
      ∀ group canonical, (group, canonical) ∈ allotted →
        Naming.Chosen configs group.members canonical := by
  obtain ⟨allotted, ha, hassignable⟩ := exists_allotted_assignable hc h
  exact ⟨allotted, ha, fun group canonical hpair => (hassignable _ hpair).chosen htable⟩

end Plan

end SchemaMerge
