import SchemaMerge.Proofs.ChosenNames
import SchemaMerge.Proofs.Mentions
import SchemaMerge.Proofs.ShapePreservation
import SchemaMerge.Proofs.TierRefinement

/-!
When a consolidation does not fail. A document is covered if every reference that enters its
definitions names one of them as a whole and stands where the repointing looks. A pass then repoints
all references that it has to, and leaves a covered document again, so no reference comes to point at
nothing (`Document.Repointable.exists_next`). One thing is in the way: a bare name in a
discriminator mapping is replaced by another name as it is, and a name with a pointer in it is then
taken for one. Without such names, what can be analyzed can be consolidated
(`Document.exists_consolidate?`).
-/

namespace SchemaMerge

namespace Mention

/-- If the mention enters the definitions, it names one as a whole, and it is repointed. -/
def Covered (mention : Mention) : Prop :=
  ∀ entered ∈ SchemaRef.split? mention.target, mention.Reached ∧ entered.2 = ""

instance (mention : Mention) : Decidable mention.Covered :=
  inferInstanceAs (Decidable (∀ entered ∈ SchemaRef.split? mention.target, _))

/-- The two mentions differ at most in where they stand. -/
def Alike (a b : Mention) : Prop :=
  a.place = b.place ∧ a.entry = b.entry ∧ a.text = b.text

theorem Alike.target_eq {a b : Mention} (h : a.Alike b) : a.target = b.target := by
  rw [target, target, h.2.1, h.2.2]

theorem Alike.retext {a b : Mention} (h : a.Alike b) (f : Place → String → String) :
    (a.retext f).Alike (b.retext f) :=
  ⟨h.1, h.2.1, by rw [Mention.retext, Mention.retext, h.1, h.2.2]⟩

theorem Alike.isBare {a b : Mention} (h : a.Alike b) (ha : a.IsBare) : b.IsBare := by
  rwa [IsBare, ← h.1, ← h.2.2]

/-- What an object mentions is mentioned in one that has all of its members, if what the two hold
under the keywords that the scan looks for is the same. -/
theorem exists_alike_object {place : Place} {new old : List (String × Json)}
    (hkeyword : ∀ keyword, keyword = "$ref" ∨ keyword = "discriminator" →
      new.lookup keyword = none ∨ new.lookup keyword = old.lookup keyword)
    (hbelow : ∀ field ∈ new, ∀ inner ∈ all (place.member field.1) field.2, ∃ other ∈ old,
      ∃ origin ∈ all (place.member other.1) other.2, inner.Alike origin)
    {mention : Mention} (h : mention ∈ all place (.object new)) :
    ∃ origin ∈ all place (.object old), mention.Alike origin := by
  rw [all, List.mem_append, List.mem_append] at h
  rw [all]
  rcases h with (href | hmapping) | hfields
  · rcases hkeyword "$ref" (.inl rfl) with hnone | hsame
    · simp [ofRef, hnone] at href
    · rw [ofRef, hsame] at href
      exact ⟨mention, List.mem_append_left _ (List.mem_append_left _ href), rfl, rfl, rfl⟩
  · rcases hkeyword "discriminator" (.inr rfl) with hnone | hsame
    · simp [ofMapping, Site.mapping?, hnone] at hmapping
    · rw [ofMapping, Site.mapping?, hsame] at hmapping
      exact ⟨mention, List.mem_append_left _ (List.mem_append_right _ hmapping), rfl, rfl, rfl⟩
  · obtain ⟨field, hfield, inner, hinner, rfl⟩ := mem_allFields.1 hfields
    obtain ⟨other, hother, origin, horigin, halike⟩ := hbelow field hfield inner hinner
    exact ⟨_, List.mem_append_right _ (mem_allFields.2 ⟨other, hother, origin, horigin, rfl⟩),
      halike⟩

/-- Only what stands under the one name matters. -/
theorem exists_alike_insert {place : Place} {m : NameMap Json} {name : String} {new old : Json}
    (hname : name ≠ "$ref" ∧ name ≠ "discriminator")
    (hbelow : ∀ inner ∈ all (place.member name) new,
      ∃ origin ∈ all (place.member name) old, inner.Alike origin)
    {mention : Mention} (h : mention ∈ all place (.object (m.insert name new).entries)) :
    ∃ origin ∈ all place (.object (m.insert name old).entries), mention.Alike origin := by
  refine exists_alike_object (fun keyword hkeyword => .inr ?_) ?_ h
  · have hne : keyword ≠ name := by
      rintro rfl
      exact hkeyword.elim hname.1 hname.2
    change (m.insert name new).get? keyword = (m.insert name old).get? keyword
    rw [NameMap.get?_insert, NameMap.get?_insert, if_neg hne, if_neg hne]
  · rintro ⟨key, value⟩ hfield inner hinner
    have hvalue := NameMap.get?_eq_some_iff.2 hfield
    rw [NameMap.get?_insert] at hvalue
    split at hvalue
    case isTrue heq =>
      cases hvalue
      subst heq
      obtain ⟨origin, horigin, halike⟩ := hbelow inner hinner
      exact ⟨(key, old), NameMap.get?_eq_some_iff.1 (by rw [NameMap.get?_insert, if_pos rfl]),
        origin, horigin, halike⟩
    case isFalse hne =>
      exact ⟨(key, value),
        NameMap.get?_eq_some_iff.1 (by rw [NameMap.get?_insert, if_neg hne, hvalue]),
        inner, hinner, rfl, rfl, rfl⟩

/-- What a mention says of a definition, it says afterwards of what the definition is called then. -/
def Follows (map : RenameMap) (old new : Mention) : Prop :=
  SchemaRef.split? new.target = none ∨
    ∃ name, SchemaRef.split? old.target = some (name, "") ∧
      SchemaRef.split? new.target = some (map.target name, "") ∧
      (map.get? name = none → new.target = old.target)

/-- A pointer that is repointed follows its definition. -/
theorem follows_of_reference {map : RenameMap} {old new : Mention}
    (hnew : new.target = map.reference old.target)
    (hwhole : ∀ entered ∈ SchemaRef.split? old.target, entered.2 = "") : Follows map old new := by
  rw [Follows, hnew]
  exact map.split?_reference hwhole

/-- A mention with its old text follows its definition if that keeps its name. -/
theorem Follows.refl {map : RenameMap} {mention : Mention}
    (hkept : ∀ entered ∈ SchemaRef.split? mention.target,
      entered.2 = "" ∧ map.get? entered.1 = none) : Follows map mention mention := by
  cases hsplit : SchemaRef.split? mention.target with
  | none => exact .inl hsplit
  | some entered =>
      obtain ⟨name, below⟩ := entered
      obtain ⟨rfl, hname⟩ : below = "" ∧ map.get? name = none := hkept _ hsplit
      refine .inr ⟨name, hsplit, ?_, fun _ => rfl⟩
      rw [RenameMap.target, hname, Option.getD_none, hsplit]

/-- A bare name that is replaced follows its definition, if the new name is no pointer. -/
theorem follows_of_isBareName {map : RenameMap} {mention : Mention}
    (hbare : SchemaRef.isBareName mention.text)
    (hplain : ∀ canonical, map.get? mention.text = some canonical →
      SchemaRef.split? canonical = none) :
    Follows map mention { mention with text := map.target mention.text } := by
  by_cases hentry : mention.entry
  · have hsplit := split?_target_of_isBareName hentry hbare
    cases hget : map.get? mention.text with
    | none =>
        rw [RenameMap.target, hget, Option.getD_none]
        refine .refl fun entered hentered => ?_
        rw [Option.mem_def, hsplit, Option.some.injEq] at hentered
        subst hentered
        exact ⟨rfl, hget⟩
    | some canonical =>
        have htarget : map.target mention.text = canonical := by
          rw [RenameMap.target, hget, Option.getD_some]
        rw [htarget]
        by_cases hcanonical : SchemaRef.isBareName canonical
        · refine .inr ⟨mention.text, hsplit, ?_, fun hnone => ?_⟩
          · rw [htarget]
            exact @split?_target_of_isBareName { mention with text := canonical } hentry hcanonical
          · rw [hget] at hnone
            cases hnone
        · refine .inl ?_
          rw [target_of_not_isBareName hcanonical]
          exact hplain canonical hget
  · left
    change SchemaRef.split? (if mention.entry then _ else map.target mention.text) = none
    rw [if_neg hentry, RenameMap.target]
    cases hget : map.get? mention.text with
    | none => exact SchemaRef.split?_of_isBareName hbare
    | some canonical => exact hplain canonical hget

/-- A covered mention follows its definition. -/
theorem Covered.follows {mention : Mention} (h : mention.Covered)
    (hscan : mention.place = .reference → mention.entry = false) {map : RenameMap}
    (hplain : mention.IsBare → ∀ canonical, map.get? mention.text = some canonical →
      SchemaRef.split? canonical = none) :
    Follows map mention (mention.retext map.textAt) := by
  have hwhole : ∀ entered ∈ SchemaRef.split? mention.target, entered.2 = "" :=
    fun entered hentered => (h entered hentered).2
  by_cases hreached : mention.Reached
  · by_cases hbare : mention.IsBare
    · have hretext : mention.retext map.textAt =
          { mention with text := map.target mention.text } := by
        rw [← text_retext_of_isBare map hbare]
        rfl
      rw [hretext]
      exact follows_of_isBareName hbare.2 (hplain hbare)
    · exact follows_of_reference (target_retext_of_not_isBare map hreached hscan hbare) hwhole
  · -- What is not reached does not enter the definitions, and stays as it is.
    left
    rw [retext_eq_self hreached, Option.eq_none_iff_forall_ne_some]
    intro entered hentered
    exact hreached (h entered hentered).1

/-- Repointing turns nothing into a bare name. -/
theorem IsBare.of_retext {map : RenameMap} {mention : Mention}
    (h : (mention.retext map.textAt).IsBare) : mention.IsBare := by
  obtain ⟨hentry, hbare⟩ := h
  have hplace : mention.place = .entry := hentry
  refine ⟨hplace, ?_⟩
  by_contra hname
  rw [retext, hplace, RenameMap.textAt, RenameMap.mappingText, if_neg hname] at hbare
  exact map.not_isBareName_reference hname hbare

end Mention

namespace Document

variable {document : Document}

/-- Every reference that enters the definitions names one of them as a whole, and the repointing
finds it. -/
def Covered (document : Document) : Prop :=
  ∀ mention ∈ document.mentions, mention.Covered

instance (document : Document) : Decidable document.Covered :=
  inferInstanceAs (Decidable (∀ mention ∈ document.mentions, mention.Covered))

/-- Creating and removing definitions brings in no new mentions, as long as no definition is created
under a keyword that the scan looks for. -/
theorem exists_alike_rearranged {map : RenameMap} {created : NameMap Json}
    (hcreated : ∀ name, created.get? name = document.definitions.get? (map.source name))
    (hkeyword : ∀ keyword, keyword = "$ref" ∨ keyword = "discriminator" →
      map.materialized.get? keyword = none)
    {mention : Mention} (h : mention ∈ (document.rearranged map created).mentions) :
    ∃ origin ∈ document.mentions, mention.Alike origin := by
  refine Mention.exists_alike_insert (by decide) (fun inner hinner => ?_) h
  refine Mention.exists_alike_insert (by decide) (fun inner hinner => ?_) hinner
  refine Mention.exists_alike_object (fun keyword hscan => ?_) ?_ hinner
  · change (map.withoutAliases created).get? keyword = none ∨
      (map.withoutAliases created).get? keyword = document.definitions.get? keyword
    rw [RenameMap.get?_withoutAliases]
    split
    · exact .inl rfl
    · rw [hcreated, RenameMap.source, hkeyword keyword hscan]
      exact .inr rfl
  · rintro ⟨name, body⟩ hfield inner hinner
    have hbody : (map.withoutAliases created).get? name = some body :=
      NameMap.get?_eq_some_iff.2 hfield
    rw [RenameMap.get?_withoutAliases] at hbody
    split at hbody
    case isTrue => cases hbody
    case isFalse =>
      rw [hcreated] at hbody
      exact ⟨_, NameMap.get?_eq_some_iff.1 hbody, inner, hinner, rfl, rfl, rfl⟩

/-- If a mapping names a definition without a pointer, no definition and no rule has the start of a
pointer in its name. -/
def PlainNames (document : Document) (options : Options) : Prop :=
  (∃ mention ∈ document.mentions, mention.IsBare) →
    (∀ name ∈ document.definitions.names, ¬HasPointer name) ∧
      ∀ config ∈ options.namingRules, ¬HasPointer config.canonical

instance (options : Options) : Decidable (document.PlainNames options) :=
  inferInstanceAs (Decidable ((∃ mention ∈ document.mentions, mention.IsBare) → _))

end Document

/-- What there is once a pass is planned and the definitions that it needs are created. -/
structure Prepared (options : Options) (document : Document) (groups : List MergeGroup)
    (map : RenameMap) (allotted : List (MergeGroup × String)) (created : NameMap Json) : Prop where
  classified : Classified options.maxDepth options.tier document.definitions groups
  allots : Allotted document.definitions groups map allotted
  chosen : ∀ group canonical, (group, canonical) ∈ allotted →
    Naming.Chosen options.namingRules group.members canonical
  rules : ∀ config ∈ options.namingRules,
    config.canonical ≠ "$ref" ∧ config.canonical ≠ "discriminator"
  creates : map.withCreated? document.definitions = .ok created

namespace Prepared

variable {options : Options} {document : Document} {groups : List MergeGroup} {map : RenameMap}
  {allotted : List (MergeGroup × String)} {created : NameMap Json}

/-- No definition is created under a keyword that the scan looks for. -/
theorem get?_materialized (h : Prepared options document groups map allotted created)
    {keyword : String} (hkeyword : keyword = "$ref" ∨ keyword = "discriminator") :
    map.materialized.get? keyword = none := by
  rw [Option.eq_none_iff_forall_ne_some]
  intro source hsource
  obtain ⟨group, hpair, hout, _⟩ := (h.allots.materialized keyword source).1 hsource
  have hrules : ∀ config ∈ options.namingRules, config.canonical ≠ keyword := by
    intro config hconfig
    rcases hkeyword with rfl | rfl
    · exact (h.rules config hconfig).1
    · exact (h.rules config hconfig).2
  exact ((h.chosen group keyword hpair).mem_or_ne hkeyword hrules).elim hout fun hne => hne rfl

/-- No pointer comes into an allotted name. -/
theorem not_hasPointer_canonical (h : Prepared options document groups map allotted created)
    (hnames : ∀ name ∈ document.definitions.names, ¬HasPointer name)
    (hrules : ∀ config ∈ options.namingRules, ¬HasPointer config.canonical)
    {group : MergeGroup} {canonical : String} (hpair : (group, canonical) ∈ allotted) :
    ¬HasPointer canonical := by
  refine (h.chosen group canonical hpair).not_hasPointer (fun name hname => hnames name ?_) hrules
  exact NameMap.mem_names_iff.2 (h.classified.contains (h.allots.mem_groups hpair) hname)

/-- Every mention afterwards is one from before, which it follows. -/
theorem exists_follows (h : Prepared options document groups map allotted created)
    (hcovered : document.Covered) (hplain : document.PlainNames options) {mention : Mention}
    (hmention : mention ∈ (document.repointed map created).mentions) :
    ∃ origin ∈ document.mentions, mention.Alike (origin.retext map.textAt) ∧
      Mention.Follows map origin mention := by
  rw [Document.mentions_repointed] at hmention
  obtain ⟨inner, hinner, rfl⟩ := List.mem_map.1 hmention
  have hcreated := RenameMap.get?_withCreated? (fun _ _ => h.allots.created_new h.classified)
    h.creates
  obtain ⟨origin, horigin, halike⟩ := Document.exists_alike_rearranged hcreated
    (fun _ hkeyword => h.get?_materialized hkeyword) hinner
  refine ⟨origin, horigin, halike.retext map.textAt, ?_⟩
  have hfollows : Mention.Follows map origin (origin.retext map.textAt) := by
    refine (hcovered origin horigin).follows (Mention.entry_eq_false horigin) ?_
    intro hbare canonical hcanonical
    obtain ⟨hnames, hrules⟩ := hplain ⟨origin, horigin, hbare⟩
    obtain ⟨group, hpair, _⟩ := (h.allots.aliases origin.text canonical).1 hcanonical
    exact split?_eq_none_of_not_hasPointer (h.not_hasPointer_canonical hnames hrules hpair)
  rwa [Mention.Follows, ← (halike.retext map.textAt).target_eq] at hfollows

theorem get?_definitions (h : Prepared options document groups map allotted created)
    (name : String) : (document.repointed map created).definitions.get? name =
      if map.aliases.contains name then none
      else (document.definitions.get? (map.source name)).map map.schema :=
  h.allots.get?_definitions_repointed h.classified h.creates name

/-- A name that is none of a definition is not replaced. -/
theorem get?_eq_none (h : Prepared options document groups map allotted created) {name : String}
    (hname : document.definitions.contains name = false) : map.get? name = none := by
  rw [Option.eq_none_iff_forall_ne_some]
  intro canonical hcanonical
  rw [h.allots.contains_of_get? h.classified hcanonical] at hname
  cases hname

/-- No reference comes to point at nothing. -/
theorem forgiven (h : Prepared options document groups map allotted created)
    (hcovered : document.Covered) (hplain : document.PlainNames options) {site : Site}
    (hsite : site ∈ (document.repointed map created).danglingSites) :
    site.target ∈ document.danglingSites.map (·.target) := by
  obtain ⟨hsite, hdangling⟩ := List.mem_filter.1 hsite
  rw [Bool.not_eq_true'] at hdangling
  change site ∈ (document.repointed map created).sites at hsite
  rw [← Document.map_site_mentions] at hsite
  obtain ⟨mention, hmention, rfl⟩ := List.mem_map.1 hsite
  obtain ⟨origin, horigin, _, hfollows⟩ := h.exists_follows hcovered hplain hmention
  rcases hfollows with hnone | ⟨name, hold, hnew, hsame⟩
  · rw [Mention.site, Document.resolves_of_split?_eq_none hnone] at hdangling
    cases hdangling
  rw [Mention.site, Document.resolves_of_split? hnew] at hdangling
  have hname : document.definitions.contains name = false := by
    by_contra hcontains
    rw [Bool.not_eq_false] at hcontains
    rw [h.allots.contains_target h.classified h.get?_definitions hcontains] at hdangling
    cases hdangling
  refine List.mem_map.2 ⟨origin.site "#", List.mem_filter.2 ⟨?_, ?_⟩,
    (hsame (h.get?_eq_none hname)).symm⟩
  · change origin.site "#" ∈ document.sites
    rw [← Document.map_site_mentions]
    exact List.mem_map.2 ⟨origin, horigin, rfl⟩
  · rw [Mention.site, Document.resolves_of_split? hold, hname]
    rfl

/-- A covered document stays covered. -/
theorem covered (h : Prepared options document groups map allotted created)
    (hcovered : document.Covered) (hplain : document.PlainNames options) :
    (document.repointed map created).Covered := by
  intro mention hmention entered hentered
  obtain ⟨origin, horigin, halike, hfollows⟩ := h.exists_follows hcovered hplain hmention
  rw [Option.mem_def] at hentered
  rcases hfollows with hnone | ⟨name, hold, hnew, _⟩
  · rw [hnone] at hentered
    cases hentered
  · rw [hnew, Option.some.injEq] at hentered
    subst hentered
    obtain ⟨hreached, _⟩ := hcovered origin horigin (name, "") hold
    rw [Mention.Reached, halike.1]
    exact ⟨hreached, rfl⟩

/-- Names stay plain. -/
theorem plainNames (h : Prepared options document groups map allotted created)
    (hcovered : document.Covered) (hplain : document.PlainNames options) :
    (document.repointed map created).PlainNames options := by
  rintro ⟨mention, hmention, hbare⟩
  obtain ⟨origin, horigin, halike, _⟩ := h.exists_follows hcovered hplain hmention
  obtain ⟨hnames, hrules⟩ := hplain ⟨origin, horigin, (halike.isBare hbare).of_retext⟩
  refine ⟨fun name hname => ?_, hrules⟩
  obtain ⟨body, hbody⟩ := NameMap.contains_iff.1 (NameMap.mem_names_iff.1 hname)
  rw [h.get?_definitions] at hbody
  split at hbody
  case isTrue => cases hbody
  case isFalse =>
    cases hsource : map.materialized.get? name with
    | some source =>
        obtain ⟨group, hpair, _⟩ := (h.allots.materialized name source).1 hsource
        exact h.not_hasPointer_canonical hnames hrules hpair
    | none =>
        rw [RenameMap.source, hsource, Option.getD_none, Option.map_eq_some_iff] at hbody
        obtain ⟨old, hold, _⟩ := hbody
        exact hnames name (NameMap.mem_names_iff.2 (NameMap.contains_iff.2 ⟨old, hold⟩))

/-- What can be classified can be classified afterwards. -/
theorem exists_classify (h : Prepared options document groups map allotted created)
    (hclassify : ∃ found, classify options.maxDepth options.tier.toTier document.definitions =
      .ok found) :
    ∃ found, classify options.maxDepth options.tier.toTier
      (document.repointed map created).definitions = .ok found := by
  rw [exists_classify_eq_ok] at hclassify ⊢
  intro name body hbody
  rw [h.get?_definitions] at hbody
  split at hbody
  case isTrue => cases hbody
  case isFalse =>
    obtain ⟨old, hold, rfl⟩ := Option.map_eq_some_iff.1 hbody
    obtain ⟨key, hkey⟩ := hclassify _ old hold
    exact Key.exists_key_schema map hkey name

end Prepared

namespace Document

/-- A document that can be merged, and whose references can be repointed. -/
structure Repointable (options : Options) (document : Document) : Prop where
  classified : ∃ found,
    classify options.maxDepth options.tier.toTier document.definitions = .ok found
  covered : document.Covered
  plain : document.PlainNames options

variable {options : Options} {table : NamingTable} {document : Document}

theorem Repointable.exists_groups (h : Repointable options document) :
    ∃ groups, classifyForMerge options.maxDepth options.tier options.keepSeparate
      document.definitions = .ok groups := by
  obtain ⟨found, hfound⟩ := h.classified
  exact ⟨_, bind_eq_ok.2 ⟨found, hfound, rfl⟩⟩

/-- What can be analyzed can be classified at every tier. -/
theorem exists_classify_of_analyze? {report : Report} (h : document.analyze? options = .ok report)
    (tier : Tier) :
    ∃ found, classify options.maxDepth tier document.definitions = .ok found := by
  obtain ⟨groups, hgroups, _⟩ := bind_eq_ok.1 h
  rw [allGroups?, Tier.all, List.foldlM_cons] at hgroups
  obtain ⟨_, hexact, _⟩ := bind_eq_ok.1 hgroups
  obtain ⟨found, hfound, _⟩ := bind_eq_ok.1 hexact
  have hclassify : classify options.maxDepth (MergeTier.toTier .exact) document.definitions =
    .ok found := hfound
  exact classify_ok hclassify tier

section Running

variable (htable : Naming.table? options.namingRules = .ok table)
  (hpolicy : options.conflictPolicy = .suffix)
  (hrules : ∀ config ∈ options.namingRules,
    config.canonical ≠ "$ref" ∧ config.canonical ≠ "discriminator")

include htable hpolicy hrules

/-- A pass over such a document succeeds and leaves one. -/
theorem Repointable.exists_next (h : Repointable options document) {groups : List MergeGroup}
    (hgroups : classifyForMerge options.maxDepth options.tier options.keepSeparate
      document.definitions = .ok groups) (hne : groups ≠ []) :
    ∃ plan next, Pass options table document groups plan next ∧ Repointable options next := by
  have hc := Classified.of_classifyForMerge hgroups
  obtain ⟨plan, hplan⟩ := Plan.exists_ofGroups?_suffix table hc
  obtain ⟨allotted, hallots, hchosen⟩ := Plan.exists_allotted_chosen hc htable hplan
  obtain ⟨created, hcreated⟩ := RenameMap.exists_withCreated? fun _ _ hsource =>
    (hallots.created_new hc hsource).2
  have hprepared : Prepared options document groups plan.renameMap allotted created :=
    ⟨hc, hallots, hchosen, hrules, hcreated⟩
  have hnext := repoint?_ok (hallots.isEmpty_eq_false hc hne) hcreated fun _ hsite =>
    hprepared.forgiven h.covered h.plain hsite
  rw [← hpolicy] at hplan
  exact ⟨plan, _, ⟨hgroups, hne, hplan, hnext⟩, hprepared.exists_classify h.classified,
    hprepared.covered h.covered h.plain, hprepared.plainNames h.covered h.plain⟩

/-- So passes lead to a document that has nothing left to merge. -/
theorem Repointable.exists_passes (h : Repointable options document) :
    ∃ plans final, Passes options table document plans final := by
  induction hcount : document.definitionCount using Nat.strong_induction_on generalizing document
    with
  | _ count ih =>
      obtain ⟨groups, hgroups⟩ := h.exists_groups
      by_cases hne : groups = []
      · subst hne
        exact ⟨[], document, .done hgroups⟩
      · obtain ⟨plan, next, hpass, hnext⟩ := h.exists_next htable hpolicy hrules hgroups hne
        obtain ⟨plans, final, hrest⟩ := ih _ (hcount ▸ hpass.definitionCount_lt) hnext rfl
        exact ⟨plan :: plans, final, .pass hpass hrest⟩

end Running

/-- A covered document that can be analyzed can be consolidated, if nothing is extracted for it, the
names of its definitions are plain, and names that are taken get a number. -/
theorem exists_consolidate? (hcovered : document.Covered) (hplain : document.PlainNames options)
    (htable : Naming.table? options.namingRules = .ok table)
    (hrules : ∀ config ∈ options.namingRules,
      config.canonical ≠ "$ref" ∧ config.canonical ≠ "discriminator")
    (hpolicy : options.conflictPolicy = .suffix) (hinline : options.extractInline = false)
    {report : Report} (hreport : document.analyze? options = .ok report) :
    ∃ result, document.consolidate? options = .ok result := by
  have hstart : document.start? options = .ok (document, []) := by
    rw [start?, hinline]
    rfl
  have hrepointable : Repointable options document :=
    ⟨exists_classify_of_analyze? hreport _, hcovered, hplain⟩
  obtain ⟨plans, final, hpasses⟩ := hrepointable.exists_passes htable hpolicy hrules
  have hrun : Progress.run? { working := document } options table (document.definitionCount + 1) =
      .ok { working := final, plans } :=
    (Progress.run?_eq_ok (Nat.lt_succ_self _)).2 ⟨plans, rfl, hpasses⟩
  exact ⟨_, bind_eq_ok.2 ⟨table, htable, bind_eq_ok.2 ⟨report, hreport,
    bind_eq_ok.2 ⟨(document, []), hstart, bind_eq_ok.2 ⟨_, hrun, rfl⟩⟩⟩⟩⟩

/-- Twins, and a mapping that names the one and points at the other. -/
def choice : Document :=
  ofSchemas [
    ("A", .record [("type", .string "string")]),
    ("B", .record [("type", .string "string")]),
    ("C", .record [("discriminator", .record [("mapping", .record [
      ("a", .string "A"), ("b", .string "#/components/schemas/B")])])])]

set_option maxRecDepth 100000 in
theorem exists_consolidate?_choice : ∃ report result, choice.Covered ∧ choice.PlainNames {} ∧
    (∃ mention ∈ choice.mentions, mention.IsBare) ∧
    Naming.table? (Options.namingRules {}) = .ok Naming.conventions ∧
    choice.analyze? {} = .ok report ∧ choice.consolidate? {} = .ok result := by
  have hcovered : choice.Covered := by decide +kernel
  have hplain : choice.PlainNames {} := by decide +kernel
  obtain ⟨report, hreport, _⟩ : ∃ report, choice.analyze? {} = .ok report ∧
      report.before.definitions = 3 :=
    exists_ok_of_toOption (by decide +kernel)
  have hrules : ∀ config ∈ Options.namingRules {},
      config.canonical ≠ "$ref" ∧ config.canonical ≠ "discriminator" := by decide
  obtain ⟨result, hresult⟩ := exists_consolidate? hcovered hplain rfl hrules rfl rfl hreport
  exact ⟨report, result, hcovered, hplain, by decide +kernel, rfl, hreport, hresult⟩

/-- Twins, of which a mapping names one, and a rule that calls both of them by a pointer. -/
def pointed : Document :=
  ofSchemas [
    ("A", .record [("type", .string "string")]),
    ("B", .record [("type", .string "string")]),
    ("C", .record [("discriminator", .record [("mapping", .record [("a", .string "A")])])])]

def pointing : Options where
  namingRules := [⟨"^[AB]$", "#/components/schemas/User"⟩]

set_option maxRecDepth 100000 in
/-- The new name is put into the mapping as it is, and read as a pointer. -/
theorem consolidate?_pointed : pointed.Covered ∧
    (∃ table, Naming.table? pointing.namingRules = .ok table) ∧
    (∀ config ∈ pointing.namingRules,
      config.canonical ≠ "$ref" ∧ config.canonical ≠ "discriminator") ∧
    pointing.conflictPolicy = .suffix ∧ pointing.extractInline = false ∧
    (∃ report, pointed.analyze? pointing = .ok report) ∧
    pointed.consolidate? pointing = .error (.dangling
      [⟨"#/components/schemas/C/discriminator/mapping/a", "#/components/schemas/User"⟩]) := by
  obtain ⟨table, htable, _⟩ : ∃ table, Naming.table? pointing.namingRules = .ok table ∧
      table.length = 10 :=
    exists_ok_of_toOption (by decide +kernel)
  obtain ⟨report, hreport, _⟩ : ∃ report, pointed.analyze? pointing = .ok report ∧
      report.before.definitions = 3 :=
    exists_ok_of_toOption (by decide +kernel)
  exact ⟨by decide +kernel, ⟨table, htable⟩, by decide, rfl, rfl, ⟨report, hreport⟩,
    eq_error_of_map (f := fun _ => ()) (by decide +kernel)⟩

end Document

end SchemaMerge
