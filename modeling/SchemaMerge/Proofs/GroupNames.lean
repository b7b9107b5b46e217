import Mathlib.Data.List.Dedup
import SchemaMerge.Proofs.ByteOrder
import SchemaMerge.Proofs.ChosenNames
import SchemaMerge.Proofs.Sorting

/-!
The names that groups get. A group is named by the first rule that accepts all of its names, and if
there is none, after its shortest member. Listings get their name from the entity that they list most
often. All of it depends on the set of names alone (`Naming.choose_first_or_shortest`).
-/

namespace SchemaMerge

/-- What is picked from ascending items, one against the next, precedes the others. -/
theorem foldl_pick_precedes {α : Type} (precedes : α → α → Prop) {ascends : α → α → Prop}
    {pick : α → α → α} (htrans : ∀ {a b c}, precedes a b → precedes b c → precedes a c)
    (hpick : ∀ {a b}, ascends a b →
      pick a b = b ∧ precedes b a ∨ pick a b = a ∧ precedes a b)
    {first best : α} {rest : List α} (h : (first :: rest).Pairwise ascends)
    (hbest : rest.foldl pick first = best) {other : α} (hother : other ∈ first :: rest) :
    other = best ∨ precedes best other := by
  have hthrough : ∀ {kept left}, kept = best ∨ precedes best kept → precedes kept left →
      left = best ∨ precedes best left := by
    rintro kept left (rfl | hkept) hleft
    · exact .inr hleft
    · exact .inr (htrans hkept hleft)
  induction rest generalizing first other with
  | nil => exact .inl (hbest ▸ List.mem_singleton.1 hother)
  | cons next rest ih =>
      obtain ⟨hfirst, hrest⟩ := List.pairwise_cons.1 h
      have hskip : (first :: rest).Pairwise ascends :=
        h.sublist (.cons_cons _ (List.sublist_cons_self next rest))
      rw [List.foldl_cons] at hbest
      rcases hpick (hfirst next List.mem_cons_self) with ⟨heq, hprecedes⟩ | ⟨heq, hprecedes⟩
      · rw [heq] at hbest
        rcases List.mem_cons.1 hother with rfl | hother
        · exact hthrough (ih hrest hbest List.mem_cons_self) hprecedes
        · exact ih hrest hbest hother
      · rw [heq] at hbest
        rcases List.mem_cons.1 hother with rfl | hother
        · exact ih hskip hbest List.mem_cons_self
        · rcases List.mem_cons.1 hother with rfl | hother
          · exact hthrough (ih hskip hbest List.mem_cons_self) hprecedes
          · exact ih hskip hbest (List.mem_cons_of_mem _ hother)

namespace Naming

open Text (bytes)

/-- What a name is without a `Dto` at its end. -/
def Stripped (name stripped : String) : Prop :=
  name = stripped ++ "Dto" ∨ name = stripped ∧ ∀ shorter, name ≠ shorter ++ "Dto"

/-- The rule accepts each of the names, without a `Dto` at its end. -/
def AcceptsEach (rule : NamingRule) (names : List String) : Prop :=
  ∀ name ∈ names, ∀ stripped, Stripped name stripped → rule.accepts stripped

/-- A name has fewer bytes than another one, or as many and the lesser ones. -/
def Shorter (name other : String) : Prop :=
  (bytes name).length < (bytes other).length ∨
    (bytes name).length = (bytes other).length ∧ bytes name < bytes other

/-- One of what is listed. More than three bytes with a single `s` at the end are a plural. -/
inductive Singular : String → String → Prop where
  | shortened {entity : String} (hlong : 3 < (bytes (entity ++ "s")).length)
      (hsingle : ∀ rest, entity ≠ rest ++ "s") : Singular (entity ++ "s") entity
  | same {entity : String} (h : (bytes entity).length ≤ 3 ∨ (∀ rest, entity ≠ rest ++ "s") ∨
      ∃ rest, entity = rest ++ "ss") : Singular entity entity

/-- The name is `GetAll<listed>Response`, with or without a `Dto` at its end, and the entity is one
of what is listed. -/
def Lists (name entity : String) : Prop :=
  ∃ listed, listed ≠ "" ∧ Singular listed entity ∧
    (name = "GetAll" ++ listed ++ "Response" ∨ name = "GetAll" ++ listed ++ "Response" ++ "Dto")

theorem stripped_iff {name stripped : String} : Stripped name stripped ↔ stem name = stripped := by
  rw [Stripped, stem]
  cases hend : Text.beforeEnd? "Dto" name with
  | none =>
      have hnone : ∀ shorter, name ≠ shorter ++ "Dto" := fun shorter heq => by
        rw [Text.beforeEnd?_eq_some_iff.2 heq] at hend
        cases hend
      simp [hnone]
  | some shorter =>
      rw [Text.beforeEnd?_eq_some_iff] at hend
      subst hend
      simp [eq_comm]

theorem acceptsAll_stems_iff {rule : NamingRule} {names : List String} (h : names ≠ []) :
    rule.acceptsAll ((distinctSorted names).map stem) ↔ AcceptsEach rule names := by
  have hsorted := distinctSorted_ne_nil h
  simp [NamingRule.acceptsAll, AcceptsEach, stripped_iff, hsorted]

instance (rule : NamingRule) (names : List String) : Decidable (AcceptsEach rule names) :=
  decidable_of_iff (∀ name ∈ names, rule.accepts (stem name)) (by simp [AcceptsEach, stripped_iff])

theorem listedEntity?_eq_some_iff {stem listed : String} :
    listedEntity? stem = some listed ↔ listed ≠ "" ∧ stem = "GetAll" ++ listed ++ "Response" := by
  simp [listedEntity?, between?, Option.bind_eq_some_iff, Text.afterStart?_eq_some_iff,
    Text.beforeEnd?_eq_some_iff, String.append_assoc, and_comm]

theorem stem_eq_listing_iff {name listed : String} :
    stem name = "GetAll" ++ listed ++ "Response" ↔
      name = "GetAll" ++ listed ++ "Response" ∨ name = "GetAll" ++ listed ++ "Response" ++ "Dto" := by
  have hend : ∀ shorter, "GetAll" ++ listed ++ "Response" ≠ shorter ++ "Dto" := by
    intro shorter heq
    have hreverse := congrArg (fun s : String => s.toList.reverse) heq
    simp at hreverse
  rw [← stripped_iff, Stripped, or_comm]
  refine or_congr_left ⟨And.left, fun heq => ⟨heq, heq ▸ hend⟩⟩

theorem singular_iff {listed entity : String} :
    Singular listed entity ↔ singular listed = entity := by
  have hdouble : ∀ {rest}, Text.endsWith "ss" (rest ++ "s") ↔ ∃ shorter, rest = shorter ++ "s" := by
    intro rest
    have hss : ∀ shorter, shorter ++ "ss" = shorter ++ "s" ++ "s" := fun shorter => by
      rw [String.append_assoc]
      rfl
    simp only [Text.endsWith_iff, hss, String.append_left_inj]
  have hshortened : ∀ rest, String.ofList (rest ++ "s").toList.dropLast = rest := by simp
  rw [singular]
  constructor
  · intro h
    cases h with
    | shortened hlong hsingle =>
        rw [if_pos ⟨hlong, Text.endsWith_iff.2 ⟨_, rfl⟩,
          fun hss => not_exists.2 hsingle (hdouble.1 hss)⟩, hshortened]
    | same h =>
        rw [if_neg]
        rintro ⟨hlong, hend, hnot⟩
        rcases h with hshort | hnone | hss
        · exact Nat.not_lt.2 hshort hlong
        · exact not_exists.2 hnone (Text.endsWith_iff.1 hend)
        · exact hnot (Text.endsWith_iff.2 hss)
  · rintro rfl
    split
    case isTrue h =>
      obtain ⟨hlong, hend, hnot⟩ := h
      obtain ⟨rest, rfl⟩ := Text.endsWith_iff.1 hend
      rw [hshortened]
      exact .shortened hlong fun shorter heq => hnot (hdouble.2 ⟨shorter, heq⟩)
    case isFalse h =>
      refine .same ?_
      by_contra hplural
      obtain ⟨hlong, hend, hnot⟩ := (not_or.1 hplural).imp_right not_or.1
      rw [not_forall_not, ← Text.endsWith_iff] at hend
      rw [← Text.endsWith_iff] at hnot
      exact h ⟨Nat.not_le.1 hlong, hend, hnot⟩

theorem lists_iff {name entity : String} :
    Lists name entity ↔ (listedEntity? (stem name)).map singular = some entity := by
  simp only [Lists, Option.map_eq_some_iff, listedEntity?_eq_some_iff, stem_eq_listing_iff,
    singular_iff]
  exact exists_congr fun listed => ⟨fun ⟨hne, hone, hname⟩ => ⟨⟨hne, hname⟩, hone⟩,
    fun ⟨⟨hne, hname⟩, hone⟩ => ⟨hne, hone, hname⟩⟩

instance (name entity : String) : Decidable (Lists name entity) :=
  decidable_of_iff _ lists_iff.symm

/-- How many of the distinct names list the entity. -/
def listings (names : List String) (entity : String) : Nat :=
  names.dedup.countP fun name => Lists name entity

/-- Every other entity is listed less often, or as often if it has greater bytes. -/
def Commonest (names : List String) (entity : String) : Prop :=
  0 < listings names entity ∧ ∀ other, other ≠ entity →
    listings names other < listings names entity ∨
      listings names other = listings names entity ∧ bytes entity < bytes other

/-- Each entity is counted as often as it stands among what is listed. -/
theorem getD_get?_entityCounts (stems : List String) (entity : String) :
    ((entityCounts stems).get? entity).getD 0 =
      (stems.filterMap listedEntity?).countP fun listed => singular listed = entity := by
  suffices ∀ (entities : List String) (counts : NameMap Nat),
      ((entities.foldl (fun counts entity =>
        counts.insert (singular entity) (((counts.get? (singular entity)).getD 0) + 1))
          counts).get? entity).getD 0 =
        (counts.get? entity).getD 0 + entities.countP fun listed => singular listed = entity from
    (this (stems.filterMap listedEntity?) .empty).trans (Nat.zero_add _)
  intro entities
  induction entities with
  | nil => exact fun counts => rfl
  | cons listed rest ih =>
      intro counts
      rw [List.foldl_cons, ih, NameMap.get?_insert, List.countP_cons]
      by_cases heq : singular listed = entity
      · rw [if_pos heq.symm, heq, Option.getD_some, if_pos (decide_eq_true rfl)]
        omega
      · simp [heq, Ne.symm heq]

theorem listings_eq_countP (names : List String) (entity : String) :
    listings names entity = (((distinctSorted names).map stem).filterMap listedEntity?).countP
      fun listed => singular listed = entity := by
  have hperm : names.dedup.Perm (distinctSorted names) := by
    rw [List.perm_ext_iff_of_nodup names.nodup_dedup (distinctSorted_nodup names)]
    simp
  rw [listings, hperm.countP_eq, List.countP_filterMap, List.countP_map]
  refine List.countP_congr fun name _ => ?_
  rw [decide_eq_true_iff, lists_iff, Function.comp_apply]
  cases listedEntity? (stem name) <;> simp

/-- The entity that is counted most often, and of several the least. -/
theorem exists_get?_commonestEntity {counts : NameMap Nat} (h : counts.entries ≠ []) :
    ∃ most, counts.get? (commonestEntity counts) = some most ∧
      ∀ {other count}, counts.get? other = some count → other = commonestEntity counts ∨
        (count < most ∨ count = most ∧ commonestEntity counts < other) := by
  have hascending : counts.entries.Pairwise fun a b => a.1 < b.1 := counts.ascending
  simp only [NameMap.get?_eq_some_iff]
  rw [commonestEntity]
  cases hentries : counts.entries with
  | nil => exact absurd hentries h
  | cons first rest =>
      rw [hentries] at hascending
      dsimp only
      generalize hbest : rest.foldl (fun best entry : String × Nat =>
        if best.2 < entry.2 then entry else best) first = best
      have hmem : best ∈ first :: rest :=
        hbest ▸ foldl_pick_mem (fun a b => (ite_eq_or_eq _ b a).symm) first rest
      refine ⟨best.2, hmem, fun {other count} hother => ?_⟩
      have hprecedes := foldl_pick_precedes
        (fun a b : String × Nat => b.2 < a.2 ∨ b.2 = a.2 ∧ a.1 < b.1)
        (fun hab hbc => ?trans) (fun hlt => ?pick) hascending hbest hother
      case trans =>
        rcases hab with hab | ⟨hab, hltab⟩ <;> rcases hbc with hbc | ⟨hbc, hltbc⟩
        · exact .inl (hbc.trans hab)
        · exact .inl (hbc ▸ hab)
        · exact .inl (hab ▸ hbc)
        · exact .inr ⟨hbc.trans hab, String.lt_trans hltab hltbc⟩
      case pick =>
        split
        case isTrue hmore => exact .inl ⟨rfl, .inl hmore⟩
        case isFalse hmore => 
          exact .inr ⟨rfl, (Nat.lt_or_eq_of_le (Nat.le_of_not_lt hmore)).imp_right fun heq => ⟨heq, hlt⟩⟩
      exact hprecedes.imp_left (congrArg Prod.fst)

/-- Listings are named after the commonest entity. -/
theorem commonest_commonestEntity {names : List String} {name entity : String} (hname : name ∈ names)
    (hlists : Lists name entity) :
    Commonest names (commonestEntity (entityCounts ((distinctSorted names).map stem))) := by
  have hcount : ∀ other, ((entityCounts ((distinctSorted names).map stem)).get? other).getD 0 =
      listings names other := fun other => by
    rw [getD_get?_entityCounts, listings_eq_countP]
  generalize entityCounts ((distinctSorted names).map stem) = counts at hcount ⊢
  have hpositive : 0 < listings names entity :=
    List.countP_pos_iff.2 ⟨name, List.mem_dedup.2 hname, decide_eq_true hlists⟩
  have hcounted : ∀ {other}, 0 < listings names other →
      counts.get? other = some (listings names other) := fun {other} hother => by
    rw [← hcount] at hother ⊢
    cases hget : counts.get? other with
    | none =>
        rw [hget] at hother
        cases hother
    | some n => rfl
  have hne : counts.entries ≠ [] :=
    List.ne_nil_of_mem (NameMap.get?_eq_some_iff.1 (hcounted hpositive))
  obtain ⟨most, hmost, hleast⟩ := exists_get?_commonestEntity hne
  have hlistings : listings names (commonestEntity counts) = most := by
    rw [← hcount, hmost, Option.getD_some]
  have hless : ∀ {other}, other ≠ commonestEntity counts → 0 < listings names other →
      listings names other < most ∨
        listings names other = most ∧ commonestEntity counts < other := fun hother hlisted =>
    (hleast (hcounted hlisted)).resolve_left hother
  have hmost : 0 < most := by
    by_cases heq : entity = commonestEntity counts
    · rwa [heq, hlistings] at hpositive
    · rcases hless heq hpositive with hlt | ⟨heq, _⟩ <;> omega
  rw [Commonest, hlistings]
  refine ⟨hmost, fun other hother => ?_⟩
  rw [Text.bytes_lt_bytes_iff]
  rcases Nat.eq_zero_or_pos (listings names other) with hzero | hlisted
  · exact .inl (hzero ▸ hmost)
  · exact hless hother hlisted

theorem Shorter.trans {a b c : String} (hab : Shorter a b) (hbc : Shorter b c) : Shorter a c := by
  rcases hab with hab | ⟨hab, hltab⟩ <;> rcases hbc with hbc | ⟨hbc, hltbc⟩
  · exact .inl (hab.trans hbc)
  · exact .inl (hbc ▸ hab)
  · exact .inl (hab ▸ hbc)
  · exact .inr ⟨hab.trans hbc, List.lt_trans hltab hltbc⟩

/-- Of ascending names the shortest one is picked. -/
theorem shortest_shorter {names : List String} (h : names.Pairwise (· < ·)) {other : String}
    (hother : other ∈ names) : other = shortest names ∨ Shorter (shortest names) other := by
  cases names with
  | nil => cases hother
  | cons first rest =>
      refine foldl_pick_precedes Shorter Shorter.trans (fun {a b} hlt => ?_) h rfl hother
      split
      case isTrue hless => exact .inl ⟨rfl, .inl hless⟩
      case isFalse hle =>
        refine .inr ⟨rfl, (Nat.lt_or_eq_of_le (Nat.le_of_not_lt hle)).imp_right fun heq => ?_⟩
        exact ⟨heq, Text.bytes_lt_bytes hlt⟩

theorem eq_of_label_eq_listing {rule : NamingRule} (h : rule ∈ conventions)
    (hlabel : rule.label = "listing") : rule = ⟨"listing", isListing, listingName⟩ := by
  simp only [conventions, List.mem_cons, List.not_mem_nil, or_false] at h
  rcases h with rfl | rfl | rfl | rfl | rfl | rfl | rfl | rfl | rfl
  case inr.inr.inr.inr.inr.inr.inl => rfl
  all_goals exact absurd hlabel (by decide)

theorem acceptsEach_listing_iff {label : String} {nameFor : List String → String}
    {names : List String} :
    AcceptsEach ⟨label, isListing, nameFor⟩ names ↔
      ∀ name ∈ names, ∃ entity, Lists name entity := by
  simp [AcceptsEach, stripped_iff, isListing, lists_iff, Option.isSome_iff_exists]

/-- The names are taken in the order of their bytes, each once, and without `Dto` the rules see them.
The first rule that accepts all names gives the name, and without one it is the shortest member. The
rule for listings accepts what lists something, and takes the commonest entity. -/
theorem choose_first_or_shortest (table : NamingTable) {names : List String} (h : names ≠ []) :
    ∃ ordered stems,
      ordered.Pairwise (fun name other => bytes name < bytes other) ∧
      (∀ name, name ∈ ordered ↔ name ∈ names) ∧
      List.Forall₂ Stripped ordered stems ∧
      (∀ others, (∀ name, name ∈ others ↔ name ∈ names) →
        choose table others = choose table names) ∧
      (∀ before rule after, table = before ++ rule :: after →
        (∀ earlier ∈ before, ¬AcceptsEach earlier names) → AcceptsEach rule names →
          choose table names = rule.nameFor stems) ∧
      ((∀ rule ∈ table, ¬AcceptsEach rule names) →
        choose table names ∈ names ∧ ∀ other ∈ names, other ≠ choose table names →
          Shorter (choose table names) other) ∧
      ∀ rule ∈ conventions, rule.label = "listing" →
        (AcceptsEach rule names ↔ ∀ name ∈ names, ∃ entity, Lists name entity) ∧
        ∀ name ∈ names, ∀ entity, Lists name entity →
          ∃ commonest, Commonest names commonest ∧
            rule.nameFor stems = commonest ++ "ListResponse" := by
  refine ⟨distinctSorted names, (distinctSorted names).map stem, ?ordered, ?members, ?stems, ?set,
    ?first, ?shortest, ?listing⟩
  case ordered => exact (distinctSorted_pairwise names).imp Text.bytes_lt_bytes
  case members => exact fun name => mem_distinctSorted
  case stems =>
    rw [List.forall₂_map_right_iff, List.forall₂_same]
    exact fun name _ => stripped_iff.2 rfl
  case set =>
    intro others hothers
    rw [choose, choose, distinctSorted_congr hothers]
  case first =>
    rintro before rule after rfl hbefore hrule
    have hfound : (before ++ rule :: after).find?
        (fun rule => rule.acceptsAll ((distinctSorted names).map stem)) = some rule := by
      rw [List.find?_eq_some_iff_append]
      refine ⟨(acceptsAll_stems_iff h).2 hrule, before, after, rfl, fun earlier hearlier => ?_⟩
      rw [Bool.not_eq_true', ← Bool.not_eq_true, acceptsAll_stems_iff h]
      exact hbefore earlier hearlier
    rw [choose, hfound]
  case shortest =>
    intro hnone
    have hfound : table.find?
        (fun rule => rule.acceptsAll ((distinctSorted names).map stem)) = none := by
      rw [List.find?_eq_none]
      exact fun rule hrule haccepts => hnone rule hrule ((acceptsAll_stems_iff h).1 haccepts)
    rw [choose, hfound]
    refine ⟨mem_distinctSorted.1 (shortest_mem (distinctSorted_ne_nil h)), fun other hother hne => ?_⟩
    exact (shortest_shorter (distinctSorted_pairwise names)
      (mem_distinctSorted.2 hother)).resolve_left hne
  case listing =>
    intro rule hrule hlabel
    rw [eq_of_label_eq_listing hrule hlabel]
    exact ⟨acceptsEach_listing_iff, fun name hname entity hlists =>
      ⟨_, commonest_commonestEntity hname hlists, rfl⟩⟩

/-- Two names of one listing, and a name of another one that is ahead of them. -/
def hostListings : List String :=
  ["GetAllHostsResponse", "GetAllHostsResponseDto", "GetAllBootsResponseDto"]

/-- The stems of the first two names are the same, and yet both of them count. -/
theorem choose_first_or_shortest_hostListings :
    hostListings ≠ [] ∧ Commonest hostListings "Host" ∧
      choose conventions (hostListings.reverse ++ hostListings) = "HostListResponse" := by
  have hne : hostListings ≠ [] := by decide
  obtain ⟨_, stems, _, _, _, hset, hfirst, _, hlisting⟩ := choose_first_or_shortest conventions hne
  let listing : NamingRule := ⟨"listing", isListing, listingName⟩
  have hreject : ∀ earlier ∈ conventions.take 6, ¬AcceptsEach earlier hostListings := by
    decide +kernel
  have haccept : AcceptsEach listing hostListings := by decide +kernel
  have hlists : Lists "GetAllHostsResponse" "Host" := by decide +kernel
  obtain ⟨commonest, hcommonest, hname⟩ := (hlisting listing (by simp [conventions, listing]) rfl).2
    "GetAllHostsResponse" (by decide) "Host" hlists
  have hchosen := hfirst (conventions.take 6) listing (conventions.drop 7) rfl hreject haccept
  have hresult : choose conventions hostListings = "HostListResponse" := by decide +kernel
  have hhost : commonest = "Host" :=
    (String.append_left_inj "ListResponse").1 (hname.symm.trans (hchosen.symm.trans hresult))
  refine ⟨hne, hhost ▸ hcommonest, (hset _ fun name => ?_).trans hresult⟩
  rw [List.mem_append, List.mem_reverse, or_self]

end Naming

end SchemaMerge
