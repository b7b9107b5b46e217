import SchemaMerge.Proofs.AcceptedRuns
import SchemaMerge.Proofs.ExhaustiveExtraction

/-!
An extraction under a larger limit. The limit decides nothing but whether the extraction is refused:
a key that is found under one limit is found under every larger one, and so are the repeated shapes,
if the search for them is not refused (`Extraction.repeatedShapes?_of_le`). The search is refused
beyond twice the limit, and twice a number may be less than twice a smaller one when it is taken
modulo `2 ^ 64`. No round of an extraction makes a way down longer
(`Extraction.NoLonger.foldl_extractGroup`). So whether a larger limit breaks an extraction is seen
from the document that it starts from (`Document.extractInline?_of_le`).
-/

namespace SchemaMerge

/-- A key that is found under one limit is found under every larger one. -/
theorem Key.ofDefinition_of_le {low high : UInt64} (hle : low ≤ high) (tier : MergeTier)
    {name : String} {schema : Json} {key : Key}
    (h : ofDefinition low tier.toTier name schema = .ok key) :
    ofDefinition high tier.toTier name schema = .ok key := by
  rw [ofDefinition_toTier] at h ⊢
  cases halias : aliasTarget? schema with
  | some target => rwa [halias] at h
  | none =>
      rw [halias] at h
      dsimp only at h ⊢
      unfold ofShape at h ⊢
      cases hdeep : tooDeep? low (SchemaRef.ofName name) schema with
      | some position =>
          rw [hdeep] at h
          cases h
      | none =>
          have hshallow := tooDeep?_eq_none_iff.1 hdeep
          have hhigh : tooDeep? high (SchemaRef.ofName name) schema = none :=
            tooDeep?_eq_none_iff.2 fun depth hdepth =>
              Nat.le_trans (hshallow depth hdepth) (UInt64.le_iff_toNat_le.1 hle)
          rw [hdeep] at h
          rwa [hhigh]

namespace Extraction

variable {low high : UInt64} {pinned : List String} {definitions : NameMap Json}
  {occurrence : Occurrence} {groups : List (List Occurrence)} {bound : Nat}

section Ways

variable {role : Schema.Role} {d : Nat} {pre way : List String} {value node : Json}

/-- The node itself comes first, and then what is under the two keys that the search goes through. -/
theorem mem_nodes_object_iff {fields : List (String × Json)} :
    (way, node) ∈ nodes .schema pre (.object fields) ↔ way = pre ∧ node = .object fields ∨
      ∃ key ∈ ["properties", "items"], ∃ value, fields.lookup key = some value ∧
        (way, node) ∈ nodes (roleUnder key value) (pre ++ [key]) value := by
  have hunder : ∀ key, (way, node) ∈ ((nodesBelow pre fields).lookup key).getD [] ↔
      ∃ value, fields.lookup key = some value ∧
        (way, node) ∈ nodes (roleUnder key value) (pre ++ [key]) value := by
    intro key
    rw [lookup_nodesBelow]
    cases fields.lookup key <;> simp
  rw [nodes, List.mem_cons, List.mem_append, Prod.mk.injEq, hunder, hunder]
  simp

/-- From another start on, every way begins with that start. -/
theorem nodes_append (value : Json) (role : Schema.Role) (pre more : List String) :
    nodes role (pre ++ more) value =
      (nodes role more value).map fun node => (pre ++ node.1, node.2) := by
  induction value using Json.induction generalizing role more with
  | object fields ih =>
      cases role with
      | schema =>
          have hunder : ∀ key, ((nodesBelow (pre ++ more) fields).lookup key).getD [] =
              (((nodesBelow more fields).lookup key).getD []).map
                fun node => (pre ++ node.1, node.2) := by
            intro key
            rw [lookup_nodesBelow, lookup_nodesBelow]
            cases hfound : fields.lookup key with
            | none => rfl
            | some value =>
                rw [Option.map_some, Option.map_some, Option.getD_some, Option.getD_some,
                  List.append_assoc]
                exact ih _ (Fields.mem_of_lookup hfound) _ _
          rw [nodes, nodes, List.map_cons, List.map_append, hunder, hunder]
      | named =>
          rw [nodes, nodes, nodesNamed_eq, nodesNamed_eq, List.map_flatMap]
          refine List.flatMap_congr fun field hfield => ?_
          rw [List.append_assoc]
          exact ih field hfield _ _
      | _ => rfl
  | _ => cases role <;> rfl

/-- Where one member of a schema is changed, the ways that are new lead below it. -/
theorem mem_nodes_change {keyword : String} {change : Json → Json} {fields : List (String × Json)}
    (h : (way, node) ∈ nodes .schema pre (.object (Fields.mapValues
      (fun key value => if key = keyword then change value else value) fields))) :
    (∃ old, (way, old) ∈ nodes .schema pre (.object fields)) ∨
      ∃ value, fields.lookup keyword = some value ∧ keyword ∈ ["properties", "items"] ∧
        (way, node) ∈ nodes (roleUnder keyword (change value)) (pre ++ [keyword])
          (change value) := by
  rcases mem_nodes_object_iff.1 h with ⟨rfl, -⟩ | ⟨key, hkey, inner, hinner, hmem⟩
  · exact .inl ⟨_, mem_nodes_object_iff.2 (.inl ⟨rfl, rfl⟩)⟩
  · rw [Fields.lookup_mapValues, Option.map_eq_some_iff] at hinner
    obtain ⟨value, hvalue, rfl⟩ := hinner
    split at hmem
    case isTrue heq =>
      subst heq
      exact .inr ⟨value, hvalue, hkey, hmem⟩
    case isFalse =>
      exact .inl ⟨node, mem_nodes_object_iff.2 (.inr ⟨key, hkey, value, hvalue, hmem⟩)⟩

/-- Replacing what stands at the end of a way by an object adds the ways into the object. -/
theorem Way.mem_nodes_replaceAt {new : List (String × Json)} {other : List String}
    (h : Way role d way) (hmem : (other, node) ∈ nodes role pre (replaceAt (.object new) way value)) :
    (∃ old, (other, old) ∈ nodes role pre value) ∨
      (other, node) ∈ nodes .schema (pre ++ way) (.object new) := by
  induction h generalizing value pre with
  | here =>
      rw [replaceAt_nil] at hmem
      rw [List.append_nil]
      exact .inr hmem
  | @items d way h ih =>
      cases value with
      | object fields =>
          rw [replaceAt_cons_object] at hmem
          rw [← List.singleton_append, ← List.append_assoc]
          rcases mem_nodes_change hmem with hold | ⟨inner, hinner, hkey, hbelow⟩
          · exact .inl hold
          · cases way with
            | nil =>
                rw [replaceAt_nil] at hbelow
                rw [List.append_nil]
                exact .inr hbelow
            | cons segment way =>
                cases inner with
                | object inner =>
                    exact (ih hbelow).imp_left fun ⟨old, hold⟩ =>
                      ⟨old, mem_nodes_object_iff.2 (.inr ⟨"items", hkey, _, hinner, hold⟩)⟩
                | _ => cases hbelow
      | _ => exact .inl ⟨node, hmem⟩
  | @properties d way h ih =>
      cases value with
      | object fields =>
          rw [replaceAt_cons_object] at hmem
          rw [← List.singleton_append, ← List.append_assoc]
          rcases mem_nodes_change hmem with hold | ⟨inner, hinner, hkey, hbelow⟩
          · exact .inl hold
          · cases h with
            | name name h =>
                cases inner with
                | object inner =>
                    exact (ih hbelow).imp_left fun ⟨old, hold⟩ =>
                      ⟨old, mem_nodes_object_iff.2 (.inr ⟨"properties", hkey, _, hinner, hold⟩)⟩
                | _ => cases hbelow
      | _ => exact .inl ⟨node, hmem⟩
  | name key h ih =>
      cases value with
      | object fields =>
          rw [replaceAt_cons_object] at hmem
          rw [← List.singleton_append, ← List.append_assoc]
          obtain ⟨field, hfield, hbelow⟩ := mem_nodes_named.1 hmem
          obtain ⟨old, hold, rfl⟩ := List.mem_map.1 hfield
          dsimp only at hbelow
          split at hbelow
          case isTrue heq =>
            subst heq
            exact (ih hbelow).imp_left fun ⟨found, hfound⟩ =>
              ⟨found, mem_nodes_named.2 ⟨old, hold, hfound⟩⟩
          case isFalse => exact .inl ⟨node, mem_nodes_named.2 ⟨old, hold, hbelow⟩⟩
      | _ => exact .inl ⟨node, hmem⟩

end Ways

/-- No way of the search leads more segments down from a definition than this. -/
def NoLonger (bound : Nat) (definitions : NameMap Json) : Prop :=
  ∀ name body, definitions.get? name = some body →
    ∀ node ∈ nodes .schema [] body, node.1.length ≤ bound

/-- The occurrence stands at the end of a way of the search that is not longer than this. -/
def StandsWithin (bound : Nat) (occurrence : Occurrence) : Prop :=
  ∃ depth, Way .schema depth occurrence.segments ∧ occurrence.segments.length ≤ bound

theorem mem_nodes_refTo {pre way : List String} {node : Json} {reference : String}
    (h : (way, node) ∈ nodes .schema pre (.refTo reference)) : way = pre := by
  rcases mem_nodes_object_iff.1 h with ⟨rfl, -⟩ | ⟨key, hkey, value, hvalue, -⟩
  · rfl
  · have hother : ∀ key ∈ ["properties", "items"], key ≠ "$ref" := by decide
    rw [Fields.lookup_cons, if_neg (hother key hkey)] at hvalue
    cases hvalue

namespace NoLonger

theorem standsWithin (h : NoLonger bound definitions)
    (hmem : occurrence ∈ inlineObjects definitions) : StandsWithin bound occurrence := by
  unfold inlineObjects at hmem
  obtain ⟨⟨name, body⟩, hentry, hmem⟩ := List.mem_flatMap.1 hmem
  obtain ⟨node, hnode, rfl⟩ := List.mem_map.1 hmem
  have hnode := (List.mem_filter.1 hnode).1
  obtain ⟨depth, below, heq, hway, _⟩ := exists_way_of_mem_nodes 0 hnode
  rw [List.nil_append] at heq
  exact ⟨depth, heq ▸ hway, h name body (NameMap.get?_eq_some_iff.2 hentry) node hnode⟩

theorem replace (h : NoLonger bound definitions) (hoccurrence : StandsWithin bound occurrence)
    (reference : String) :
    NoLonger bound (Extraction.replace (.refTo reference) definitions occurrence) := by
  intro name body hbody
  rw [Occurrence.get?_replace] at hbody
  obtain ⟨old, hold, rfl⟩ := Option.map_eq_some_iff.1 hbody
  split
  case isFalse => exact h name old hold
  case isTrue =>
    obtain ⟨depth, hway, hlength⟩ := hoccurrence
    rintro ⟨way, node⟩ hmem
    rcases hway.mem_nodes_replaceAt hmem with ⟨found, hfound⟩ | hnew
    · exact h name old hold (way, found) hfound
    · rw [mem_nodes_refTo hnew]
      exact hlength

theorem foldl_replace {group : List Occurrence} (h : NoLonger bound definitions)
    (hgroup : ∀ occurrence ∈ group, StandsWithin bound occurrence) (reference : String) :
    NoLonger bound (group.foldl (Extraction.replace (.refTo reference)) definitions) := by
  induction group generalizing definitions with
  | nil => exact h
  | cons first rest ih =>
      rw [List.forall_mem_cons] at hgroup
      exact ih (h.replace hgroup.1 reference) hgroup.2

/-- From an occurrence on, no way leads further down than from its definition. -/
theorem value? (h : NoLonger bound definitions) (hoccurrence : StandsWithin bound occurrence)
    {body : Json} (hbody : occurrence.value? definitions = some body) :
    ∀ node ∈ nodes .schema [] body, node.1.length ≤ bound := by
  obtain ⟨whole, hwhole, hfollow⟩ := Option.bind_eq_some_iff.1 hbody
  obtain ⟨depth, hway, _⟩ := hoccurrence
  rintro ⟨way, node⟩ hmem
  cases body with
  | object fields =>
      have hfurther : (occurrence.segments ++ way, node) ∈
          nodes .schema ([] ++ occurrence.segments) (.object fields) := by
        have hshift := nodes_append (.object fields) .schema occurrence.segments []
        rw [List.append_nil] at hshift
        rw [List.nil_append, hshift]
        exact List.mem_map.2 ⟨(way, node), hmem, rfl⟩
      have hlength := h _ whole hwhole _ (hway.mem_nodes_below hfollow hfurther)
      rw [List.length_append] at hlength
      exact Nat.le_trans (Nat.le_add_left ..) hlength
  | _ =>
      obtain ⟨_, rfl, _⟩ := mem_nodes_other (by simp) hmem
      exact Nat.zero_le _

/-- Taking out a group makes no way longer. -/
theorem extractGroup {state : State} {group : List Occurrence}
    (h : NoLonger bound state.definitions)
    (hgroup : ∀ occurrence ∈ group, StandsWithin bound occurrence) :
    NoLonger bound (Extraction.extractGroup state group).definitions := by
  rcases extractGroup_cases state group with hsame | ⟨name, body, htakes⟩
  · rwa [hsame]
  · obtain ⟨first, hfirst, hbody, _⟩ := htakes.named
    rw [htakes.definitions]
    intro other found hfound
    rw [NameMap.get?_insert] at hfound
    split at hfound
    case isTrue =>
      cases hfound
      exact h.value? (hgroup first (List.mem_of_mem_head? hfirst)) hbody
    case isFalse => exact h.foldl_replace hgroup _ other found hfound

theorem foldl_extractGroup {state : State} (h : NoLonger bound state.definitions)
    (hgroups : ∀ group ∈ groups, ∀ occurrence ∈ group, StandsWithin bound occurrence) :
    NoLonger bound (groups.foldl Extraction.extractGroup state).definitions := by
  induction groups generalizing state with
  | nil => exact h
  | cons group rest ih =>
      rw [List.forall_mem_cons] at hgroups
      exact ih (h.extractGroup hgroups.1) hgroups.2

end NoLonger

/-- The search comes to an end iff no way of it is longer than twice the limit. -/
theorem allInlineObjects?_eq_ok_iff {limit : UInt64} {found : List Occurrence} :
    allInlineObjects? limit definitions = .ok found ↔
      NoLonger (limit * 2).toNat definitions ∧ found = inlineObjects definitions := by
  constructor
  · intro h
    refine ⟨fun name body hbody node hnode => ?_, allInlineObjects?_eq_ok h⟩
    obtain ⟨lists, hlists, _⟩ := bind_eq_ok.1 h
    obtain ⟨list, hlist⟩ := exists_mapM_eq_ok.1 ⟨lists, hlists⟩ (name, body)
      (NameMap.get?_eq_some_iff.1 hbody)
    exact inlineObjects?_isOk_iff.1 ⟨list, hlist⟩ node hnode
  · rintro ⟨h, rfl⟩
    have hall : ∀ entry ∈ definitions.entries,
        ∃ found, inlineObjects? limit entry.1 entry.2 = .ok found := fun entry hentry =>
      inlineObjects?_isOk_iff.2 (h entry.1 entry.2 (NameMap.get?_eq_some_iff.2 hentry))
    obtain ⟨lists, hlists⟩ := exists_mapM_eq_ok.2 hall
    have hok : allInlineObjects? limit definitions = .ok lists.flatten :=
      bind_eq_ok.2 ⟨lists, hlists, rfl⟩
    rw [hok, allInlineObjects?_eq_ok hok]

/-- A search that does not come to an end is refused at some node. -/
theorem allInlineObjects?_eq_error {limit : UInt64} {error : Error}
    (h : allInlineObjects? limit definitions = .error error) :
    ∃ path, error = .tooDeep path limit := by
  rw [allInlineObjects?, bind_pure_comp] at h
  obtain ⟨entry, _, hentry⟩ := exists_of_mapM_eq_error (eq_error_of_map h)
  rw [inlineObjects?] at hentry
  split at hentry
  case h_1 => exact ⟨_, (Except.error.inj hentry).symm⟩
  case h_2 => cases hentry

theorem mem_inlineObjects_of_repeatedShapes? {limit : UInt64}
    (h : repeatedShapes? limit pinned definitions = .ok groups) {group : List Occurrence}
    (hgroup : group ∈ groups) (hmem : occurrence ∈ group) :
    occurrence ∈ inlineObjects definitions := by
  obtain ⟨found, hfound, h⟩ := bind_eq_ok.1 h
  obtain ⟨keyed, hkeyed, h⟩ := bind_eq_ok.1 h
  rw [pure_eq_ok] at h
  subst h
  obtain ⟨⟨key, hkey⟩, _⟩ := mem_several_iff.1 hgroup
  obtain ⟨pair, hpair, rfl⟩ := List.mem_filterMap.1 ((mem_gathered_iff hkey).1 hmem)
  obtain ⟨origin, horigin, hof⟩ := exists_left_of_forall₂ (mapM_eq_ok.1 hkeyed) hpair
  obtain ⟨rfl, _⟩ := keyOf?_eq_ok hof
  rw [← allInlineObjects?_eq_ok hfound]
  exact (List.mem_filter.1 horigin).1

section Larger

variable (hle : low ≤ high)

include hle

theorem keyOf?_of_le {keyed : Option (Key × Occurrence)}
    (h : keyOf? low definitions occurrence = .ok keyed) :
    keyOf? high definitions occurrence = .ok keyed := by
  rw [keyOf?] at h ⊢
  split at h
  case h_1 => exact h
  case h_2 schema _ =>
    cases hkey : Key.ofDefinition low .structural "" schema with
    | error error =>
        rw [hkey] at h
        cases h
    | ok key =>
        have hhigh : Key.ofDefinition high .structural "" schema = .ok key :=
          Key.ofDefinition_of_le hle .structural hkey
        rw [hkey] at h
        rw [hhigh]
        exact h

/-- Shapes that are found to be repeated under one limit are so under every larger one, if the search
under that one comes to an end. -/
theorem repeatedShapes?_of_le (hbound : NoLonger (high * 2).toNat definitions)
    (h : repeatedShapes? low pinned definitions = .ok groups) :
    repeatedShapes? high pinned definitions = .ok groups := by
  obtain ⟨found, hfound, h⟩ := bind_eq_ok.1 h
  obtain ⟨keyed, hkeyed, h⟩ := bind_eq_ok.1 h
  have hhigh : allInlineObjects? high definitions = .ok found :=
    allInlineObjects?_eq_ok_iff.2 ⟨hbound, allInlineObjects?_eq_ok hfound⟩
  have hkeys := mapM_eq_ok.2 ((mapM_eq_ok.1 hkeyed).imp fun _ _ => keyOf?_of_le hle)
  exact bind_eq_ok.2 ⟨found, hhigh, bind_eq_ok.2 ⟨keyed, hkeys, h⟩⟩

/-- Round by round the extraction goes on as under the smaller limit. -/
theorem rounds?_of_le {state final : State} {fuel : Nat}
    (hbound : NoLonger (high * 2).toNat state.definitions)
    (h : rounds? low pinned state fuel = .ok final) :
    rounds? high pinned state fuel = .ok final := by
  induction fuel generalizing state with
  | zero => exact h
  | succ fuel ih =>
      obtain ⟨groups, hgroups, h⟩ := bind_eq_ok.1 h
      have hnext : NoLonger (high * 2).toNat
          ((innermost groups).foldl extractGroup state).definitions :=
        hbound.foldl_extractGroup fun group hgroup occurrence hmem => hbound.standsWithin
          (mem_inlineObjects_of_repeatedShapes? hgroups (mem_innermost.1 hgroup).1 hmem)
      refine bind_eq_ok.2 ⟨groups, repeatedShapes?_of_le hle hbound hgroups, ?_⟩
      dsimp only at h ⊢
      split at h
      case isTrue hsame => rwa [if_pos hsame]
      case isFalse hmore =>
        rw [if_neg hmore]
        exact ih hnext h

/-- Twice the larger limit is at least twice the smaller one, unless it alone is too large to be
doubled. -/
theorem twice_le_twice (hside : high.toNat < 2 ^ 63 ∨ 2 ^ 63 ≤ low.toNat) :
    (low * 2).toNat ≤ (high * 2).toNat := by
  have hlimits := UInt64.le_iff_toNat_le.1 hle
  have htwo : (2 : UInt64).toNat = 2 := rfl
  have hhigh := high.toNat_lt
  rw [UInt64.toNat_mul, UInt64.toNat_mul, htwo]
  omega

end Larger

end Extraction

namespace Document

open Extraction

variable {document : Document} {low high : UInt64} {result : Document × List ExtractedShape}

/-- An extraction that goes well under one limit goes as well under a larger one exactly when no way
down from a definition is longer than twice the larger limit, which is meant modulo `2 ^ 64`. So it
does if both limits are below `2 ^ 63` or neither is. It is refused else. -/
theorem extractInline?_of_le (hle : low ≤ high) (hlow : document.extractInline? low = .ok result) :
    (high.toNat < 2 ^ 63 ∨ 2 ^ 63 ≤ low.toNat → document.extractInline? high = .ok result) ∧
    (document.extractInline? high = .ok result ↔
      ∀ name body, document.definitions.get? name = some body →
        ∀ node ∈ nodes .schema [] body, node.1.length ≤ (high * 2).toNat) ∧
    (document.extractInline? high ≠ .ok result →
      ∃ path, document.extractInline? high = .error (.tooDeep path high)) := by
  have hsearched : ∀ {limit result}, document.extractInline? limit = .ok result →
      NoLonger (limit * 2).toNat document.definitions := by
    intro limit result hrun
    obtain ⟨found, hfound, _⟩ := bind_eq_ok.1 hrun
    exact (allInlineObjects?_eq_ok_iff.1 hfound).1
  have hiff : document.extractInline? high = .ok result ↔
      NoLonger (high * 2).toNat document.definitions := by
    refine ⟨hsearched, fun hbound => ?_⟩
    rw [extractInline?_eq_map] at hlow ⊢
    cases hrounds : rounds? low (deepReferences document) ⟨document.definitions, []⟩
        ((inlineObjects document.definitions).length + 1) with
    | error error =>
        rw [hrounds] at hlow
        cases hlow
    | ok final =>
        rw [hrounds] at hlow
        rwa [rounds?_of_le hle hbound hrounds]
  refine ⟨fun hside => hiff.2 fun name body hbody node hnode => ?_, hiff, fun hne => ?_⟩
  · exact Nat.le_trans (hsearched hlow name body hbody node hnode) (twice_le_twice hle hside)
  · cases hfound : allInlineObjects? high document.definitions with
    | ok found => exact absurd (hiff.2 (allInlineObjects?_eq_ok_iff.1 hfound).1) hne
    | error error =>
        obtain ⟨path, rfl⟩ := allInlineObjects?_eq_error hfound
        refine ⟨path, ?_⟩
        rw [extractInline?, hfound]
        rfl

/-- Two definitions with a yard of one shape. The longest ways down lead to the sizes of the yards. -/
def farmAndMill : Document :=
  let yard : Json := .record [
    ("properties", .record [("size", .record [("type", .string "integer")])]),
    ("type", .string "object")]
  ofSchemas [("Farm", .record [("properties", .record [("yard", yard)])]),
    ("Mill", .record [("properties", .record [("yard", yard)])])]

theorem exists_extractInline?_farmAndMill : ∃ result, farmAndMill.extractInline? 2 = .ok result ∧
    result.2 = [⟨"Yard", ["#/components/schemas/Farm/properties/yard",
      "#/components/schemas/Mill/properties/yard"]⟩] :=
  exists_ok_of_toOption (by decide +kernel)

/-- Four segments are twice the limit of two levels, and twice `2 ^ 63 + 2` as well. -/
theorem extractInline?_of_le_farmAndMill : ∃ result,
    (2 : UInt64) ≤ 9223372036854775810 ∧ farmAndMill.extractInline? 2 = .ok result ∧
    (∀ name body, farmAndMill.definitions.get? name = some body →
      ∀ node ∈ nodes .schema [] body, node.1.length ≤ ((9223372036854775810 : UInt64) * 2).toNat) ∧
    farmAndMill.extractInline? 9223372036854775810 = .ok result := by
  obtain ⟨result, hrun, _⟩ := exists_extractInline?_farmAndMill
  have hbound : ∀ entry ∈ farmAndMill.definitions.entries, ∀ node ∈ nodes .schema [] entry.2,
      node.1.length ≤ ((9223372036854775810 : UInt64) * 2).toNat := by
    decide +kernel
  have hways : ∀ name body, farmAndMill.definitions.get? name = some body →
      ∀ node ∈ nodes .schema [] body,
        node.1.length ≤ ((9223372036854775810 : UInt64) * 2).toNat :=
    fun name body hbody => hbound (name, body) (NameMap.get?_eq_some_iff.1 hbody)
  exact ⟨result, by decide, hrun, hways, (extractInline?_of_le (by decide) hrun).2.1.2 hways⟩

/-- Twice `2 ^ 63` is nothing, and no way is that short. -/
theorem extractInline?_refused_farmAndMill : ∃ result,
    (2 : UInt64) ≤ 9223372036854775808 ∧ farmAndMill.extractInline? 2 = .ok result ∧
    farmAndMill.extractInline? 9223372036854775808 =
      .error (.tooDeep "#/components/schemas/Farm/properties/yard" 9223372036854775808) := by
  obtain ⟨result, hrun, _⟩ := exists_extractInline?_farmAndMill
  exact ⟨result, by decide, hrun, rfl⟩

end Document

end SchemaMerge
