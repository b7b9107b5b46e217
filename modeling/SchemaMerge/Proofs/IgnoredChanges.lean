import SchemaMerge.Proofs.MarkedReferences

/-!
Changes that a tier ignores leave the key alone. Shapes that are alike are nested at the same depths
(`Schema.Alike.mem_depths_iff`), by induction on the changes that lead from one to the other: keywords
that are ignored hold no schemas, and an order that is ignored matters to no depth. So two alike
definitions of one name have one key, or both are nested too deeply (`Key.ofDefinition_of_alike`).
-/

namespace SchemaMerge

namespace Schema

variable {tier : MergeTier} {role : Role} {depth d : Nat}

theorem depths_unified (value : Json) (role : Role) (depth : Nat) :
    depths role depth value.unified = depths role depth value := by
  induction value using Json.induction generalizing role depth with
  | array items ih =>
      rw [Json.unified_array]
      cases role with
      | listed =>
          rw [depths, depths, depthsListed_eq, depthsListed_eq, List.flatMap_map]
          exact List.flatMap_congr fun item hitem => ih item hitem .schema depth
      | _ => rfl
  | object fields ih =>
      rw [Json.unified_object]
      cases role with
      | schema =>
          rw [depths, depths, depthsFields_eq, depthsFields_eq, Fields.mapValues_mapValues]
          refine congrArg (fun found => depth :: inVisitOrder found) (Fields.mapValues_congr ?_)
          intro field hfield
          rw [roleUnder_unified]
          exact ih field hfield _ _
      | named =>
          rw [depths, depths, depthsNamed_eq, depthsNamed_eq, Fields.mapValues, List.flatMap_map]
          exact List.flatMap_congr fun field hfield => ih field hfield .schema depth
      | _ => rfl
  | number n => cases role <;> rfl
  | _ => rfl

/-- What stands under one keyword may be exchanged for something that is nested at the same
depths. -/
theorem mem_depths_exchange {before after : List (String × Json)} {keyword : String} {u v : Json}
    (h : d ∈ depths (roleUnder keyword u) (depth + 1) u ↔
      d ∈ depths (roleUnder keyword v) (depth + 1) v) :
    d ∈ depths .schema depth (.object (before ++ (keyword, u) :: after)) ↔
      d ∈ depths .schema depth (.object (before ++ (keyword, v) :: after)) := by
  rw [mem_depths_node, mem_depths_node]
  refine or_congr_right (exists_congr fun other => and_congr_right fun _ => ?_)
  rw [List.lookup_append, List.lookup_append, Fields.lookup_cons, Fields.lookup_cons]
  cases before.lookup other with
  | some value => rfl
  | none =>
      rw [Option.none_or, Option.none_or]
      split
      case isTrue hkeyword =>
        subst hkeyword
        simpa using h
      case isFalse => rfl

theorem keeps_of_mem_visitOrder (tier : MergeTier) {keyword : String}
    (h : keyword ∈ visitOrder) : Key.keeps tier keyword := by
  have hall : ∀ keyword ∈ visitOrder, Key.keeps tier keyword := by cases tier <;> decide
  exact hall keyword h

/-- What a tier does not tell apart is nested at the same depths. -/
theorem Alike.mem_depths_iff {u v : Json} (h : Alike tier role u v) (depth : Nat) :
    d ∈ depths role depth u ↔ d ∈ depths role depth v := by
  induction h generalizing depth with
  | same h => rw [← depths_unified, h, depths_unified]
  | symm _ ih => exact (ih depth).symm
  | trans _ _ ihuv ihvw => exact (ihuv depth).trans (ihvw depth)
  | @ignored fields fields' h =>
      rw [mem_depths_node, mem_depths_node]
      refine or_congr_right (exists_congr fun keyword => and_congr_right fun hkeyword => ?_)
      have hkeep := keeps_of_mem_visitOrder tier hkeyword
      rw [← Fields.lookup_filter _ hkeep, h, Fields.lookup_filter _ hkeep]
  | @reordered before after keyword items items' _ hitems =>
      refine mem_depths_exchange ?_
      have hrole : roleUnder keyword (.array items) = roleUnder keyword (.array items') := rfl
      rw [hrole]
      cases roleUnder keyword (.array items') with
      | listed =>
          rw [mem_depths_listed, mem_depths_listed]
          exact exists_congr fun item => and_congr_left' hitems.mem_iff
      | _ => rfl
  | under hu hv _ ih =>
      refine mem_depths_exchange ?_
      rw [hu, hv]
      exact ih (depth + 1)
  | named _ ih => simp [depths, depthsNamed_eq, ih depth]
  | listed _ ih => simp [depths, depthsListed_eq, ih depth]

end Schema

namespace Key

open Schema (Alike)

variable {tier : MergeTier} {u v : Json}

/-- Whether a definition is nested too deeply is not changed by what a tier ignores. -/
theorem tooDeep?_eq_none_of_alike (h : Alike tier .schema u v) (limit : UInt64) (path : String) :
    tooDeep? limit path u = none ↔ tooDeep? limit path v = none := by
  rw [tooDeep?_eq_none_iff, tooDeep?_eq_none_iff]
  exact forall_congr' fun depth => imp_congr_left (h.mem_depths_iff 0)

/-- Alike definitions of one name have one normal form. -/
theorem compact_normalForm_of_alike (h : Alike tier .schema u v) (name : String) :
    (normalForm tier name u).compact = (normalForm tier name v).compact := by
  rw [Json.compact_eq_iff, Schema.normalForm_eq_normalized, Schema.normalForm_eq_normalized]
  exact Schema.alike_iff.1 (h.marked selfMark (SchemaRef.ofName name))

/-- Two definitions that are no aliases have one key at a tier under every name, or are both nested
too deeply, if one becomes the other by changes that the tier ignores: of annotations above the exact
tier and of constraints at the loose tier, of the order of required names, and of the order of
branches at any depth. -/
theorem ofDefinition_of_alike (h : Alike tier .schema u v) (hu : aliasTarget? u = none)
    (hv : aliasTarget? v = none) (limit : UInt64) (name : String) :
    (∃ text, ofDefinition limit tier.toTier name u = .ok (.content text) ∧
      ofDefinition limit tier.toTier name v = .ok (.content text)) ∨
    ∃ path path', ofDefinition limit tier.toTier name u = .error (.tooDeep path limit) ∧
      ofDefinition limit tier.toTier name v = .error (.tooDeep path' limit) := by
  have hdeep := tooDeep?_eq_none_of_alike h limit (SchemaRef.ofName name)
  rw [ofDefinition_toTier, ofDefinition_toTier, hu, hv]
  dsimp only
  rw [ofShape, ofShape, compact_normalForm_of_alike h name]
  cases hfound : tooDeep? limit (SchemaRef.ofName name) u with
  | none =>
      rw [hdeep.1 hfound]
      exact .inl ⟨_, rfl, rfl⟩
  | some position =>
      cases hother : tooDeep? limit (SchemaRef.ofName name) v with
      | none =>
          rw [hdeep.2 hother] at hfound
          cases hfound
      | some position' => exact .inr ⟨_, _, rfl, rfl⟩

/-- A schema with a note and with branches. -/
def branching (note : String) (branches : List Json) : Json :=
  .record [("allOf", .array branches), ("description", .string note)]

/-- The branches change places, one of them has another constraint, and the note is another one. -/
theorem ofDefinition_of_alike_branching :
    let short : Json := .record [("maxLength", .ofNat 5), ("type", .string "string")]
    let dated : Json := .record [("format", .string "date"), ("type", .string "string")]
    let count : Json := .record [("type", .string "integer")]
    let u := branching "one" [short, count]
    let v := branching "two" [count, dated]
    Alike .structuralLoose .schema u v ∧ aliasTarget? u = none ∧ aliasTarget? v = none ∧
      ((∃ text, ofDefinition 1 (MergeTier.toTier .structuralLoose) "A" u = .ok (.content text) ∧
        ofDefinition 1 (MergeTier.toTier .structuralLoose) "A" v = .ok (.content text)) ∨
      ∃ path path', ofDefinition 1 (MergeTier.toTier .structuralLoose) "A" u =
          .error (.tooDeep path 1) ∧
        ofDefinition 1 (MergeTier.toTier .structuralLoose) "A" v = .error (.tooDeep path' 1)) := by
  intro short dated count u v
  have hconstraint : Alike .structuralLoose .schema short dated := .ignored rfl
  have hswapped : Alike .structuralLoose .schema u (branching "one" [count, short]) :=
    @Alike.reordered _ [] _ "allOf" _ _ (by decide) (.swap count short [])
  have hbranch : Alike .structuralLoose .schema (branching "one" [count, short])
      (branching "one" [count, dated]) :=
    @Alike.under _ [] _ "allOf" .listed _ _ rfl rfl (@Alike.listed _ [count] _ _ _ hconstraint)
  have hnoted : Alike .structuralLoose .schema (branching "one" [count, dated]) v :=
    .ignored rfl
  have halike := hswapped.trans (hbranch.trans hnoted)
  have hu : aliasTarget? u = none := by decide
  have hv : aliasTarget? v = none := by decide
  exact ⟨halike, hu, hv, ofDefinition_of_alike halike hu hv 1 "A"⟩

end Key

end SchemaMerge
