import SchemaMerge.Proofs.PointerSteps

/-!
The spellings of a reference into a definition. Several texts can stand for one name, since a tilde
that no digit follows is read as itself but is not written so. A text is taken apart into a name and
the part below it exactly when it spells the two (`SchemaRef.split?_eq_some_iff`). In every value it
points at what the name and the part below it say, so one spelling can take the place of another one
(`SchemaRef.spellings_agree`).
-/

namespace SchemaMerge.SchemaRef

/-- What may stand below the name of a definition: nothing, or something behind a slash. -/
def IsTail (tail : String) : Prop :=
  tail = "" ∨ Text.startsWith "/" tail

theorem isTail_iff {tail : String} : IsTail tail ↔ ∀ c ∈ tail.toList.head?, c = '/' := by
  rw [IsTail, Text.startsWith_iff]
  constructor
  · rintro (rfl | ⟨rest, rfl⟩)
    · simp
    · intro c hc
      rw [String.toList_append] at hc
      exact (Option.some.inj hc).symm
  · intro h
    cases hchars : tail.toList with
    | nil => exact .inl (String.toList_inj.1 hchars)
    | cons c rest =>
        obtain rfl : c = '/' := h c (by rw [hchars]; rfl)
        exact .inr ⟨String.ofList rest, String.toList_inj.1 (by simp [hchars])⟩

/-- Behind the start of all references the text has a written name without a slash, and then `tail`.
The name is what is written with `/` for every `~1`, and then `~` for every `~0`. -/
def Spells (text name tail : String) : Prop :=
  IsTail tail ∧ ∃ written : List Char, written ≠ [] ∧ '/' ∉ written ∧
    text.toList = start.toList ++ written ++ tail.toList ∧
    name.toList = Text.replacePair '~' '0' '~' (Text.replacePair '~' '1' '/' written)

/-- A text is taken apart into what it spells. -/
theorem split?_eq_some_iff {text name tail : String} :
    split? text = some (name, tail) ↔ Spells text name tail := by
  constructor
  · intro h
    obtain ⟨written, hslash, rfl, htext, htail⟩ := exists_head_of_split? h
    refine ⟨isTail_iff.2 htail, written, ?_, hslash, ?_, ?_⟩
    · rintro rfl
      have hbare : text = start ++ tail := by
        apply String.toList_inj.1
        rw [htext, String.toList_append, List.nil_append]
      have hnone : split? text = none := by
        rw [hbare, split?_start_append_eq_none_iff]
        exact fun ⟨c, hc, hne⟩ => hne (htail c hc)
      rw [hnone] at h
      cases h
    · rw [htext, List.append_assoc]
    · rw [String.toList_ofList, Pointer.unescapeChars_eq_replacePair]
  · rintro ⟨htail, written, hne, hslash, htext, hname⟩
    have hchars : text = start ++ String.ofList (written ++ tail.toList) := by
      apply String.toList_inj.1
      rw [htext, String.toList_append, String.toList_ofList, List.append_assoc]
    have hread : name = String.ofList (Pointer.unescapeChars written) := by
      apply String.toList_inj.1
      rw [hname, String.toList_ofList, Pointer.unescapeChars_eq_replacePair]
    rw [hchars, hread, split?_written hne hslash (isTail_iff.1 htail), String.ofList_toList]

/-- The reference that is written for a name is read as that name, unless there is none. -/
theorem split?_ofName_append_iff {name tail : String} :
    split? (ofName name ++ tail) = some (name, tail) ↔ name ≠ "" ∧ IsTail tail := by
  constructor
  · intro h
    obtain ⟨htail, written, hne, -, htext, -⟩ := split?_eq_some_iff.1 h
    refine ⟨?_, htail⟩
    rintro rfl
    have hstart : ofName "" = start := by decide +kernel
    rw [hstart, String.toList_append] at htext
    exact hne (List.self_eq_append_right.1 (List.append_cancel_right htext))
  · rintro ⟨hname, htail⟩
    have hsplit := split?_append hname (isTail_iff.1 htail)
    rwa [String.ofList_toList] at hsplit

variable {text name tail : String}

/-- Two spellings of the same point at the same. -/
theorem resolve?_eq_of_split?_eq {other : String} (h : split? text = some (name, tail))
    (hother : split? other = some (name, tail)) (root : Json) :
    Pointer.resolve? root other = Pointer.resolve? root text := by
  rw [resolve?_eq_foldlM h, resolve?_eq_foldlM hother]

/-- A written name is not read as nothing. -/
theorem ne_empty_of_split? (h : split? text = some (name, tail)) : name ≠ "" := by
  obtain ⟨-, written, hne, -, -, hname⟩ := split?_eq_some_iff.1 h
  rintro rfl
  have hread := Pointer.unescapeChars_ne_nil hne
  rw [Pointer.unescapeChars_eq_replacePair, ← hname] at hread
  exact hread rfl

/-- A text that is taken apart is a spelling of the reference that is written for the name. -/
theorem split?_ofName_of_split? (h : split? text = some (name, tail)) :
    split? (ofName name ++ tail) = some (name, tail) :=
  split?_ofName_append_iff.2 ⟨ne_empty_of_split? h, (split?_eq_some_iff.1 h).1⟩

/-- A rename to the same name at most changes the spelling. -/
theorem split?_reference_of_target_eq {map : RenameMap} (h : split? text = some (name, tail))
    (hmap : map.target name = name) : split? (map.reference text) = some (name, tail) := by
  rw [RenameMap.reference_of_split h]
  rw [RenameMap.target] at hmap
  cases hget : map.get? name with
  | none => exact h
  | some canonical =>
      rw [hget, Option.getD_some] at hmap
      subst hmap
      exact split?_ofName_of_split? h

/-- The reference written for a name and a part below it is taken apart into the two, and every text
that is taken apart into them points at the same in every value. So a reference that is written anew
under its own name does not change its meaning. -/
theorem spellings_agree (name tail : String) :
    (split? (ofName name ++ tail) = some (name, tail) ↔ name ≠ "" ∧ IsTail tail) ∧
      ∀ text, (split? text = some (name, tail) ↔ Spells text name tail) ∧
        (split? text = some (name, tail) → ∀ root,
          Pointer.resolve? root text = ("components" :: "schemas" :: name ::
            Pointer.segments tail).foldlM Pointer.step? root ∧
          Pointer.resolve? root (ofName name ++ tail) = Pointer.resolve? root text ∧
          ∀ map : RenameMap, map.target name = name →
            Pointer.resolve? root (map.reference text) = Pointer.resolve? root text) := by
  refine ⟨split?_ofName_append_iff, fun text => ⟨split?_eq_some_iff, fun h root => ?_⟩⟩
  refine ⟨resolve?_eq_foldlM h root, ?_, fun map hmap => ?_⟩
  · exact resolve?_eq_of_split?_eq h (split?_ofName_of_split? h) root
  · exact resolve?_eq_of_split?_eq h (split?_reference_of_target_eq h hmap) root

/-- A list below a definition whose name has a tilde and a slash in it. -/
def shelf : Json :=
  .record [("components", .record [("schemas", .record [("Per~son/a",
    .record [("allOf", .array [.record [("", .string "here")]])])])])]

/-- The map that keeps the name. -/
def keeping : RenameMap :=
  ⟨.ofList [("Per~son/a", "Per~son/a")], .empty⟩

/-- The tilde in the name stands for itself, the index has a sign, and below it there is an empty
segment. -/
theorem spellings_agree_lone_tilde :
    split? (ofName "Per~son/a" ++ "/allOf/+0/") = some ("Per~son/a", "/allOf/+0/") ∧
    split? "#/components/schemas/Per~son~1a/allOf/+0/" = some ("Per~son/a", "/allOf/+0/") ∧
    keeping.target "Per~son/a" = "Per~son/a" ∧
    keeping.reference "#/components/schemas/Per~son~1a/allOf/+0/" =
      "#/components/schemas/Per~0son~1a/allOf/+0/" ∧
    Pointer.resolve? shelf "#/components/schemas/Per~son~1a/allOf/+0/" = some (.string "here") ∧
    Pointer.resolve? shelf "#/components/schemas/Per~0son~1a/allOf/+0/" =
      some (.string "here") := by
  have hagree := spellings_agree "Per~son/a" "/allOf/+0/"
  have hsplit : split? "#/components/schemas/Per~son~1a/allOf/+0/" =
      some ("Per~son/a", "/allOf/+0/") := by decide +kernel
  have htarget : keeping.target "Per~son/a" = "Per~son/a" := by decide +kernel
  have hnew : keeping.reference "#/components/schemas/Per~son~1a/allOf/+0/" =
      "#/components/schemas/Per~0son~1a/allOf/+0/" := by decide +kernel
  have hold : Pointer.resolve? shelf "#/components/schemas/Per~son~1a/allOf/+0/" =
      some (.string "here") := rfl
  have hsame := ((hagree.2 _).2 hsplit shelf).2.2 keeping htarget
  rw [hnew] at hsame
  exact ⟨hagree.1.2 ⟨by decide, .inr (by decide)⟩, hsplit, htarget, hnew, hold, hsame.trans hold⟩

end SchemaMerge.SchemaRef
