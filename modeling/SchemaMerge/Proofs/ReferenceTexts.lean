import Mathlib.Data.List.TakeWhile
import SchemaMerge.Repoint

/-!
The texts of references. A reference is the start that all of them share, the written name of a
definition, and the part below it; the written name has no slash in it. Repointing puts another name
in the place of the one that is there.
-/

namespace SchemaMerge

namespace SchemaRef

theorem slash_not_mem_escape (chars : List Char) :
    ∀ c ∈ chars.flatMap Pointer.escapeChar, (c != '/') = true := by
  intro c hc
  obtain ⟨d, _, hd⟩ := List.mem_flatMap.1 hc
  unfold Pointer.escapeChar at hd
  split at hd
  · rcases List.mem_cons.1 hd with rfl | hd
    · rfl
    · cases List.mem_singleton.1 hd
      rfl
  · split at hd
    case isTrue =>
      rcases List.mem_cons.1 hd with rfl | hd
      · rfl
      · cases List.mem_singleton.1 hd
        rfl
    case isFalse hslash =>
      cases List.mem_singleton.1 hd
      simpa using hslash

theorem flatMap_escape_ne_nil {chars : List Char} (h : chars ≠ []) :
    chars.flatMap Pointer.escapeChar ≠ [] := by
  cases chars with
  | nil => exact absurd rfl h
  | cons c chars =>
      rw [List.flatMap_cons, Pointer.escapeChar]
      split
      · exact List.cons_ne_nil _ _
      · split <;> exact List.cons_ne_nil _ _

theorem length_le_flatMap_escape (chars : List Char) :
    chars.length ≤ (chars.flatMap Pointer.escapeChar).length := by
  induction chars with
  | nil => exact Nat.le_refl 0
  | cons c chars ih =>
      have hc : 1 ≤ (Pointer.escapeChar c).length :=
        List.length_pos_iff.2 (by simpa using flatMap_escape_ne_nil (List.cons_ne_nil c []))
      rw [List.flatMap_cons, List.length_append, List.length_cons]
      omega

/-- No definition is called what the reference to it says. -/
theorem ofName_ne (name : String) : ofName name ≠ name := by
  intro heq
  have hlength := congrArg (fun text => text.toList.length) heq
  have hstart : start.toList.length = 21 := by decide +kernel
  have hle := length_le_flatMap_escape name.toList
  rw [ofName, Pointer.escape, String.toList_append, String.toList_ofList, List.length_append,
    hstart] at hlength
  omega

/-- A reference is taken apart at the first slash behind its start. What stands before that slash is
the name, however it is written. -/
theorem split?_written {head below : List Char} (hne : head ≠ []) (hhead : '/' ∉ head)
    (hbelow : ∀ c ∈ below.head?, c = '/') :
    split? (start ++ String.ofList (head ++ below)) =
      some (String.ofList (Pointer.unescapeChars head), String.ofList below) := by
  have hafter : Text.afterStart? start (start ++ String.ofList (head ++ below)) =
      some (String.ofList (head ++ below)) := Text.afterStart?_eq_some_iff.2 rfl
  have hall : ∀ c ∈ head, (c != '/') = true := by
    intro c hc
    rw [bne_iff_ne]
    rintro rfl
    exact hhead hc
  have htake : below.takeWhile (· != '/') = [] ∧ below.dropWhile (· != '/') = below := by
    cases below with
    | nil => exact ⟨rfl, rfl⟩
    | cons c below =>
        have hslash : c = '/' := hbelow c rfl
        subst hslash
        exact ⟨rfl, rfl⟩
  unfold split?
  rw [hafter]
  dsimp only
  rw [String.toList_ofList, List.takeWhile_append_of_pos hall, List.dropWhile_append_of_pos hall,
    htake.1, htake.2, List.append_nil, if_neg (by simpa using hne)]

/-- A reference to a part of a definition, or to the definition itself, is taken apart as it was put
together. -/
theorem split?_append {name : String} (hname : name ≠ "") {below : List Char}
    (hbelow : ∀ c ∈ below.head?, c = '/') :
    split? (ofName name ++ String.ofList below) = some (name, String.ofList below) := by
  have htext : ofName name ++ String.ofList below =
      start ++ String.ofList (name.toList.flatMap Pointer.escapeChar ++ below) := by
    rw [ofName, Pointer.escape, String.append_assoc, String.ofList_append]
  have hne : name.toList.flatMap Pointer.escapeChar ≠ [] :=
    flatMap_escape_ne_nil fun hnil => hname (String.toList_inj.1 hnil)
  have hslash : '/' ∉ name.toList.flatMap Pointer.escapeChar :=
    fun hmem => absurd (slash_not_mem_escape name.toList '/' hmem) (by decide)
  rw [htext, split?_written hne hslash hbelow, Pointer.unescapeChars_escape, String.ofList_toList]

/-- What follows the start of a reference begins with a name: there is something, and it is not a
slash. -/
def BeginsWithName (rest : String) : Prop :=
  ∃ c ∈ rest.toList.head?, c ≠ '/'

/-- A reference is taken apart unless there is no name after its start. -/
theorem split?_start_append_eq_none_iff {rest : String} :
    split? (start ++ rest) = none ↔ ¬BeginsWithName rest := by
  have hafter : Text.afterStart? start (start ++ rest) = some rest :=
    Text.afterStart?_eq_some_iff.2 rfl
  unfold split? BeginsWithName
  rw [hafter]
  dsimp only
  cases rest.toList with
  | nil => simp
  | cons c chars => by_cases hc : c = '/' <;> simp [hc]

/-- A reference that enters a definition is the start, the written name, and the part below it. -/
theorem exists_head_of_split? {text name tail : String} (h : split? text = some (name, tail)) :
    ∃ head : List Char, '/' ∉ head ∧ name = String.ofList (Pointer.unescapeChars head) ∧
      text.toList = start.toList ++ (head ++ tail.toList) ∧ ∀ c ∈ tail.toList.head?, c = '/' := by
  rw [split?] at h
  split at h
  case h_1 => cases h
  case h_2 rest hafter =>
    rw [Text.afterStart?_eq_some_iff] at hafter
    dsimp only at h
    split at h
    case isTrue => cases h
    case isFalse =>
      cases h
      refine ⟨_, fun hslash => ?_, rfl, ?_, ?_⟩
      · exact absurd (List.mem_takeWhile_imp hslash) (by decide)
      · rw [hafter, String.toList_append, String.toList_ofList, List.takeWhile_append_dropWhile]
      · intro c hc
        have hhead := List.head?_dropWhile_not (· != '/') rest.toList
        rw [String.toList_ofList] at hc
        rw [Option.mem_def.1 hc] at hhead
        simpa using hhead

theorem split?_ofName {name : String} (hname : name ≠ "") :
    split? (ofName name) = some (name, "") := by
  have hsplit := @split?_append name hname [] (by simp)
  simpa using hsplit

theorem ne_empty_of_isBareName {text : String} (h : isBareName text) : text ≠ "" := by
  rintro rfl
  revert h
  decide

theorem hash_notMem_of_isBareName {text : String} (h : isBareName text) : '#' ∉ text.toList := by
  intro hhash
  rw [isBareName, Bool.and_eq_true, List.all_eq_true] at h
  have hnone := h.2 '#' hhash
  revert hnone
  decide

/-- A bare name is no pointer into the definitions. -/
theorem split?_of_isBareName {text : String} (h : isBareName text) : split? text = none := by
  rw [split?]
  cases hafter : Text.afterStart? start text with
  | none => rfl
  | some rest =>
      rw [Text.afterStart?_eq_some_iff] at hafter
      have hhash : '#' ∈ text.toList := by
        rw [hafter, String.toList_append]
        exact List.mem_append_left _ (by decide)
      exact absurd hhash (hash_notMem_of_isBareName h)

theorem not_isBareName_ofName (name tail : String) : ¬isBareName (ofName name ++ tail) := by
  intro hbare
  refine hash_notMem_of_isBareName hbare ?_
  rw [ofName, String.append_assoc, String.toList_append]
  exact List.mem_append_left _ (by decide)

end SchemaRef

namespace RenameMap

/-- What repointing does to a reference into a definition. -/
theorem reference_of_split {map : RenameMap} {text name tail : String}
    (h : SchemaRef.split? text = some (name, tail)) :
    map.reference text =
      match map.get? name with
      | some canonical => SchemaRef.ofName canonical ++ tail
      | none => text := by
  rw [reference, reference?, h]
  cases hget : map.get? name <;> simp [hget]

theorem reference_of_split_eq_none (map : RenameMap) {text : String}
    (h : SchemaRef.split? text = none) : map.reference text = text := by
  rw [reference, reference?, h]
  rfl

/-- A map without aliases changes no reference. -/
theorem reference_eq_self {map : RenameMap} (h : ∀ name, map.get? name = none) (text : String) :
    map.reference text = text := by
  cases hsplit : SchemaRef.split? text with
  | none => exact map.reference_of_split_eq_none hsplit
  | some entered => rw [reference_of_split hsplit, h]

/-- A reference to a definition becomes one to what the definition is called now. -/
theorem reference_ofName (map : RenameMap) {name : String} (hname : name ≠ "") :
    map.reference (SchemaRef.ofName name) = SchemaRef.ofName (map.target name) := by
  rw [reference_of_split (SchemaRef.split?_ofName hname), target]
  cases map.get? name with
  | none => rfl
  | some canonical => exact String.append_empty

/-- A reference to a definition as a whole names afterwards what the definition is called then,
unless that is the empty name, which no reference can name. -/
theorem split?_reference (map : RenameMap) {text : String}
    (h : ∀ entered ∈ SchemaRef.split? text, entered.2 = "") :
    SchemaRef.split? (map.reference text) = none ∨
      ∃ name, SchemaRef.split? text = some (name, "") ∧
        SchemaRef.split? (map.reference text) = some (map.target name, "") ∧
        (map.get? name = none → map.reference text = text) := by
  cases hsplit : SchemaRef.split? text with
  | none => exact .inl (by rw [map.reference_of_split_eq_none hsplit, hsplit])
  | some entered =>
      obtain ⟨name, below⟩ := entered
      obtain rfl : below = "" := h (name, below) hsplit
      rw [reference_of_split hsplit]
      cases hget : map.get? name with
      | none =>
          refine .inr ⟨name, rfl, ?_, fun _ => rfl⟩
          rw [target, hget, Option.getD_none]
          exact hsplit
      | some canonical =>
          dsimp only
          rw [String.append_empty]
          by_cases hempty : canonical = ""
          · subst hempty
            exact .inl (by decide +kernel)
          · refine .inr ⟨name, rfl, ?_, fun hnone => ?_⟩
            · rw [target, hget, Option.getD_some, SchemaRef.split?_ofName hempty]
            · rw [hget] at hnone
              cases hnone

/-- Repointing makes no reference a bare name. -/
theorem not_isBareName_reference (map : RenameMap) {text : String}
    (h : ¬SchemaRef.isBareName text) : ¬SchemaRef.isBareName (map.reference text) := by
  cases hsplit : SchemaRef.split? text with
  | none => rwa [map.reference_of_split_eq_none hsplit]
  | some entered =>
      rw [reference_of_split hsplit]
      cases map.get? entered.1 with
      | none => exact h
      | some canonical => exact SchemaRef.not_isBareName_ofName canonical entered.2

end RenameMap

end SchemaMerge
