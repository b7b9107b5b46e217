import SchemaMerge.Extraction
import SchemaMerge.Plan
import SchemaMerge.Proofs.NameMaps

/-!
Numbered names. The names `base2`, `base3`, ... are all different, so among more of them than names
are in use there is one that is free. This is why a plan and an extraction find a name for whatever
they have to name. A shape is named with a capital, so never with a word that the scan for
references looks for (`Extraction.uniqueName_nameHint_ne`).
-/

namespace SchemaMerge

theorem toString_nat_injective {m n : Nat} (h : toString m = toString n) : m = n := by
  have hdigits : Nat.toDigits 10 m = Nat.toDigits 10 n := by
    rw [← Nat.toList_repr, ← Nat.toList_repr]
    exact congrArg String.toList h
  rw [← Nat.ofDigitChars_ten_toDigits (n := m), hdigits, Nat.ofDigitChars_ten_toDigits]

/-- A number is written with digits. -/
theorem isDigit_of_mem_toString {n : Nat} {c : Char} (h : c ∈ (toString n).toList) : c.isDigit := by
  have hdigits : (toString n).toList = Nat.toDigits 10 n := Nat.toList_repr
  exact Nat.isDigit_of_mem_toDigits (by decide) (by decide) (hdigits ▸ h)

theorem ne_toString_of_notDigit {text : String} {c : Char} (hc : c ∈ text.toList)
    (hdigit : c.isDigit = false) (n : Nat) : text ≠ toString n := by
  rintro rfl
  rw [isDigit_of_mem_toString hc] at hdigit
  cases hdigit

/-- The first names that a base is given with a number. -/
def numberedNames (base : String) (bound : Nat) : List String :=
  (List.range' 2 bound).map fun n => base ++ toString n

theorem nodup_numberedNames (base : String) (bound : Nat) : (numberedNames base bound).Nodup := by
  refine List.Nodup.map_on ?_ List.nodup_range'
  intro m _ n _ h
  rw [← String.toList_inj, String.toList_append, String.toList_append] at h
  exact toString_nat_injective (String.toList_inj.1 (List.append_cancel_left h))

/-- Of more numbered names than there are names in use, one is free. -/
theorem exists_free_numberedName {taken : String → Bool} {used : List String} {bound : Nat}
    (base : String) (htaken : ∀ name, taken name → name ∈ used) (hlt : used.length < bound) :
    ∃ name, (numberedNames base bound).find? (fun name => !taken name) = some name ∧
      taken name = false := by
  have hfree : ((numberedNames base bound).find? fun name => !taken name).isSome := by
    rw [List.find?_isSome]
    by_contra hall
    push Not at hall
    have hsub : numberedNames base bound ⊆ used := fun name hname =>
      htaken name (by simpa using hall name hname)
    have hlen := ((nodup_numberedNames base bound).subperm hsub).length_le
    rw [numberedNames, List.length_map, List.length_range'] at hlen
    omega
  obtain ⟨name, hname⟩ := Option.isSome_iff_exists.1 hfree
  exact ⟨name, hname, by simpa using List.find?_some hname⟩

/-- Who asks for a name that is free is given it. If it is taken, it gets the least number with
which it is free. -/
inductive GivenName (taken : String → Prop) (requested : String) : String → Prop where
  | asked (hfree : ¬taken requested) : GivenName taken requested requested
  | numbered {n : Nat} (htaken : taken requested) (htwo : 2 ≤ n)
      (hfree : ¬taken (requested ++ toString n))
      (hleast : ∀ k, 2 ≤ k → k < n → taken (requested ++ toString k)) :
      GivenName taken requested (requested ++ toString n)

theorem GivenName.free {taken : String → Prop} {requested name : String}
    (h : GivenName taken requested name) : ¬taken name := by
  cases h with
  | asked hfree => exact hfree
  | numbered _ _ hfree _ => exact hfree

theorem givenName_freeName {taken : String → Bool} {used : List String} {bound : Nat}
    {base : String} (hbase : taken base) (htaken : ∀ name, taken name → name ∈ used)
    (hlt : used.length < bound) :
    GivenName (fun name => taken name) base (freeName taken base bound) := by
  obtain ⟨name, hfind, hfree⟩ := exists_free_numberedName base htaken hlt
  rw [numberedNames] at hfind
  rw [freeName, hfind, Option.getD_some]
  rw [List.find?_map, Option.map_eq_some_iff] at hfind
  obtain ⟨n, hn, rfl⟩ := hfind
  obtain ⟨_, hrange, hleast⟩ := List.find?_range'_eq_some.1 hn
  refine .numbered hbase (List.mem_range'_1.1 hrange).1 (Bool.eq_false_iff.1 hfree)
    fun k htwo hless => ?_
  simpa using hleast k htwo hless

theorem Extraction.uniqueName_free (hint : String) (definitions : NameMap Json) :
    definitions.get? (uniqueName hint definitions) = none := by
  rw [uniqueName]
  cases hused : definitions.contains hint with
  | false => exact NameMap.not_contains_iff.1 hused
  | true =>
      have hlt : definitions.names.length < definitions.size + 1 := by
        rw [NameMap.length_names]
        omega
      obtain ⟨name, hfind, hfree⟩ := exists_free_numberedName hint
        (fun name h => NameMap.mem_names_iff.2 h) hlt
      rw [numberedNames] at hfind
      rw [if_pos rfl, hfind, Option.getD_some]
      exact NameMap.not_contains_iff.1 hfree

namespace Text.Unicode

theorem eq_of_ofNat_eq {n : Nat} (h : Char.ofNat n = 'd') : n = 0x64 := by
  by_cases hvalid : n.isValidChar
  · rw [Char.ofNat, dif_pos hvalid] at h
    exact congrArg Char.toNat h
  · rw [Char.ofNat, dif_neg hvalid] at h
    cases congrArg Char.toNat h

/-- No capital is the letter that `discriminator` begins with. -/
theorem head?_capitals_ne (c : Char) : capitals c ≠ [] ∧ (capitals c).head? ≠ some 'd' := by
  have hseveral : ∀ entry ∈ severalCapitals, entry.2 ≠ [] ∧ entry.2.head? ≠ some 0x64 := by
    decide +kernel
  have hruns : ∀ run ∈ capitalRuns, run.contains (0x64 - run.distance).toNat = false := by
    decide +kernel
  have hself : capitalRuns.find? (·.contains 0x64) ≠ none := by decide +kernel
  rw [capitals]
  split
  case h_1 several hlookup =>
    obtain ⟨_, _, hsplit, _⟩ := List.lookup_eq_some_iff.1 hlookup
    obtain ⟨hne, hhead⟩ := hseveral (c.toNat, several) (by simp [hsplit])
    refine ⟨by simpa using hne, fun h => hhead ?_⟩
    rw [List.head?_map, Option.map_eq_some_iff] at h
    obtain ⟨n, hn, hof⟩ := h
    exact eq_of_ofNat_eq hof ▸ hn
  case h_2 =>
    split
    case h_1 run hrun =>
      refine ⟨List.cons_ne_nil _ _, fun hhead => ?_⟩
      have hmove := eq_of_ofNat_eq (Option.some.inj hhead)
      have hcontains := List.find?_some hrun
      have hsource : c.toNat = (0x64 - run.distance).toNat := by
        rw [CaseRun.move] at hmove
        omega
      rw [hsource, hruns run (List.mem_of_find?_eq_some hrun)] at hcontains
      cases hcontains
    case h_2 hnone =>
      refine ⟨List.cons_ne_nil _ _, fun hhead => hself ?_⟩
      cases Option.some.inj hhead
      exact hnone

end Text.Unicode

/-- The text has a beginning, and not the one that `discriminator` has. -/
def BeginsApart (text : String) : Prop :=
  text.toList ≠ [] ∧ text.toList.head? ≠ some 'd'

theorem BeginsApart.append {text : String} (h : BeginsApart text) (more : String) :
    BeginsApart (text ++ more) := by
  rw [BeginsApart, String.toList_append, List.head?_append_of_ne_nil _ h.1]
  exact ⟨List.append_ne_nil_of_left_ne_nil h.1 _, h.2⟩

theorem Occurrence.beginsApart_nameHint (occurrence : Occurrence) :
    BeginsApart occurrence.nameHint := by
  have hcapital : ∀ text, capitalize text = "" ∨ BeginsApart (capitalize text) := by
    intro text
    rw [capitalize]
    cases text.toList with
    | nil => exact .inl rfl
    | cons c rest =>
        obtain ⟨hne, hhead⟩ := Text.Unicode.head?_capitals_ne c
        dsimp only
        rw [BeginsApart, String.toList_ofList, List.head?_append_of_ne_nil _ hne]
        exact .inr ⟨List.append_ne_nil_of_left_ne_nil hne _, hhead⟩
  have hbase : BeginsApart (if (capitalize (lastProperty occurrence.segments.reverse)).isEmpty
      then "Inline" else capitalize (lastProperty occurrence.segments.reverse)) := by
    rcases hcapital (lastProperty occurrence.segments.reverse) with hempty | happart
    · rw [hempty]
      exact ⟨by decide, by decide⟩
    · split
      · exact ⟨by decide, by decide⟩
      · exact happart
  rw [nameHint]
  split
  · exact hbase.append "Item"
  · exact hbase

theorem Extraction.exists_uniqueName_eq (hint : String) (definitions : NameMap Json) :
    ∃ number, uniqueName hint definitions = hint ++ number := by
  have hself : hint = hint ++ "" := String.append_empty.symm
  rw [uniqueName]
  split
  · cases hfound : (((List.range' 2 (definitions.size + 1)).map fun n => hint ++ toString n).find?
        fun name => !definitions.contains name) with
    | none => exact ⟨"", hself⟩
    | some name =>
        obtain ⟨n, _, rfl⟩ := List.mem_map.1 (List.mem_of_find?_eq_some hfound)
        exact ⟨toString n, rfl⟩
  · exact ⟨"", hself⟩

/-- A shape gets a name, and not one that the scan for references looks for. -/
theorem Extraction.uniqueName_nameHint_ne (occurrence : Occurrence) (definitions : NameMap Json) :
    uniqueName occurrence.nameHint definitions ≠ "" ∧
      uniqueName occurrence.nameHint definitions ≠ "discriminator" := by
  obtain ⟨number, heq⟩ := exists_uniqueName_eq occurrence.nameHint definitions
  obtain ⟨hne, hhead⟩ := occurrence.beginsApart_nameHint.append number
  rw [heq]
  constructor
  · exact fun h => hne (by rw [h]; rfl)
  · exact fun h => hhead (by rw [h]; rfl)

end SchemaMerge
