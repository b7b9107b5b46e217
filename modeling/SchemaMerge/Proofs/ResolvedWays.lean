import Mathlib.Data.List.Nodup
import SchemaMerge.Proofs.Mentions

/-!
Ways through a value and the pointers that are written from them. A way leads over members and over
items, and the pointer written from it is resolved to what it leads to (`Json.Leads.resolve?`),
as long as every index on it is a count. Which texts are read as a count is said by itself
(`Text.count?_eq_some_iff`).
-/

namespace SchemaMerge

/-- Ways over different segments are different. -/
theorem nodup_flatMap_cons {α : Type} {segment : α → String} {ways : α → List (List String)}
    {items : List α} (hsegments : (items.map segment).Nodup)
    (hways : ∀ item ∈ items, (ways item).Nodup) :
    (items.flatMap fun item => (ways item).map (segment item :: ·)).Nodup := by
  rw [List.nodup_flatMap]
  refine ⟨fun item hitem => (hways item hitem).map List.cons_injective, ?_⟩
  refine (List.pairwise_map.1 hsegments).imp fun {a b} hne => ?_
  intro way ha hb
  obtain ⟨_, _, rfl⟩ := List.mem_map.1 ha
  obtain ⟨_, _, heq⟩ := List.mem_map.1 hb
  exact hne (List.cons_eq_cons.1 heq).1.symm

namespace Text

theorem le_ofDigitChars (digits : List Char) (n : Nat) : n ≤ Nat.ofDigitChars 10 digits n := by
  induction digits generalizing n with
  | nil => exact Nat.le_refl n
  | cons c rest ih =>
      rw [Nat.ofDigitChars_cons]
      refine Nat.le_trans ?_ (ih _)
      omega

/-- The text gives the number `n`: in decimal digits, in front of which a plus sign may stand, and
not above the largest count. -/
def Gives (text : String) (n : Nat) : Prop :=
  ∃ digits : List Char, (text.toList = digits ∨ text.toList = '+' :: digits) ∧ digits ≠ [] ∧
    (∀ c ∈ digits, c.isDigit) ∧ Nat.ofDigitChars 10 digits 0 = n ∧ n < UInt64.size

/-- The number with one more digit behind it, if it is a count. -/
def withDigit? (value : Nat) (c : Char) : Option Nat :=
  let next := value * 10 + (c.toNat - '0'.toNat)
  if c.isDigit ∧ next < UInt64.size then some next else none

/-- All characters have to be digits, and a number that is too large on the way stays too large. -/
theorem foldlM_withDigit?_eq_some_iff {digits : List Char} {value n : Nat}
    (h : value < UInt64.size) : digits.foldlM withDigit? value = some n ↔
      (∀ c ∈ digits, c.isDigit) ∧ Nat.ofDigitChars 10 digits value = n ∧ n < UInt64.size := by
  induction digits generalizing value with
  | nil =>
      rw [Nat.ofDigitChars_nil]
      constructor
      · intro hvalue
        cases hvalue
        exact ⟨List.forall_mem_nil _, rfl, h⟩
      · exact fun ⟨_, hvalue, _⟩ => congrArg some hvalue
  | cons c rest ih =>
      rw [List.foldlM_cons, withDigit?, Nat.ofDigitChars_cons, Nat.mul_comm 10,
        List.forall_mem_cons]
      by_cases hnext : value * 10 + (c.toNat - '0'.toNat) < UInt64.size
      · by_cases hdigit : c.isDigit
        · rw [if_pos ⟨hdigit, hnext⟩, Option.bind_eq_bind, Option.bind_some, ih hnext]
          exact and_congr_left' (iff_and_self.2 fun _ => hdigit)
        · rw [if_neg fun hboth => hdigit hboth.1]
          exact iff_of_false nofun fun hall => hdigit hall.1.1
      · rw [if_neg fun hboth => hnext hboth.2]
        refine iff_of_false nofun fun ⟨_, hn, hlt⟩ => hnext ?_
        exact Nat.lt_of_le_of_lt (hn ▸ le_ofDigitChars rest _) hlt

/-- A text is read as the count that it gives. -/
theorem count?_eq_some_iff {text : String} {n : Nat} : count? text = some n ↔ Gives text n := by
  have hread : ∀ digits : List Char,
      (if digits.isEmpty then none else digits.foldlM withDigit? 0) = some n ↔
      digits ≠ [] ∧
        (∀ c ∈ digits, c.isDigit) ∧ Nat.ofDigitChars 10 digits 0 = n ∧ n < UInt64.size := by
    intro digits
    rw [← foldlM_withDigit?_eq_some_iff (by decide)]
    cases digits <;> simp
  rw [count?, Gives]
  split
  case h_1 rest hplus =>
    refine (hread rest).trans ?_
    rw [hplus]
    constructor
    · exact fun h => ⟨rest, .inr rfl, h⟩
    · rintro ⟨digits, rfl | htext, hne, hdigits, hvalue⟩
      · exact absurd (hdigits '+' List.mem_cons_self) (by decide)
      · cases htext
        exact ⟨hne, hdigits, hvalue⟩
  case h_2 hplus =>
    refine (hread text.toList).trans ?_
    constructor
    · exact fun h => ⟨_, .inl rfl, h⟩
    · rintro ⟨digits, rfl | htext, h⟩
      · exact h
      · exact absurd htext (hplus digits)

/-- A count is read back as it was written. -/
theorem count?_toString {n : Nat} (h : n < UInt64.size) : count? (toString n) = some n := by
  have htext : toString n = String.ofList (Nat.toDigits 10 n) :=
    String.toList_inj.1 (Nat.toList_repr.trans String.toList_ofList.symm)
  have hvalue : Nat.ofDigitChars 10 (Nat.toDigits 10 n) 0 = n := Nat.ofDigitChars_ten_toDigits
  rw [htext, count?_eq_some_iff]
  exact ⟨_, .inl String.toList_ofList, Nat.toDigits_ne_nil,
    fun c => Nat.isDigit_of_mem_toDigits (by decide) (by decide), hvalue, h⟩

end Text

namespace Json

/-- Every index of an array in the value is a count. -/
def Countable (value : Json) : Prop :=
  ∀ way items, value.Leads way (.array items) → items.length ≤ UInt64.size

theorem countable_object {fields : List (String × Json)} :
    (object fields).Countable ↔ ∀ field ∈ fields, field.2.Countable := by
  constructor
  · exact fun h field hfield way items hway => h _ items (.member hfield hway)
  · intro h way items hway
    cases hway with
    | member hchild hbelow => exact h _ hchild _ _ hbelow

theorem countable_array {items : List Json} :
    (array items).Countable ↔ items.length ≤ UInt64.size ∧ ∀ item ∈ items, item.Countable := by
  constructor
  · intro h
    refine ⟨h [] items (.here _), fun item hitem way others hway => ?_⟩
    obtain ⟨index, hindex⟩ := List.getElem?_of_mem hitem
    exact h _ others (.item hindex hway)
  · rintro ⟨hlength, h⟩ way others hway
    cases hway with
    | here => exact hlength
    | item hchild hbelow => exact h _ (List.mem_of_getElem? hchild) _ _ hbelow

theorem countable_string (text : String) : (string text).Countable := by
  intro way items hway
  cases hway

theorem countable_bool (flag : Bool) : (bool flag).Countable := by
  intro way items hway
  cases hway

/-- What a way leads to, step by step. -/
theorem Leads.foldlM_step? {value found : Json} {way : List String} (h : value.Ordered)
    (hcount : value.Countable) (hway : value.Leads way found) :
    way.foldlM Pointer.step? value = some found := by
  induction hway with
  | here => rfl
  | @member fields key child found below hchild hbelow ih =>
      rw [ordered_object] at h
      have hstep : Pointer.step? (.object fields) key = some child := h.1.lookup_eq hchild
      rw [List.foldlM_cons, hstep]
      exact ih (h.2 _ hchild) (countable_object.1 hcount _ hchild)
  | @item items index child found below hchild hbelow ih =>
      rw [ordered_array] at h
      obtain ⟨hlength, hitems⟩ := countable_array.1 hcount
      have hindex : index < UInt64.size :=
        Nat.lt_of_lt_of_le (List.getElem?_eq_some_iff.1 hchild).1 hlength
      have hstep : Pointer.step? (.array items) (toString index) = some child := by
        rw [Pointer.step?, Text.count?_toString hindex]
        exact hchild
      rw [List.foldlM_cons, hstep]
      have hmem := List.mem_of_getElem? hchild
      exact ih (h _ hmem) (hitems _ hmem)

/-- The pointer written from a way is resolved to what the way leads to. -/
theorem Leads.resolve? {value found : Json} {way : List String} (h : value.Ordered)
    (hcount : value.Countable) (hway : value.Leads way found) :
    Pointer.resolve? value (Pointer.descend "#" way) = some found := by
  rw [← hway.foldlM_step? h hcount, Pointer.resolve?, Pointer.toList_descend,
    Pointer.segments_descend]
  cases way <;> rfl

theorem Leads.ordered {value found : Json} {way : List String} (h : value.Ordered)
    (hway : value.Leads way found) : found.Ordered := by
  induction hway with
  | here => exact h
  | member hchild _ ih =>
      rw [ordered_object] at h
      exact ih (h.2 _ hchild)
  | item hchild _ ih =>
      rw [ordered_array] at h
      exact ih (h _ (List.mem_of_getElem? hchild))

theorem Leads.exists_of_append {value found : Json} {way below : List String}
    (h : value.Leads (way ++ below) found) :
    ∃ middle, value.Leads way middle ∧ middle.Leads below found := by
  induction way generalizing value with
  | nil => exact ⟨value, .here _, h⟩
  | cons segment way ih =>
      cases h with
      | member hchild hbelow =>
          obtain ⟨middle, hway, hrest⟩ := ih hbelow
          exact ⟨middle, .member hchild hway, hrest⟩
      | item hchild hbelow =>
          obtain ⟨middle, hway, hrest⟩ := ih hbelow
          exact ⟨middle, .item hchild hway, hrest⟩

/-- A segment that is no number leads from an object to one of its members. -/
theorem Leads.exists_member {value found : Json} {key : String} {below : List String}
    (h : value.Leads (key :: below) found) (hkey : ∀ index : Nat, key ≠ toString index) :
    ∃ fields child, value = .object fields ∧ (key, child) ∈ fields ∧ child.Leads below found := by
  generalize hsegment : key = segment at h
  cases h with
  | member hchild hbelow => exact ⟨_, _, rfl, hsegment ▸ hchild, hbelow⟩
  | item hchild hbelow => exact absurd hsegment (hkey _)

/-- One way after another one. -/
theorem Leads.trans {value middle found : Json} {way below : List String}
    (h : value.Leads way middle) (hbelow : middle.Leads below found) :
    value.Leads (way ++ below) found := by
  induction h with
  | here => exact hbelow
  | member hchild _ ih => exact .member hchild (ih hbelow)
  | item hchild _ ih => exact .item hchild (ih hbelow)

end Json

end SchemaMerge
