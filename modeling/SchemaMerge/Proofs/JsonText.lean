import Mathlib.Logic.Function.Basic
import Mathlib.Tactic.SplitIfs
import SchemaMerge.Json.Printer
import SchemaMerge.Json.Reader
import SchemaMerge.Proofs.JsonValues

/-!
The compact text of a value identifies the value, up to numbers that are written alike. A quoted
string is read back as it was written, the text of a number ends where something begins that is part
of no number, and every other text tells from its first character what it is. `Json.unified` takes
one number for each text, so that two values have one compact text iff they become equal by it
(`Json.compact_eq_iff`).
-/

namespace SchemaMerge.Json

theorem hexValue?_hexDigit {n : Nat} (h : n < 16) : hexValue? (hexDigit n) = some n := by
  have hall : ∀ n : Fin 16, hexValue? (hexDigit n) = some n.val := by decide
  exact hall ⟨n, h⟩

/-- What the reader makes of a character that the printer has written. -/
def writtenPiece (c : Char) : Piece :=
  if c.toNat < 32 ∧ c ∉ ['\n', '\r', '\t', '\x08', '\x0c'] then .unit c.toNat else .char c

theorem writtenPiece_injective {c d : Char} (h : writtenPiece c = writtenPiece d) : c = d := by
  unfold writtenPiece at h
  split at h
  · split at h
    · exact Char.toNat_inj.1 (Piece.unit.inj h)
    · cases h
  · split at h
    · cases h
    · exact Piece.char.inj h

/-- The reader takes one character from what the printer has written for it. -/
theorem readPieces_escapeChar (acc : List Piece) (c : Char) (rest : List Char) :
    readPieces acc (escapeChar c ++ rest) = readPieces (writtenPiece c :: acc) rest := by
  by_cases hquote : c = '"'
  · subst hquote
    rfl
  by_cases hslash : c = '\\'
  · subst hslash
    rfl
  by_cases hshort : c ∈ ['\n', '\r', '\t', '\x08', '\x0c']
  · simp only [List.mem_cons, List.not_mem_nil, or_false] at hshort
    rcases hshort with rfl | rfl | rfl | rfl | rfl <;> rfl
  · have hne := hshort
    simp only [List.mem_cons, List.not_mem_nil, or_false, not_or] at hne
    obtain ⟨h₁, h₂, h₃, h₄, h₅⟩ := hne
    by_cases hcontrol : c.toNat < 32
    · have hhigh := hexValue?_hexDigit (n := c.toNat / 16) (by omega)
      have hlow := hexValue?_hexDigit (n := c.toNat % 16) (by omega)
      have hzero : hexValue? '0' = some 0 := rfl
      have hvalue : c.toNat / 16 * 16 + c.toNat % 16 = c.toNat := by omega
      rw [writtenPiece, if_pos ⟨hcontrol, hshort⟩, escapeChar, if_neg hquote, if_neg hslash,
        if_neg h₁, if_neg h₂, if_neg h₃, if_neg h₄, if_neg h₅, if_pos hcontrol]
      simp [readPieces, hhigh, hlow, hzero]
      rw [hvalue]
    · rw [writtenPiece, if_neg (fun h => hcontrol h.1), escapeChar, if_neg hquote, if_neg hslash,
        if_neg h₁, if_neg h₂, if_neg h₃, if_neg h₄, if_neg h₅, if_neg hcontrol]
      simp [readPieces, hslash, hcontrol]

/-- A quoted string is read back. -/
theorem readPieces_quoted (acc : List Piece) (chars rest : List Char) :
    readPieces acc (chars.foldr (fun c acc => escapeChar c ++ acc) ('"' :: rest)) =
      some (acc.reverse ++ chars.map writtenPiece, rest) := by
  induction chars generalizing acc with
  | nil => simp [readPieces]
  | cons c chars ih =>
      rw [List.foldr_cons, readPieces_escapeChar, ih]
      simp

theorem quoteChars_inj {s t : String} {rest rest' : List Char}
    (h : quoteChars s rest = quoteChars t rest') : s = t ∧ rest = rest' := by
  have htail := (List.cons.inj h).2
  have hread := congrArg (readPieces []) htail
  rw [readPieces_quoted, readPieces_quoted, Option.some.injEq, Prod.mk.injEq] at hread
  refine ⟨String.toList_inj.1 ?_, hread.2⟩
  exact (List.map_inj_right fun _ _ => writtenPiece_injective).1 (List.append_cancel_left hread.1)

/-- Whether a character can be part of a number. -/
def isNumberChar (c : Char) : Bool :=
  c.isDigit || c ∈ ['-', '+', '.', 'e']

/-- Whether a text is made of characters of numbers. -/
def isNumberText (s : String) : Bool :=
  s.toList.all isNumberChar

theorem isNumberText_append (s t : String) :
    isNumberText (s ++ t) = (isNumberText s && isNumberText t) := by
  rw [isNumberText, String.toList_append, List.all_append]
  rfl

theorem isNumberText_ofList_of_subset {digits : List Char} {n : Nat}
    (h : digits ⊆ Nat.toDigits 10 n) : isNumberText (String.ofList digits) := by
  rw [isNumberText, String.toList_ofList, List.all_eq_true]
  intro c hc
  have hdigit : c.isDigit := Nat.isDigit_of_mem_toDigits (by omega) (by omega) (h hc)
  rw [isNumberChar, hdigit, Bool.true_or]

theorem isNumberText_toString (n : Nat) : isNumberText (toString n) := by
  have htext : toString n = String.ofList (Nat.toDigits 10 n) := by
    rw [← String.toList_inj, String.toList_ofList]
    exact Nat.toList_repr
  rw [htext]
  exact isNumberText_ofList_of_subset (List.Subset.refl _)

theorem isNumberText_zeros (n : Nat) : isNumberText (zeros n) := by
  rw [isNumberText, zeros, String.toList_ofList, List.all_eq_true]
  intro c hc
  rw [List.eq_of_mem_replicate hc]
  rfl

theorem isNumberText_decimal (d : Decimal) : isNumberText d.text := by
  have hdigits := isNumberText_ofList_of_subset (List.Subset.refl (Nat.toDigits 10 d.digits))
  have htake : ∀ k, isNumberText (String.ofList ((Nat.toDigits 10 d.digits).take k)) := fun k =>
    isNumberText_ofList_of_subset (List.take_subset k _)
  have hdrop : ∀ k, isNumberText (String.ofList ((Nat.toDigits 10 d.digits).drop k)) := fun k =>
    isNumberText_ofList_of_subset (List.drop_subset k _)
  unfold Decimal.text
  dsimp only
  split_ifs <;>
    simp only [isNumberText_append, hdigits, htake, hdrop, isNumberText_zeros,
      isNumberText_toString] <;>
    rfl

theorem isNumberText_text (n : Number) : isNumberText n.text := by
  cases n with
  | integer value =>
      cases value with
      | ofNat n => exact isNumberText_toString n
      | negSucc n =>
          have htext : (Number.integer (.negSucc n)).text = "-" ++ toString (n + 1) := rfl
          rw [htext, isNumberText_append, isNumberText_toString]
          rfl
  | decimal value => exact isNumberText_decimal value

theorem text_ne_nil (n : Number) : n.text.toList ≠ [] := by
  cases n with
  | integer value =>
      cases value with
      | ofNat n =>
          have htext : (toString n).toList = Nat.toDigits 10 n := Nat.toList_repr
          exact htext ▸ Nat.toDigits_ne_nil
      | negSucc n =>
          have htext : (Number.integer (.negSucc n)).text = "-" ++ toString (n + 1) := rfl
          rw [htext, String.toList_append]
          exact List.cons_ne_nil _ _
  | decimal value =>
      have hdigits := Nat.toDigits_ne_nil (n := value.digits) (b := 10)
      rw [Number.text, Decimal.text]
      dsimp only
      split_ifs <;> simp [hdigits]

/-- The number that stands for all that are written alike. -/
noncomputable def Number.unified (n : Number) : Number :=
  have : Nonempty Number := ⟨n⟩
  Function.invFun Number.text n.text

theorem Number.text_unified (n : Number) : n.unified.text = n.text :=
  have : Nonempty Number := ⟨n⟩
  Function.invFun_eq ⟨n, rfl⟩

theorem Number.unified_eq_iff {m n : Number} : m.unified = n.unified ↔ m.text = n.text := by
  constructor
  · intro h
    rw [← text_unified m, h, text_unified]
  · intro h
    rw [unified, unified, h]

/-- A scalar with one number for each text of a number. -/
noncomputable def unifiedScalar : Json → Json
  | .number value => .number value.unified
  | value => value

/-- A value with one number for each text of a number. -/
noncomputable def unified (value : Json) : Json :=
  value.mapScalars unifiedScalar

theorem unified_number (n : Number) : unified (.number n) = .number n.unified := rfl

theorem unified_array (items : List Json) :
    unified (.array items) = .array (items.map unified) :=
  mapScalars_array unifiedScalar items

theorem unified_object (fields : List (String × Json)) :
    unified (.object fields) = .object (Fields.mapValues (fun _ => unified) fields) :=
  mapScalars_object unifiedScalar fields

mutual

theorem compactChars_unified : ∀ (value : Json) (rest : List Char),
    compactChars value.unified rest = compactChars value rest
  | .null, _ => rfl
  | .bool _, _ => rfl
  | .number value, rest => by
      rw [unified_number, compactChars, compactChars, value.text_unified]
  | .string _, _ => rfl
  | .array [], _ => rfl
  | .array (item :: items), rest => by
      rw [unified_array, List.map_cons, compactChars, compactChars, compactItems_unified,
        compactChars_unified]
  | .object [], _ => rfl
  | .object ((key, value) :: fields), rest => by
      rw [unified_object, Fields.mapValues_cons, compactChars, compactChars,
        compactFields_unified, compactChars_unified]

theorem compactItems_unified : ∀ (items : List Json) (rest : List Char),
    compactItems (items.map unified) rest = compactItems items rest
  | [], _ => rfl
  | item :: items, rest => by
      rw [List.map_cons, compactItems, compactItems, compactItems_unified, compactChars_unified]

theorem compactFields_unified : ∀ (fields : List (String × Json)) (rest : List Char),
    compactFields (Fields.mapValues (fun _ => unified) fields) rest = compactFields fields rest
  | [], _ => rfl
  | (key, value) :: fields, rest => by
      rw [Fields.mapValues_cons, compactFields, compactFields, compactFields_unified,
        compactChars_unified]

end

@[simp]
theorem compact_unified (value : Json) : value.unified.compact = value.compact := by
  rw [compact, compactChars_unified, compact]

/-- Whether what follows a number cannot be read as part of it. -/
def Stops (rest : List Char) : Prop :=
  ∀ c ∈ rest.head?, isNumberChar c = false

/-- A number ends where its characters do. -/
theorem text_inj {m n : Number} {rest rest' : List Char} (hrest : Stops rest) (hrest' : Stops rest')
    (h : m.text.toList ++ rest = n.text.toList ++ rest') : m.text = n.text ∧ rest = rest' := by
  have htake : ∀ (k : Number) (tail : List Char), Stops tail →
      (k.text.toList ++ tail).takeWhile isNumberChar = k.text.toList := by
    intro k tail htail
    have hall : ∀ c ∈ k.text.toList, isNumberChar c :=
      List.all_eq_true.1 (isNumberText_text k)
    rw [List.takeWhile_append_of_pos hall]
    cases tail with
    | nil => rw [List.takeWhile_nil, List.append_nil]
    | cons c tail =>
        rw [List.takeWhile_cons_of_neg (by simp [htail c rfl]), List.append_nil]
  have htext : m.text.toList = n.text.toList := by
    rw [← htake m rest hrest, h, htake n rest' hrest']
  refine ⟨String.toList_inj.1 htext, ?_⟩
  rw [htext] at h
  exact List.append_cancel_left h

theorem stops_compactItems (items : List Json) (rest : List Char) :
    Stops (compactItems items rest) := by
  intro c hc
  cases items <;> simp only [compactItems, List.head?_cons, Option.mem_some_iff] at hc <;>
    subst hc <;> rfl

theorem stops_compactFields (fields : List (String × Json)) (rest : List Char) :
    Stops (compactFields fields rest) := by
  intro c hc
  rcases fields with _ | ⟨⟨key, value⟩, fields⟩ <;>
    simp only [compactFields, List.head?_cons, Option.mem_some_iff] at hc <;>
    subst hc <;> rfl

/-- The character that a value starts with, unless it is a number. -/
def leadChar? : Json → Option Char
  | .null => some 'n'
  | .bool true => some 't'
  | .bool false => some 'f'
  | .number _ => none
  | .string _ => some '"'
  | .array _ => some '['
  | .object _ => some '{'

theorem leadChar?_eq {value : Json} {rest tail : List Char} {c : Char}
    (h : compactChars value rest = c :: tail) :
    value.leadChar? = if isNumberChar c then none else some c := by
  cases value with
  | number n =>
      have hall := List.all_eq_true.1 (isNumberText_text n)
      cases hchars : n.text.toList with
      | nil => exact absurd hchars (text_ne_nil n)
      | cons d chars =>
          rw [compactChars, hchars, List.cons_append, List.cons.injEq] at h
          rw [hchars] at hall
          rw [← h.1, if_pos (hall d List.mem_cons_self)]
          rfl
  | bool value =>
      cases value <;> simp only [compactChars, List.cons.injEq] at h <;> rw [← h.1] <;> rfl
  | array items =>
      cases items <;> simp only [compactChars, List.cons.injEq] at h <;> rw [← h.1] <;> rfl
  | object fields =>
      rcases fields with _ | ⟨⟨key, value⟩, fields⟩ <;>
        simp only [compactChars, List.cons.injEq] at h <;> rw [← h.1] <;> rfl
  | _ =>
      simp only [compactChars, quoteChars, List.cons.injEq] at h
      rw [← h.1]
      rfl

theorem exists_compactChars_eq_cons (value : Json) (rest : List Char) :
    ∃ c tail, compactChars value rest = c :: tail := by
  cases hchars : compactChars value rest with
  | cons c tail => exact ⟨c, tail, rfl⟩
  | nil =>
      exfalso
      cases value with
      | number n => exact text_ne_nil n (List.append_eq_nil_iff.1 hchars).1
      | bool value => cases value <;> cases hchars
      | array items => cases items <;> cases hchars
      | object fields => rcases fields with _ | ⟨⟨key, value⟩, fields⟩ <;> cases hchars
      | _ => cases hchars

/-- Values with one text start alike. -/
theorem leadChar?_congr {u v : Json} {rest rest' : List Char}
    (h : compactChars u rest = compactChars v rest') : u.leadChar? = v.leadChar? := by
  obtain ⟨c, tail, hu⟩ := exists_compactChars_eq_cons u rest
  rw [leadChar?_eq hu, leadChar?_eq (h ▸ hu)]

/-- No value starts as an array or an object ends. -/
theorem compactChars_ne_close (value : Json) (rest tail : List Char) :
    compactChars value rest ≠ ']' :: tail := by
  intro h
  have hlead := leadChar?_eq h
  cases value with
  | bool value => cases value <;> cases hlead
  | _ => cases hlead

/-- The text of a value, with what follows, tells which value it is and where it ends. -/
def Readable (u : Json) : Prop :=
  ∀ (v : Json) (rest rest' : List Char), Stops rest → Stops rest' →
    compactChars u rest = compactChars v rest' → u.unified = v.unified ∧ rest = rest'

theorem compactItems_inj {items items' : List Json} {rest rest' : List Char}
    (hitems : ∀ item ∈ items, Readable item)
    (h : compactItems items rest = compactItems items' rest') :
    items.map unified = items'.map unified ∧ rest = rest' := by
  induction items generalizing items' with
  | nil =>
      cases items' with
      | nil => exact ⟨rfl, (List.cons.inj h).2⟩
      | cons item' items' => cases (List.cons.inj h).1
  | cons item items ih =>
      cases items' with
      | nil => cases (List.cons.inj h).1
      | cons item' items' =>
          obtain ⟨hitem, htail⟩ := hitems item List.mem_cons_self item' _ _
            (stops_compactItems items rest) (stops_compactItems items' rest') (List.cons.inj h).2
          obtain ⟨hrest, hend⟩ := ih (fun other hother =>
            hitems other (List.mem_cons_of_mem _ hother)) htail
          refine ⟨?_, hend⟩
          rw [List.map_cons, List.map_cons, hitem, hrest]

theorem compactFields_inj {fields fields' : List (String × Json)} {rest rest' : List Char}
    (hfields : ∀ field ∈ fields, Readable field.2)
    (h : compactFields fields rest = compactFields fields' rest') :
    Fields.mapValues (fun _ => unified) fields = Fields.mapValues (fun _ => unified) fields' ∧
      rest = rest' := by
  induction fields generalizing fields' with
  | nil =>
      rcases fields' with _ | ⟨⟨key', value'⟩, fields'⟩
      · exact ⟨rfl, (List.cons.inj h).2⟩
      · cases (List.cons.inj h).1
  | cons field fields ih =>
      obtain ⟨key, value⟩ := field
      rcases fields' with _ | ⟨⟨key', value'⟩, fields'⟩
      · cases (List.cons.inj h).1
      · obtain ⟨rfl, hvalue⟩ := quoteChars_inj (List.cons.inj h).2
        obtain ⟨hfield, htail⟩ := hfields (key, value) List.mem_cons_self value' _ _
          (stops_compactFields fields rest) (stops_compactFields fields' rest')
          (List.cons.inj hvalue).2
        obtain ⟨hrest, hend⟩ := ih (fun other hother =>
          hfields other (List.mem_cons_of_mem _ hother)) htail
        refine ⟨?_, hend⟩
        rw [Fields.mapValues_cons, Fields.mapValues_cons, hfield, hrest]

theorem array_inj {items items' : List Json} {rest rest' : List Char}
    (hitems : ∀ item ∈ items, Readable item)
    (h : compactChars (.array items) rest = compactChars (.array items') rest') :
    (array items).unified = (array items').unified ∧ rest = rest' := by
  cases items with
  | nil =>
      cases items' with
      | nil => exact ⟨rfl, (List.cons.inj (List.cons.inj h).2).2⟩
      | cons item' items' => exact absurd (List.cons.inj h).2.symm (compactChars_ne_close _ _ _)
  | cons item items =>
      cases items' with
      | nil => exact absurd (List.cons.inj h).2 (compactChars_ne_close _ _ _)
      | cons item' items' =>
          have htexts : compactItems (item :: items) rest = compactItems (item' :: items') rest' :=
            congrArg (',' :: ·) (List.cons.inj h).2
          obtain ⟨hunified, hend⟩ := compactItems_inj hitems htexts
          rw [unified_array, unified_array, hunified]
          exact ⟨rfl, hend⟩

theorem object_inj {fields fields' : List (String × Json)} {rest rest' : List Char}
    (hfields : ∀ field ∈ fields, Readable field.2)
    (h : compactChars (.object fields) rest = compactChars (.object fields') rest') :
    (object fields).unified = (object fields').unified ∧ rest = rest' := by
  rcases fields with _ | ⟨⟨key, value⟩, fields⟩ <;>
    rcases fields' with _ | ⟨⟨key', value'⟩, fields'⟩
  · exact ⟨rfl, (List.cons.inj (List.cons.inj h).2).2⟩
  · cases (List.cons.inj (List.cons.inj h).2).1
  · cases (List.cons.inj (List.cons.inj h).2).1
  · have htexts : compactFields ((key, value) :: fields) rest =
        compactFields ((key', value') :: fields') rest' :=
      congrArg (',' :: ·) (List.cons.inj h).2
    obtain ⟨hunified, hend⟩ := compactFields_inj hfields htexts
    rw [unified_object, unified_object, hunified]
    exact ⟨rfl, hend⟩

theorem readable (u : Json) : Readable u := by
  induction u using induction with
  | null =>
      intro v rest rest' _ _ h
      have hlead := leadChar?_congr h
      cases v with
      | null =>
          simp only [compactChars, List.cons.injEq, true_and] at h
          exact ⟨rfl, h⟩
      | bool value => cases value <;> cases hlead
      | _ => cases hlead
  | bool value =>
      intro v rest rest' _ _ h
      have hlead := leadChar?_congr h
      cases v with
      | bool value' =>
          obtain rfl : value = value' := by
            cases value <;> cases value' <;> first | rfl | cases hlead
          cases value <;> simp only [compactChars, List.cons.injEq, true_and] at h <;>
            exact ⟨rfl, h⟩
      | _ => cases value <;> cases hlead
  | number n =>
      intro v rest rest' hrest hrest' h
      have hlead := leadChar?_congr h
      cases v with
      | number m =>
          obtain ⟨htext, hend⟩ := text_inj hrest hrest' h
          exact ⟨congrArg Json.number (Number.unified_eq_iff.2 htext), hend⟩
      | bool value => cases value <;> cases hlead
      | _ => cases hlead
  | string s =>
      intro v rest rest' _ _ h
      have hlead := leadChar?_congr h
      cases v with
      | string t =>
          obtain ⟨rfl, hend⟩ := quoteChars_inj h
          exact ⟨rfl, hend⟩
      | bool value => cases value <;> cases hlead
      | _ => cases hlead
  | array items ih =>
      intro v rest rest' _ _ h
      have hlead := leadChar?_congr h
      cases v with
      | array items' => exact array_inj ih h
      | bool value => cases value <;> cases hlead
      | _ => cases hlead
  | object fields ih =>
      intro v rest rest' _ _ h
      have hlead := leadChar?_congr h
      cases v with
      | object fields' => exact object_inj ih h
      | bool value => cases value <;> cases hlead
      | _ => cases hlead

/-- Two values are written alike iff they differ in nothing but numbers that are written alike. -/
theorem compact_eq_iff {u v : Json} : u.compact = v.compact ↔ u.unified = v.unified := by
  constructor
  · intro h
    have hchars := congrArg String.toList h
    rw [compact, compact, String.toList_ofList, String.toList_ofList] at hchars
    have hstops : Stops [] := fun c hc => by cases hc
    exact (readable u v [] [] hstops hstops hchars).1
  · intro h
    rw [← compact_unified u, h, compact_unified]

end SchemaMerge.Json
