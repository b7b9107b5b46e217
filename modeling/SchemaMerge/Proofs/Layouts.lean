import SchemaMerge.Proofs.JsonText

/-!
Texts with blanks. Both printers set a value out with blanks between its parts, the one with none
and the other with a line for each item and member (`Json.Layout`). Such a text starts with a
character of the value and not with a blank, it is longer than what follows it, and what follows a
part is no part of a number (`Json.Separated`).
-/

namespace SchemaMerge.Json

/-- The blanks of a text: those before what stands at a nesting level, and those between a key and
its value. -/
structure Layout where
  gap : Nat → List Char
  space : List Char
  blank_gap : ∀ level, ∀ c ∈ gap level, isBlank c
  blank_space : ∀ c ∈ space, isBlank c

/-- No blanks at all. -/
def Layout.dense : Layout where
  gap _ := []
  space := []
  blank_gap := by simp
  blank_space := by simp

/-- A line for each item and member, indented by two blanks. -/
def Layout.indented : Layout where
  gap level := lineBreak level []
  space := [' ']
  blank_gap := by simp [lineBreak, isBlank]
  blank_space := by simp [isBlank]

mutual

/-- Writes a value that stands at a nesting level with the blanks of a layout, then `rest`. -/
def layoutChars (layout : Layout) (level : Nat) : Json → List Char → List Char
  | .array (item :: items), rest =>
      '[' :: (layout.gap (level + 1) ++
        layoutChars layout (level + 1) item (layoutItems layout level items rest))
  | .object ((key, value) :: fields), rest =>
      '{' :: (layout.gap (level + 1) ++ quoteChars key (':' :: (layout.space ++
        layoutChars layout (level + 1) value (layoutFields layout level fields rest))))
  | value, rest => compactChars value rest

/-- Writes the remaining items of an array and closes it. -/
def layoutItems (layout : Layout) (level : Nat) : List Json → List Char → List Char
  | [], rest => layout.gap level ++ ']' :: rest
  | item :: items, rest =>
      ',' :: (layout.gap (level + 1) ++
        layoutChars layout (level + 1) item (layoutItems layout level items rest))

/-- Writes the remaining members of an object and closes it. -/
def layoutFields (layout : Layout) (level : Nat) : List (String × Json) → List Char → List Char
  | [], rest => layout.gap level ++ '}' :: rest
  | (key, value) :: fields, rest =>
      ',' :: (layout.gap (level + 1) ++ quoteChars key (':' :: (layout.space ++
        layoutChars layout (level + 1) value (layoutFields layout level fields rest))))

end

mutual

theorem layoutChars_dense : ∀ (level : Nat) (value : Json) (rest : List Char),
    layoutChars .dense level value rest = compactChars value rest
  | _, .null, _ => rfl
  | _, .bool _, _ => rfl
  | _, .number _, _ => rfl
  | _, .string _, _ => rfl
  | _, .array [], _ => rfl
  | level, .array (item :: items), rest => by
      rw [layoutChars, compactChars, layoutItems_dense, layoutChars_dense]
      rfl
  | _, .object [], _ => rfl
  | level, .object ((key, value) :: fields), rest => by
      rw [layoutChars, compactChars, layoutFields_dense, layoutChars_dense]
      rfl

theorem layoutItems_dense : ∀ (level : Nat) (items : List Json) (rest : List Char),
    layoutItems .dense level items rest = compactItems items rest
  | _, [], _ => rfl
  | level, item :: items, rest => by
      rw [layoutItems, compactItems, layoutItems_dense, layoutChars_dense]
      rfl

theorem layoutFields_dense : ∀ (level : Nat) (fields : List (String × Json)) (rest : List Char),
    layoutFields .dense level fields rest = compactFields fields rest
  | _, [], _ => rfl
  | level, (key, value) :: fields, rest => by
      rw [layoutFields, compactFields, layoutFields_dense, layoutChars_dense]
      rfl

end

theorem gap_indented (level : Nat) (rest : List Char) :
    Layout.indented.gap level ++ rest = lineBreak level rest := by
  simp [Layout.indented, lineBreak]

mutual

theorem layoutChars_indented : ∀ (level : Nat) (value : Json) (rest : List Char),
    layoutChars .indented level value rest = prettyChars level value rest
  | _, .null, _ => rfl
  | _, .bool _, _ => rfl
  | _, .number _, _ => rfl
  | _, .string _, _ => rfl
  | _, .array [], _ => rfl
  | level, .array (item :: items), rest => by
      rw [layoutChars, prettyChars, layoutItems_indented, layoutChars_indented, gap_indented]
  | _, .object [], _ => rfl
  | level, .object ((key, value) :: fields), rest => by
      rw [layoutChars, prettyChars, layoutFields_indented, layoutChars_indented, gap_indented]
      rfl

theorem layoutItems_indented : ∀ (level : Nat) (items : List Json) (rest : List Char),
    layoutItems .indented level items rest = prettyItems level items rest
  | level, [], rest => by rw [layoutItems, prettyItems, gap_indented]
  | level, item :: items, rest => by
      rw [layoutItems, prettyItems, layoutItems_indented, layoutChars_indented, gap_indented]

theorem layoutFields_indented : ∀ (level : Nat) (fields : List (String × Json)) (rest : List Char),
    layoutFields .indented level fields rest = prettyFields level fields rest
  | level, [], rest => by rw [layoutFields, prettyFields, gap_indented]
  | level, (key, value) :: fields, rest => by
      rw [layoutFields, prettyFields, layoutFields_indented, layoutChars_indented, gap_indented]
      rfl

end

/-- Whether a character may follow a value. -/
def separates (c : Char) : Bool :=
  isBlank c || c ∈ [',', ']', '}']

/-- What follows is no part of a value. -/
def Separated (rest : List Char) : Prop :=
  ∀ c ∈ rest.head?, separates c

theorem separated_append {blanks : List Char} (hblanks : ∀ c ∈ blanks, isBlank c) {c : Char}
    (hc : separates c) (rest : List Char) : Separated (blanks ++ c :: rest) := by
  intro d hd
  cases blanks with
  | nil =>
      cases hd
      exact hc
  | cons blank blanks =>
      cases hd
      rw [separates, hblanks _ List.mem_cons_self, Bool.true_or]

theorem separated_layoutItems (layout : Layout) (level : Nat) (items : List Json)
    (rest : List Char) : Separated (layoutItems layout level items rest) := by
  cases items with
  | nil => exact separated_append (layout.blank_gap level) rfl rest
  | cons item items =>
      intro c hc
      cases hc
      rfl

theorem separated_layoutFields (layout : Layout) (level : Nat) (fields : List (String × Json))
    (rest : List Char) : Separated (layoutFields layout level fields rest) := by
  cases fields with
  | nil => exact separated_append (layout.blank_gap level) rfl rest
  | cons field fields =>
      intro c hc
      cases hc
      rfl

/-- A character that follows a value is part of no number. -/
theorem notNumber_of_separates {c : Char} (h : separates c) :
    c.isDigit = false ∧ c ≠ '.' ∧ c ≠ 'e' ∧ c ≠ 'E' := by
  have hcases : c ∈ [' ', '\t', '\n', '\r', ',', ']', '}'] := by
    simpa [separates, isBlank, or_assoc] using h
  simp only [List.mem_cons, List.not_mem_nil, or_false] at hcases
  rcases hcases with rfl | rfl | rfl | rfl | rfl | rfl | rfl <;> decide

theorem skipBlanks_append {blanks : List Char} (h : ∀ c ∈ blanks, isBlank c) (text : List Char) :
    skipBlanks (blanks ++ text) = skipBlanks text :=
  List.dropWhile_append_of_pos h

theorem skipBlanks_cons {c : Char} (h : isBlank c = false) (text : List Char) :
    skipBlanks (c :: text) = c :: text :=
  List.dropWhile_cons_of_neg (by simp [h])

theorem length_lt_quoteChars (s : String) (rest : List Char) :
    rest.length < (quoteChars s rest).length := by
  have hfold : ∀ chars : List Char, rest.length <
      (chars.foldr (fun c acc => escapeChar c ++ acc) ('"' :: rest)).length := by
    intro chars
    induction chars with
    | nil => exact Nat.lt_succ_self _
    | cons c chars ih =>
        rw [List.foldr_cons, List.length_append]
        omega
  exact Nat.lt_succ_of_lt (hfold s.toList)

section Length

variable (layout : Layout)

mutual

theorem length_lt_layoutChars : ∀ (level : Nat) (value : Json) (rest : List Char),
    rest.length < (layoutChars layout level value rest).length
  | _, .null, rest => by
      show rest.length < rest.length + 4
      omega
  | _, .bool true, rest => by
      show rest.length < rest.length + 4
      omega
  | _, .bool false, rest => by
      show rest.length < rest.length + 5
      omega
  | _, .number value, rest => by
      have hpos := List.length_pos_iff.2 (text_ne_nil value)
      rw [layoutChars, compactChars, List.length_append]
      · omega
      all_goals nofun
  | _, .string value, rest => length_lt_quoteChars value rest
  | _, .array [], rest => by
      show rest.length < rest.length + 2
      omega
  | level, .array (item :: items), rest => length_lt_layoutItems level (item :: items) rest
  | _, .object [], rest => by
      show rest.length < rest.length + 2
      omega
  | level, .object (field :: fields), rest => length_lt_layoutFields level (field :: fields) rest

theorem length_lt_layoutItems : ∀ (level : Nat) (items : List Json) (rest : List Char),
    rest.length < (layoutItems layout level items rest).length
  | _, [], rest => by
      rw [layoutItems, List.length_append, List.length_cons]
      omega
  | level, item :: items, rest => by
      have hitems := length_lt_layoutItems level items rest
      have hitem := length_lt_layoutChars (level + 1) item (layoutItems layout level items rest)
      rw [layoutItems, List.length_cons, List.length_append]
      omega

theorem length_lt_layoutFields : ∀ (level : Nat) (fields : List (String × Json))
    (rest : List Char), rest.length < (layoutFields layout level fields rest).length
  | _, [], rest => by
      rw [layoutFields, List.length_append, List.length_cons]
      omega
  | level, (key, value) :: fields, rest => by
      have hfields := length_lt_layoutFields level fields rest
      have hvalue := length_lt_layoutChars (level + 1) value
        (layoutFields layout level fields rest)
      have hkey := length_lt_quoteChars key (':' :: (layout.space ++
        layoutChars layout (level + 1) value (layoutFields layout level fields rest)))
      rw [List.length_cons, List.length_append] at hkey
      rw [layoutFields, List.length_cons, List.length_append]
      omega

end

end Length

/-- A text starts with a character of the value, which ends no array. -/
theorem exists_layoutChars_eq_cons (layout : Layout) (level : Nat) (value : Json)
    (rest : List Char) :
    ∃ c tail, layoutChars layout level value rest = c :: tail ∧ isBlank c = false ∧ c ≠ ']' := by
  cases value with
  | null => exact ⟨'n', _, rfl, rfl, by decide⟩
  | bool value =>
      cases value
      · exact ⟨'f', _, rfl, rfl, by decide⟩
      · exact ⟨'t', _, rfl, rfl, by decide⟩
  | number value =>
      cases hchars : value.text.toList with
      | nil => exact absurd hchars (text_ne_nil value)
      | cons c tail =>
          have hnumber : isNumberChar c :=
            List.all_eq_true.1 (isNumberText_text value) c (hchars ▸ List.mem_cons_self)
          have hall : [' ', '\t', '\n', '\r', ']'].all fun d => !isNumberChar d := by decide
          have hne : ∀ d ∈ [' ', '\t', '\n', '\r', ']'], c ≠ d := by
            rintro d hd rfl
            have hother := List.all_eq_true.1 hall c hd
            rw [hnumber] at hother
            cases hother
          have htext : layoutChars layout level (.number value) rest = c :: (tail ++ rest) :=
            congrArg (· ++ rest) hchars
          refine ⟨c, tail ++ rest, htext, ?_, hne _ (by decide)⟩
          simp only [List.mem_cons, List.not_mem_nil, or_false, forall_eq_or_imp, forall_eq] at hne
          simp [isBlank, hne]
  | string value => exact ⟨'"', _, rfl, rfl, by decide⟩
  | array items => cases items <;> exact ⟨'[', _, rfl, rfl, by decide⟩
  | object fields => cases fields <;> exact ⟨'{', _, rfl, rfl, by decide⟩

end SchemaMerge.Json
