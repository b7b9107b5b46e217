import SchemaMerge.Proofs.Layouts
import SchemaMerge.Proofs.ResolvedWays
import SchemaMerge.Proofs.SameValues

/-!
What the printers write is read back. The reader takes from a text in any layout the value with the
members of its objects in order, if its numbers are integers of 64 bits and not too many arrays and
objects stand inside each other (`Json.read?_layoutChars`, `Json.read?_compact`,
`Json.read?_pretty`). A text holds enough characters for the steps of the reader.
-/

namespace SchemaMerge.Json

/-- Blanks before a value are skipped. -/
theorem readTree_append {blanks : List Char} (h : ∀ c ∈ blanks, isBlank c) (fuel nesting : Nat)
    (text : List Char) : readTree fuel nesting (blanks ++ text) = readTree fuel nesting text := by
  cases fuel with
  | zero => rfl
  | succ fuel => rw [readTree, readTree, skipBlanks_append h]

/-- The pieces of a written string stand for its characters. -/
theorem decodePieces_writtenPiece (acc chars : List Char) :
    decodePieces acc (chars.map writtenPiece) = some (acc.reverse ++ chars) := by
  induction chars generalizing acc with
  | nil => simp [decodePieces]
  | cons c chars ih =>
      rw [List.map_cons, writtenPiece, decodePieces.eq_def]
      split_ifs with hunit
      · dsimp only
        rw [if_pos (by omega), Char.ofNat_toNat, ih, List.reverse_cons, List.append_assoc]
        rfl
      · dsimp only
        rw [ih, List.reverse_cons, List.append_assoc]
        rfl

theorem pieceString?_writtenPiece (s : String) :
    pieceString? (s.toList.map writtenPiece) = some s := by
  rw [pieceString?, decodePieces_writtenPiece]
  simp

/-- A quoted string is read back with what follows it. -/
theorem readPieces_quoteChars (s : String) (rest : List Char) :
    ∃ tail, quoteChars s rest = '"' :: tail ∧
      readPieces [] tail = some (s.toList.map writtenPiece, rest) :=
  ⟨_, rfl, readPieces_quoted [] s.toList rest⟩

/-- The value of a digit. -/
def digitValue (c : Char) : Nat :=
  c.toNat - '0'.toNat

theorem takeDigits_append {digits rest : List Char} (hdigits : ∀ c ∈ digits, c.isDigit)
    (hrest : Separated rest) :
    takeDigits (digits ++ rest) = (digits.map digitValue, rest) := by
  have hnone : rest.takeWhile Char.isDigit = [] ∧ rest.dropWhile Char.isDigit = rest := by
    cases rest with
    | nil => exact ⟨rfl, rfl⟩
    | cons c rest =>
        have hc := (notNumber_of_separates (hrest c rfl)).1
        exact ⟨List.takeWhile_cons_of_neg (by simp [hc]), List.dropWhile_cons_of_neg (by simp [hc])⟩
  rw [takeDigits, List.takeWhile_append_of_pos hdigits, List.dropWhile_append_of_pos hdigits,
    hnone.1, hnone.2, List.append_nil]
  rfl

/-- Digits below the bound are all taken into the significand. -/
theorem appendDigits_map {digits : List Char} {significand : Nat}
    (h : Nat.ofDigitChars 10 digits significand < UInt64.size) :
    appendDigits significand (digits.map digitValue) =
      (Nat.ofDigitChars 10 digits significand, []) := by
  induction digits generalizing significand with
  | nil => rfl
  | cons c digits ih =>
      rw [Nat.ofDigitChars_cons, Nat.mul_comm] at h ⊢
      have hnext := Nat.lt_of_le_of_lt (Text.le_ofDigitChars digits _) h
      rw [List.map_cons, appendDigits, digitValue, if_pos hnext, ih h]

/-- The digits of a positive number do not start with a zero. -/
theorem toDigits_head_ne {n : Nat} (h : 0 < n) : (Nat.toDigits 10 n).head? ≠ some '0' := by
  induction n using Nat.strongRecOn with
  | ind n ih =>
      by_cases hsmall : n < 10
      · have hall : ∀ m < 10, 0 < m → Nat.digitChar m ≠ '0' := by decide
        rw [Nat.toDigits_of_lt_base hsmall, List.head?_cons]
        exact fun heq => hall n hsmall h (Option.some.inj heq)
      · have hhead := ih (n / 10) (by omega) (by omega)
        rw [Nat.toDigits_of_base_le (by decide) (by omega),
          List.head?_append_of_ne_nil _ Nat.toDigits_ne_nil]
        exact hhead

theorem digitValue_eq_zero {c : Char} (hdigit : c.isDigit) (h : digitValue c = 0) : c = '0' := by
  have hrange := Char.isDigit_iff_toNat.1 hdigit
  have hzero : '0'.toNat = 48 := rfl
  rw [digitValue, hzero] at h
  exact Char.toNat_inj.1 (by omega)

/-- The literal that a natural number is written as. -/
def natLiteral (negative : Bool) (n : Nat) : NumberLiteral :=
  ⟨negative, (Nat.toDigits 10 n).map digitValue, none, none⟩

theorem readNumber?_toDigits (negative : Bool) (n : Nat) {rest : List Char}
    (hrest : Separated rest) :
    readNumber? negative (Nat.toDigits 10 n ++ rest) = some (natLiteral negative n, rest) := by
  have hdigits : ∀ c ∈ Nat.toDigits 10 n, c.isDigit := fun c =>
    Nat.isDigit_of_mem_toDigits (by decide) (by decide)
  have htake := takeDigits_append hdigits hrest
  have htaken : takeDigits1? (Nat.toDigits 10 n ++ rest) =
      some ((Nat.toDigits 10 n).map digitValue, rest) := by
    rw [takeDigits1?, htake]
    split
    case h_1 heq => simp at heq
    case h_2 => rfl
  have hzero : ¬(((Nat.toDigits 10 n).map digitValue).head? = some 0 ∧
      1 < ((Nat.toDigits 10 n).map digitValue).length) := by
    rintro ⟨hhead, hlength⟩
    rw [List.length_map] at hlength
    rw [List.head?_map, Option.map_eq_some_iff] at hhead
    obtain ⟨c, hc, hvalue⟩ := hhead
    have hchar := digitValue_eq_zero (hdigits c (List.mem_of_mem_head? hc)) hvalue
    rcases Nat.eq_zero_or_pos n with rfl | hpos
    · simp at hlength
    · exact toDigits_head_ne hpos (hchar ▸ hc)
  have hfraction : readFraction? rest = some (none, rest) := by
    rw [readFraction?.eq_def]
    split
    case h_1 => exact absurd rfl (notNumber_of_separates (hrest _ rfl)).2.1
    case h_2 => rfl
  have hexponent : readExponent? rest = some (none, rest) := by
    cases rest with
    | nil => rfl
    | cons c rest =>
        obtain ⟨-, -, hlower, hupper⟩ := notNumber_of_separates (hrest c rfl)
        rw [readExponent?.eq_def]
        exact if_neg (by simp [hlower, hupper])
  rw [readNumber?, htaken, Option.bind_eq_bind, Option.bind_some]
  dsimp only
  rw [if_neg hzero, hfraction, Option.bind_eq_bind, Option.bind_some]
  dsimp only
  rw [hexponent]
  rfl

theorem ofLiteral?_natLiteral {n : Nat} (h : n < UInt64.size) :
    Number.ofLiteral? (natLiteral false n) = some (.integer n) := by
  have hvalue : Nat.ofDigitChars 10 (Nat.toDigits 10 n) 0 = n := Nat.ofDigitChars_ten_toDigits
  have hdigits := appendDigits_map (hvalue.symm ▸ h)
  rw [hvalue] at hdigits
  rw [Number.ofLiteral?, natLiteral, hdigits]
  rfl

theorem ofLiteral?_natLiteral_neg {n : Nat} (hpos : 0 < n) (h : n ≤ Nat.pow 2 63) :
    Number.ofLiteral? (natLiteral true n) = some (.integer (-(n : Int))) := by
  have hlt : n < UInt64.size := Nat.lt_of_le_of_lt h (by decide)
  have hvalue : Nat.ofDigitChars 10 (Nat.toDigits 10 n) 0 = n := Nat.ofDigitChars_ten_toDigits
  have hdigits := appendDigits_map (hvalue.symm ▸ hlt)
  rw [hvalue] at hdigits
  rw [Number.ofLiteral?, natLiteral, hdigits]
  dsimp only
  rw [if_pos List.isEmpty_nil, if_neg (by decide), if_neg (by omega), if_pos h]

/-- A text that starts with a digit is read as a number. -/
theorem readTree_digit {c : Char} (h : c.isDigit) (fuel nesting : Nat) (tail : List Char) :
    readTree (fuel + 1) nesting (c :: tail) =
      (readNumber? false (c :: tail)).map fun (literal, rest) => (.number literal, rest) := by
  have hblank : isBlank c = false := by
    rw [← Bool.not_eq_true]
    intro hc
    have hsep := (notNumber_of_separates (c := c) (by rw [separates, hc, Bool.true_or])).1
    rw [h] at hsep
    cases hsep
  have hne : ∀ d ∈ ['n', 't', 'f', '"', '-', '[', '{'], c ≠ d := by
    rintro d hd rfl
    have hall : ['n', 't', 'f', '"', '-', '[', '{'].all fun e => !e.isDigit := by decide
    have hother := List.all_eq_true.1 hall c hd
    rw [h] at hother
    cases hother
  rw [readTree, skipBlanks_cons hblank]
  split
  case h_8 => rfl
  all_goals
    rename_i heq
    exact absurd (List.cons.inj heq).1 (hne _ (by decide))

theorem readTree_minus (fuel nesting : Nat) (tail : List Char) :
    readTree (fuel + 1) nesting ('-' :: tail) =
      (readNumber? true tail).map fun (literal, rest) => (.number literal, rest) := rfl

theorem readTree_quote (fuel nesting : Nat) (tail : List Char) :
    readTree (fuel + 1) nesting ('"' :: tail) =
      (readPieces [] tail).map fun (pieces, rest) => (.string pieces, rest) := rfl

/-- An integer of 64 bits is read back. -/
theorem readTree_integer {value : Int} (hlower : -(Nat.pow 2 63 : Int) ≤ value)
    (hupper : value < UInt64.size) (fuel nesting : Nat) {rest : List Char}
    (hrest : Separated rest) :
    ∃ literal, readTree (fuel + 1) nesting ((toString value).toList ++ rest) =
        some (.number literal, rest) ∧
      Number.ofLiteral? literal = some (.integer value) := by
  cases value with
  | ofNat n =>
      refine ⟨natLiteral false n, ?_, ofLiteral?_natLiteral (Int.ofNat_lt.1 hupper)⟩
      have htext : (toString (Int.ofNat n)).toList = Nat.toDigits 10 n := Nat.toList_repr
      have hread := readNumber?_toDigits false n hrest
      rw [htext]
      cases hdigits : Nat.toDigits 10 n with
      | nil => exact absurd hdigits Nat.toDigits_ne_nil
      | cons c digits =>
          have hdigit : c.isDigit := Nat.isDigit_of_mem_toDigits (b := 10) (n := n) (by decide)
            (by decide) (hdigits ▸ List.mem_cons_self)
          rw [hdigits, List.cons_append] at hread
          rw [List.cons_append, readTree_digit hdigit, hread]
          rfl
  | negSucc n =>
      refine ⟨natLiteral true (n + 1), ?_, ?_⟩
      · have htext : (toString (Int.negSucc n)).toList = '-' :: Nat.toDigits 10 (n + 1) := by
          have happend : toString (Int.negSucc n) = "-" ++ toString (n + 1) := rfl
          rw [happend, String.toList_append]
          exact congrArg _ Nat.toList_repr
        rw [htext, List.cons_append, readTree_minus, readNumber?_toDigits true (n + 1) hrest]
        rfl
      · exact ofLiteral?_natLiteral_neg (Nat.succ_pos n) (by omega)

/-- Numbers are integers of 64 bits, and at most `nesting` arrays and objects stand inside each
other. -/
inductive Fits : Nat → Json → Prop where
  | null {nesting : Nat} : Fits nesting .null
  | bool {nesting : Nat} (value : Bool) : Fits nesting (.bool value)
  | integer {nesting : Nat} {value : Int} (hlower : -(Nat.pow 2 63 : Int) ≤ value)
      (hupper : value < UInt64.size) : Fits nesting (.number (.integer value))
  | string {nesting : Nat} (value : String) : Fits nesting (.string value)
  | array {nesting : Nat} {items : List Json} (h : ∀ item ∈ items, Fits nesting item) :
      Fits (nesting + 1) (.array items)
  | object {nesting : Nat} {fields : List (String × Json)}
      (h : ∀ field ∈ fields, Fits nesting field.2) : Fits (nesting + 1) (.object fields)

@[simp]
theorem fits_array_iff {nesting : Nat} {items : List Json} :
    Fits (nesting + 1) (.array items) ↔ ∀ item ∈ items, Fits nesting item := by
  constructor
  · intro h
    cases h with
    | array hitems => exact hitems
  · exact .array

@[simp]
theorem fits_object_iff {nesting : Nat} {fields : List (String × Json)} :
    Fits (nesting + 1) (.object fields) ↔ ∀ field ∈ fields, Fits nesting field.2 := by
  constructor
  · intro h
    cases h with
    | object hfields => exact hfields
  · exact .object

/-- The reader takes the value from its text, with a step for every half of a character. -/
def ReadsBack (layout : Layout) (nesting : Nat) (value : Json) : Prop :=
  ∀ (level fuel : Nat) (rest : List Char), Separated rest →
    2 * (layoutChars layout level value rest).length ≤ fuel + 2 * rest.length →
      ∃ tree, readTree fuel nesting (layoutChars layout level value rest) = some (tree, rest) ∧
        tree.value? = some value.inOrder

theorem readItems_append {blanks : List Char} (h : ∀ c ∈ blanks, isBlank c) (fuel nesting : Nat)
    (text : List Char) : readItems fuel nesting (blanks ++ text) = readItems fuel nesting text := by
  cases fuel with
  | zero => rfl
  | succ fuel => rw [readItems, readItems, readTree_append h]

theorem readMembers_append {blanks : List Char} (h : ∀ c ∈ blanks, isBlank c) (fuel nesting : Nat)
    (text : List Char) :
    readMembers fuel nesting (blanks ++ text) = readMembers fuel nesting text := by
  cases fuel with
  | zero => rfl
  | succ fuel => rw [readMembers, readMembers, skipBlanks_append h]

section Steps

variable {fuel nesting : Nat} {text colon after more rest : List Char} {pieces : List Piece}
  {tree : Tree}

theorem readItems_last (htree : readTree fuel nesting text = some (tree, after))
    (hafter : skipBlanks after = ']' :: rest) :
    readItems (fuel + 1) nesting text = some ([tree], rest) := by
  simp [readItems, htree, hafter]

theorem readItems_more {trees : List Tree}
    (htree : readTree fuel nesting text = some (tree, after))
    (hafter : skipBlanks after = ',' :: more)
    (hmore : readItems fuel nesting more = some (trees, rest)) :
    readItems (fuel + 1) nesting text = some (tree :: trees, rest) := by
  simp [readItems, htree, hafter, hmore]

theorem readMembers_last (hkey : readPieces [] text = some (pieces, ':' :: colon))
    (htree : readTree fuel nesting colon = some (tree, after))
    (hafter : skipBlanks after = '}' :: rest) :
    readMembers (fuel + 1) nesting ('"' :: text) = some ([(pieces, tree)], rest) := by
  simp [readMembers, skipBlanks_cons, isBlank, hkey, htree, hafter]

theorem readMembers_more {members : List (List Piece × Tree)}
    (hkey : readPieces [] text = some (pieces, ':' :: colon))
    (htree : readTree fuel nesting colon = some (tree, after))
    (hafter : skipBlanks after = ',' :: more)
    (hmore : readMembers fuel nesting more = some (members, rest)) :
    readMembers (fuel + 1) nesting ('"' :: text) = some ((pieces, tree) :: members, rest) := by
  simp [readMembers, skipBlanks_cons, isBlank, hkey, htree, hafter, hmore]

theorem readTree_array {trees : List Tree} (htext : ∀ tail, skipBlanks text ≠ ']' :: tail)
    (hitems : readItems fuel nesting (skipBlanks text) = some (trees, rest)) :
    readTree (fuel + 1) (nesting + 1) ('[' :: text) = some (.array trees, rest) := by
  rw [readTree, skipBlanks_cons rfl]
  simp [hitems]

theorem readTree_object {members : List (List Piece × Tree)}
    (htext : skipBlanks text = '"' :: more)
    (hmembers : readMembers fuel nesting ('"' :: more) = some (members, rest)) :
    readTree (fuel + 1) (nesting + 1) ('{' :: text) = some (.object members, rest) := by
  rw [readTree, skipBlanks_cons rfl]
  simp [htext, hmembers]

end Steps

section Containers

variable {layout : Layout} {nesting level fuel : Nat} {rest : List Char}

/-- One part of an array or an object is read, which leaves steps enough for what stands after it up
to `rest`. -/
theorem ReadsBack.exists_step {value : Json} (h : ReadsBack layout nesting value)
    {after : List Char} (hafter : Separated after) (hrest : rest.length < after.length)
    (hfuel : 2 * (layoutChars layout level value after).length ≤ fuel + 2 * rest.length) :
    ∃ steps tree, fuel = steps + 1 ∧ 2 * after.length ≤ steps + 2 * rest.length ∧
      readTree steps nesting (layoutChars layout level value after) = some (tree, after) ∧
      tree.value? = some value.inOrder := by
  have hlt := length_lt_layoutChars layout level value after
  obtain ⟨tree, htree, hvalue⟩ := h level (fuel - 1) after hafter (by omega)
  exact ⟨fuel - 1, tree, by omega, by omega, htree, hvalue⟩

/-- The items of an array are read back up to its closing bracket. -/
theorem readItems_layoutItems {item : Json} {items : List Json}
    (h : ∀ other ∈ item :: items, ReadsBack layout nesting other)
    (hfuel : 2 * (layoutChars layout (level + 1) item
      (layoutItems layout level items rest)).length ≤ fuel + 2 * rest.length) :
    ∃ trees, readItems fuel nesting (layoutChars layout (level + 1) item
        (layoutItems layout level items rest)) = some (trees, rest) ∧
      Tree.itemValues? trees = some ((item :: items).map inOrder) := by
  induction items generalizing item fuel with
  | nil =>
      obtain ⟨steps, tree, rfl, -, htree, hvalue⟩ := (h item List.mem_cons_self).exists_step
        (separated_layoutItems layout level [] rest) (length_lt_layoutItems layout level [] rest)
        hfuel
      refine ⟨[tree], readItems_last htree ?_, ?_⟩
      · rw [layoutItems, skipBlanks_append (layout.blank_gap level), skipBlanks_cons rfl]
      · rw [Tree.itemValues?, hvalue]
        rfl
  | cons next items ih =>
      obtain ⟨steps, tree, rfl, hsteps, htree, hvalue⟩ := (h item List.mem_cons_self).exists_step
        (separated_layoutItems layout level (next :: items) rest)
        (length_lt_layoutItems layout level (next :: items) rest) hfuel
      rw [layoutItems, List.length_cons, List.length_append] at hsteps
      have hnext : 2 * (layoutChars layout (level + 1) next
          (layoutItems layout level items rest)).length ≤ steps + 2 * rest.length := by omega
      obtain ⟨trees, htrees, hvalues⟩ :=
        ih (fun other hother => h other (List.mem_cons_of_mem _ hother)) hnext
      rw [← readItems_append (layout.blank_gap (level + 1))] at htrees
      refine ⟨tree :: trees, readItems_more htree ?_ htrees, ?_⟩
      · rw [layoutItems, skipBlanks_cons rfl]
      · rw [Tree.itemValues?, hvalue, hvalues]
        rfl

/-- The same for a member of an object, with its key. -/
theorem ReadsBack.exists_member {value : Json} (h : ReadsBack layout nesting value) {key : String}
    {after : List Char} (hafter : Separated after) (hrest : rest.length < after.length)
    (hfuel : 2 * (quoteChars key (':' :: (layout.space ++
      layoutChars layout level value after))).length ≤ fuel + 2 * rest.length) :
    ∃ steps tree tail colon, fuel = steps + 1 ∧ 2 * after.length ≤ steps + 2 * rest.length ∧
      quoteChars key (':' :: (layout.space ++ layoutChars layout level value after)) =
        '"' :: tail ∧
      readPieces [] tail = some (key.toList.map writtenPiece, ':' :: colon) ∧
      readTree steps nesting colon = some (tree, after) ∧ tree.value? = some value.inOrder := by
  have hlength := length_lt_quoteChars key (':' :: (layout.space ++
    layoutChars layout level value after))
  rw [List.length_cons, List.length_append] at hlength
  have hvalueFuel : 2 * (layoutChars layout level value after).length ≤ fuel + 2 * rest.length := by
    omega
  obtain ⟨steps, tree, hfuel, hsteps, htree, hvalue⟩ := h.exists_step hafter hrest hvalueFuel
  obtain ⟨tail, hquote, hpieces⟩ := readPieces_quoteChars key (':' :: (layout.space ++
    layoutChars layout level value after))
  rw [← readTree_append layout.blank_space] at htree
  exact ⟨steps, tree, tail, _, hfuel, hsteps, hquote, hpieces, htree, hvalue⟩

/-- The members of an object are read back up to its closing brace. -/
theorem readMembers_layoutFields {key : String} {value : Json} {fields : List (String × Json)}
    (h : ∀ field ∈ (key, value) :: fields, ReadsBack layout nesting field.2)
    (hfuel : 2 * (quoteChars key (':' :: (layout.space ++ layoutChars layout (level + 1) value
      (layoutFields layout level fields rest)))).length ≤ fuel + 2 * rest.length) :
    ∃ trees, readMembers fuel nesting (quoteChars key (':' :: (layout.space ++
        layoutChars layout (level + 1) value (layoutFields layout level fields rest)))) =
          some (trees, rest) ∧
      Tree.memberValues? trees =
        some (Fields.mapValues (fun _ => inOrder) ((key, value) :: fields)) := by
  have hmember : ReadsBack layout nesting value := h _ List.mem_cons_self
  induction fields generalizing key value fuel with
  | nil =>
      obtain ⟨steps, tree, tail, colon, rfl, -, hquote, hkey, htree, hvalue⟩ :=
        hmember.exists_member (separated_layoutFields layout level [] rest)
          (length_lt_layoutFields layout level [] rest) hfuel
      refine ⟨[(key.toList.map writtenPiece, tree)], ?_, ?_⟩
      · rw [hquote]
        refine readMembers_last hkey htree ?_
        rw [layoutFields, skipBlanks_append (layout.blank_gap level), skipBlanks_cons rfl]
      · rw [Tree.memberValues?, pieceString?_writtenPiece, hvalue]
        rfl
  | cons field fields ih =>
      obtain ⟨nextKey, next⟩ := field
      obtain ⟨steps, tree, tail, colon, rfl, hsteps, hquote, hkey, htree, hvalue⟩ :=
        hmember.exists_member
          (separated_layoutFields layout level ((nextKey, next) :: fields) rest)
          (length_lt_layoutFields layout level ((nextKey, next) :: fields) rest) hfuel
      rw [layoutFields, List.length_cons, List.length_append] at hsteps
      have hnext : 2 * (quoteChars nextKey (':' :: (layout.space ++ layoutChars layout (level + 1)
          next (layoutFields layout level fields rest)))).length ≤ steps + 2 * rest.length := by
        omega
      obtain ⟨trees, htrees, hvalues⟩ :=
        ih (fun other hother => h other (List.mem_cons_of_mem _ hother)) hnext
          (h (nextKey, next) (List.mem_cons_of_mem _ List.mem_cons_self))
      rw [← readMembers_append (layout.blank_gap (level + 1))] at htrees
      refine ⟨(key.toList.map writtenPiece, tree) :: trees, ?_, ?_⟩
      · rw [hquote]
        refine readMembers_more hkey htree ?_ htrees
        rw [layoutFields, skipBlanks_cons rfl]
      · rw [Tree.memberValues?, pieceString?_writtenPiece, hvalue, hvalues]
        rfl

end Containers

/-- It is enough to read with at least one step. -/
theorem ReadsBack.of_succ {layout : Layout} {nesting : Nat} {value : Json}
    (h : ∀ (level fuel : Nat) (rest : List Char), Separated rest →
      2 * (layoutChars layout level value rest).length ≤ fuel + 1 + 2 * rest.length →
        ∃ tree, readTree (fuel + 1) nesting (layoutChars layout level value rest) =
            some (tree, rest) ∧ tree.value? = some value.inOrder) :
    ReadsBack layout nesting value := by
  intro level fuel rest hrest hfuel
  have hlt := length_lt_layoutChars layout level value rest
  obtain ⟨steps, rfl⟩ : ∃ steps, fuel = steps + 1 := ⟨fuel - 1, by omega⟩
  exact h level steps rest hrest hfuel

theorem ReadsBack.array {layout : Layout} {nesting : Nat} {items : List Json}
    (h : ∀ item ∈ items, ReadsBack layout nesting item) :
    ReadsBack layout (nesting + 1) (.array items) := by
  refine .of_succ fun level fuel rest _ hfuel => ?_
  cases items with
  | nil => exact ⟨.array [], rfl, rfl⟩
  | cons item items =>
      obtain ⟨c, tail, htext, hblank, hne⟩ := exists_layoutChars_eq_cons layout (level + 1)
        item (layoutItems layout level items rest)
      have hskip : skipBlanks (layout.gap (level + 1) ++ layoutChars layout (level + 1) item
          (layoutItems layout level items rest)) = layoutChars layout (level + 1) item
            (layoutItems layout level items rest) := by
        rw [skipBlanks_append (layout.blank_gap _), htext, skipBlanks_cons hblank]
      rw [layoutChars, List.length_cons, List.length_append] at hfuel
      have hitems : 2 * (layoutChars layout (level + 1) item
          (layoutItems layout level items rest)).length ≤ fuel + 2 * rest.length := by omega
      obtain ⟨trees, htrees, hvalues⟩ := readItems_layoutItems h hitems
      refine ⟨.array trees, ?_, ?_⟩
      · rw [layoutChars]
        refine readTree_array (fun other heq => ?_) (hskip.symm ▸ htrees)
        rw [hskip, htext] at heq
        exact hne (List.cons.inj heq).1
      · rw [Tree.value?, hvalues, inOrder_array]
        rfl

theorem ReadsBack.object {layout : Layout} {nesting : Nat} {fields : List (String × Json)}
    (h : ∀ field ∈ fields, ReadsBack layout nesting field.2) :
    ReadsBack layout (nesting + 1) (.object fields) := by
  refine .of_succ fun level fuel rest _ hfuel => ?_
  cases fields with
  | nil => exact ⟨.object [], rfl, rfl⟩
  | cons field fields =>
      obtain ⟨key, value⟩ := field
      rw [layoutChars, List.length_cons, List.length_append] at hfuel
      have hfields : 2 * (quoteChars key (':' :: (layout.space ++ layoutChars layout (level + 1)
          value (layoutFields layout level fields rest)))).length ≤ fuel + 2 * rest.length := by
        omega
      obtain ⟨trees, htrees, hvalues⟩ := readMembers_layoutFields h hfields
      refine ⟨.object trees, ?_, ?_⟩
      · rw [layoutChars]
        refine readTree_object ?_ htrees
        rw [skipBlanks_append (layout.blank_gap _)]
        exact skipBlanks_cons rfl _
      · rw [Tree.value?, hvalues, inOrder_object]
        rfl

/-- What fits is read back. The induction hands the reading of the parts up to the arrays and
objects that hold them. -/
theorem Fits.readsBack (layout : Layout) {nesting : Nat} {value : Json} (h : Fits nesting value) :
    ReadsBack layout nesting value := by
  induction h with
  | null => exact .of_succ fun level fuel rest _ _ => ⟨.null, rfl, rfl⟩
  | bool value =>
      refine .of_succ fun level fuel rest _ _ => ⟨.bool value, ?_, rfl⟩
      cases value <;> rfl
  | integer hlower hupper =>
      refine .of_succ fun level fuel rest hrest _ => ?_
      obtain ⟨literal, hread, hliteral⟩ := readTree_integer hlower hupper fuel _ hrest
      refine ⟨.number literal, hread, ?_⟩
      rw [Tree.value?, hliteral]
      rfl
  | string value =>
      refine .of_succ fun level fuel rest _ _ => ?_
      obtain ⟨tail, hquote, hpieces⟩ := readPieces_quoteChars value rest
      refine ⟨.string (value.toList.map writtenPiece), ?_, ?_⟩
      · have htext : layoutChars layout level (.string value) rest = '"' :: tail := hquote
        rw [htext, readTree_quote, hpieces]
        rfl
      · rw [Tree.value?, pieceString?_writtenPiece]
        rfl
  | array _ ih => exact .array ih
  | object _ ih => exact .object ih

/-- A text in any layout is read as the value with the members of its objects in order. -/
theorem read?_layoutChars (layout : Layout) {value : Json} (h : Fits nestingLimit value) :
    read? (String.ofList (layoutChars layout 0 value [])) = some value.inOrder := by
  have hend : Separated [] := by
    intro c hc
    cases hc
  obtain ⟨tree, htree, hvalue⟩ := h.readsBack layout 0
    (2 * (layoutChars layout 0 value []).length + 2) [] hend (by omega)
  have hread : Tree.read? nestingLimit (String.ofList (layoutChars layout 0 value [])) =
      some tree := by
    rw [Tree.read?, String.toList_ofList]
    dsimp only
    rw [htree]
    rfl
  rw [read?, hread]
  exact hvalue

theorem read?_compact {value : Json} (h : Fits nestingLimit value) :
    read? value.compact = some value.inOrder := by
  rw [← read?_layoutChars .dense h, layoutChars_dense, compact]

theorem read?_pretty {value : Json} (h : Fits nestingLimit value) :
    read? value.pretty = some value.inOrder := by
  rw [← read?_layoutChars .indented h, layoutChars_indented, pretty]

end SchemaMerge.Json
