import SchemaMerge.Proofs.ResolvedWays

/-!
Pointers one segment at a time. What a segment names is said by itself: a member by its key, an item
by the index that the segment gives (`Json.Names`). A pointer that goes on below another one has the
segments of that one and then its own, and leads where these lead from what the other one points at,
whatever the two look like (`Pointer.extends_descend`). Segments are written by two replacements in
the whole text and read by two more, and the order of the two matters.
-/

namespace SchemaMerge

namespace Text

/-- The characters with `new` in the place of every `old`. -/
def replaceChar (old : Char) (new : List Char) (chars : List Char) : List Char :=
  chars.flatMap fun c => if c = old then new else [c]

/-- The characters with `new` in the place of every `first` that `second` follows, from left to
right. -/
def replacePair (first second new : Char) : List Char → List Char
  | c :: d :: rest =>
      if c = first ∧ d = second then new :: replacePair first second new rest
      else c :: replacePair first second new (d :: rest)
  | chars => chars

theorem replacePair_self (first second new : Char) (rest : List Char) :
    replacePair first second new (first :: second :: rest) =
      new :: replacePair first second new rest := by
  rw [replacePair, if_pos ⟨rfl, rfl⟩]

theorem replacePair_cons {first second new c : Char} {rest : List Char}
    (h : c = first → second ∉ rest.head?) :
    replacePair first second new (c :: rest) = c :: replacePair first second new rest := by
  cases rest with
  | nil => rfl
  | cons d rest =>
      rw [replacePair, if_neg]
      rintro ⟨hc, rfl⟩
      exact h hc rfl

/-- A replacement puts its own character in front or leaves what is there. -/
theorem head?_replacePair {first second new d : Char} {chars : List Char}
    (h : d ∈ (replacePair first second new chars).head?) : d = new ∨ d ∈ chars.head? := by
  cases chars with
  | nil => cases h
  | cons c rest =>
      by_cases hpair : c = first ∧ second ∈ rest.head?
      · obtain ⟨rfl, hsecond⟩ := hpair
        obtain ⟨rest, rfl⟩ := List.head?_eq_some_iff.1 hsecond
        rw [replacePair_self] at h
        exact .inl (Option.some.inj h).symm
      · rw [replacePair_cons fun hc hsecond => hpair ⟨hc, hsecond⟩] at h
        exact .inr h

end Text

namespace Json

/-- The segment names a value in another one: the member that has it as its key, or the item at the
index that it gives. -/
inductive Names : Json → String → Json → Prop where
  | member {fields : List (String × Json)} {key : String} {child : Json}
      (hchild : fields.lookup key = some child) : Names (.object fields) key child
  | item {items : List Json} {segment : String} {index : Nat} {child : Json}
      (hindex : Text.Gives segment index) (hchild : items[index]? = some child) :
      Names (.array items) segment child

/-- The segments name values one in the other, down to the last one. -/
inductive Steps : Json → List String → Json → Prop where
  | here (value : Json) : Steps value [] value
  | onward {value child found : Json} {segment : String} {more : List String}
      (hchild : value.Names segment child) (hmore : Steps child more found) :
      Steps value (segment :: more) found

theorem step?_eq_some_iff {value child : Json} {segment : String} :
    Pointer.step? value segment = some child ↔ value.Names segment child := by
  cases value with
  | object fields =>
      constructor
      · exact fun hchild => .member hchild
      · intro hnames
        cases hnames with
        | member hchild => exact hchild
  | array items =>
      rw [Pointer.step?, Option.bind_eq_some_iff]
      constructor
      · rintro ⟨index, hindex, hchild⟩
        exact .item (Text.count?_eq_some_iff.1 hindex) hchild
      · intro hnames
        cases hnames with
        | item hindex hchild => exact ⟨_, Text.count?_eq_some_iff.2 hindex, hchild⟩
  | _ =>
      refine iff_of_false (Option.some_ne_none child).symm fun hnames => ?_
      cases hnames

/-- One step after the other comes to what the segments name. -/
theorem foldlM_step?_eq_some_iff {value found : Json} {segments : List String} :
    segments.foldlM Pointer.step? value = some found ↔ value.Steps segments found := by
  induction segments generalizing value with
  | nil =>
      constructor
      · intro hfound
        cases hfound
        exact .here _
      · intro hsteps
        cases hsteps
        rfl
  | cons segment more ih =>
      rw [List.foldlM_cons, Option.bind_eq_bind, Option.bind_eq_some_iff]
      constructor
      · rintro ⟨child, hchild, hmore⟩
        exact .onward (step?_eq_some_iff.1 hchild) (ih.1 hmore)
      · intro hsteps
        cases hsteps with
        | onward hchild hmore => exact ⟨_, step?_eq_some_iff.2 hchild, ih.2 hmore⟩

end Json

namespace Pointer

open Text (replaceChar replacePair replacePair_self replacePair_cons head?_replacePair)

/-- A segment is written by putting `~0` for `~` everywhere, and then `~1` for `/`. -/
theorem toList_escape (segment : String) : (escape segment).toList =
    replaceChar '/' ['~', '1'] (replaceChar '~' ['~', '0'] segment.toList) := by
  rw [escape, String.toList_ofList, replaceChar, replaceChar, List.flatMap_assoc]
  refine congrArg (List.flatMap · segment.toList) (funext fun c => ?_)
  rw [escapeChar]
  split
  · rfl
  · exact (List.flatMap_singleton ..).symm

/-- A segment is read by putting `/` for `~1` everywhere, and then `~` for `~0`. -/
theorem unescapeChars_eq_replacePair (chars : List Char) : unescapeChars chars =
    replacePair '~' '0' '~' (replacePair '~' '1' '/' chars) := by
  fun_induction unescapeChars chars with
  | case1 rest ih =>
      rw [replacePair_self, replacePair_cons fun hc => absurd hc (by decide), ih]
  | case2 rest ih =>
      have hinner : replacePair '~' '1' '/' ('~' :: '0' :: rest) =
          '~' :: '0' :: replacePair '~' '1' '/' rest := by
        rw [replacePair_cons (by simp), replacePair_cons fun hc => absurd hc (by decide)]
      rw [hinner, replacePair_self, ih]
  | case3 c rest hone hzero ih =>
      -- The first replacement does not bring a zero behind a tilde that stands for itself.
      have hfirst : c = '~' → '1' ∉ rest.head? := by
        intro hc hmem
        obtain ⟨more, hmore⟩ := List.head?_eq_some_iff.1 hmem
        exact hone more hc hmore
      have hsecond : c = '~' → '0' ∉ (replacePair '~' '1' '/' rest).head? := by
        intro hc hmem
        rcases head?_replacePair hmem with hslash | hmem
        · exact absurd hslash (by decide)
        · obtain ⟨more, hmore⟩ := List.head?_eq_some_iff.1 hmem
          exact hzero more hc hmore
      rw [replacePair_cons hfirst, replacePair_cons hsecond, ih]
  | case4 => rfl

/-- The other order would read `~01` as a slash. -/
example : replacePair '~' '1' '/' (replacePair '~' '0' '~' ['~', '0', '1']) = ['/'] ∧
    unescapeChars ['~', '0', '1'] = ['~', '1'] := by decide

theorem unescapeChars_ne_nil {chars : List Char} (h : chars ≠ []) : unescapeChars chars ≠ [] := by
  fun_cases unescapeChars chars with
  | case4 => exact absurd rfl h
  | _ => exact List.cons_ne_nil _ _

variable {pointer : String}

/-- The pointer starts with `#`, and with `#/` unless it is the root. -/
def FromRoot (pointer : String) : Prop :=
  ∃ rest, pointer.toList = '#' :: rest ∧ ∀ c ∈ rest.head?, c = '/'

theorem resolve?_of_fromRoot (h : FromRoot pointer) (root : Json) :
    resolve? root pointer = (segments pointer).foldlM step? root := by
  obtain ⟨rest, hchars, hrest⟩ := h
  rw [resolve?, hchars]
  cases rest with
  | nil =>
      have hsegments : segments pointer = [] := by
        rw [segments, body, hchars]
        rfl
      rw [hsegments]
      rfl
  | cons c rest =>
      obtain rfl : c = '/' := hrest c rfl
      rfl

/-- What does not start at the root points at nothing. -/
theorem resolve?_of_not_fromRoot (h : ¬FromRoot pointer) (root : Json) :
    resolve? root pointer = none := by
  rw [resolve?]
  split
  case h_1 hchars => exact absurd ⟨[], hchars, by simp⟩ h
  case h_2 rest hchars =>
    refine absurd ⟨'/' :: rest, hchars, fun c hc => ?_⟩ h
    exact (Option.some.inj hc).symm
  case h_3 => rfl

/-- A pointer starts at the root if and only if one below it does. -/
theorem fromRoot_descend_iff (pointer : String) (below : List String) :
    FromRoot (descend pointer below) ↔ FromRoot pointer := by
  have hbelow : ∀ c ∈ (written below).head?, c = '/' := by
    cases below with
    | nil => simp [written]
    | cons segment more => exact fun c hc => (Option.some.inj hc).symm
  rw [FromRoot, FromRoot, toList_descend]
  cases pointer.toList with
  | nil =>
      refine iff_of_false ?_ ?_
      · rintro ⟨rest, hrest, -⟩
        rw [List.nil_append] at hrest
        exact absurd (hbelow '#' (by rw [hrest]; rfl)) (by decide)
      · rintro ⟨rest, hrest, -⟩
        cases hrest
  | cons first chars =>
      have hhead : (∀ c ∈ (chars ++ written below).head?, c = '/') ↔
          ∀ c ∈ chars.head?, c = '/' := by
        cases chars with
        | nil => exact iff_of_true hbelow (by simp)
        | cons c more => rfl
      constructor
      · rintro ⟨rest, hrest, hslash⟩
        cases hrest
        exact ⟨chars, rfl, hhead.1 hslash⟩
      · rintro ⟨rest, hrest, hslash⟩
        cases hrest
        exact ⟨_, rfl, hhead.2 hslash⟩

theorem resolve?_descend (root : Json) (pointer : String) (below : List String) :
    resolve? root (descend pointer below) =
      (resolve? root pointer).bind fun middle => below.foldlM step? middle := by
  by_cases h : FromRoot pointer
  · have hbelow := (fromRoot_descend_iff pointer below).2 h
    calc resolve? root (descend pointer below)
        = (segments (descend pointer below)).foldlM step? root := resolve?_of_fromRoot hbelow root
      _ = (segments pointer ++ below).foldlM step? root := by rw [segments_descend_below]
      _ = ((segments pointer).foldlM step? root).bind fun middle => below.foldlM step? middle :=
          List.foldlM_append
      _ = (resolve? root pointer).bind fun middle => below.foldlM step? middle := by
          rw [resolve?_of_fromRoot h]
  · have hbelow : ¬FromRoot (descend pointer below) := by
      rwa [fromRoot_descend_iff]
    rw [resolve?_of_not_fromRoot h, resolve?_of_not_fromRoot hbelow]
    rfl

/-- The pointer `longer` goes on below `pointer` with the segments `below`. -/
structure Extends (pointer : String) (below : List String) (longer : String) : Prop where
  /-- Each segment stands behind a slash, with its tildes and then its slashes replaced. -/
  written : longer.toList = pointer.toList ++ below.flatMap fun segment =>
    '/' :: replaceChar '/' ['~', '1'] (replaceChar '~' ['~', '0'] segment.toList)
  segments_eq : segments longer = segments pointer ++ below
  /-- In every value it points at what is reached from there one segment after the other, and at
  nothing if `pointer` does or if a step fails. -/
  resolve_eq : ∀ root, resolve? root longer =
    (resolve? root pointer).bind fun middle => below.foldlM step? middle
  resolve_iff : ∀ root found, resolve? root longer = some found ↔
    ∃ middle, resolve? root pointer = some middle ∧ middle.Steps below found

/-- Segments that are written below any pointer are read back and followed from there. -/
theorem extends_descend (pointer : String) (below : List String) :
    Extends pointer below (descend pointer below) where
  written := by
    rw [toList_descend, written]
    refine congrArg (pointer.toList ++ List.flatMap · below) (funext fun segment => ?_)
    rw [toList_escape]
  segments_eq := segments_descend_below pointer below
  resolve_eq root := resolve?_descend root pointer below
  resolve_iff root found := by
    rw [resolve?_descend, Option.bind_eq_some_iff]
    exact exists_congr fun middle => and_congr_right' Json.foldlM_step?_eq_some_iff

/-- A pointer to the empty key, and below it segments that look like written ones. -/
example : descend "#/" ["~1", "", "+01"] = "#//~01//+01" ∧
    segments "#//~01//+01" = ["", "~1", "", "+01"] := by decide +kernel

end Pointer

end SchemaMerge
