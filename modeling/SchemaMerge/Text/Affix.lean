/-!
Beginnings and endings of strings. Each function returns what is left, and `none` if the string does
not begin or end as asked.
-/

namespace SchemaMerge.Text

/-- What follows `start` in `s`. -/
def afterStart? (start s : String) : Option String :=
  (start.toList.isPrefixOf? s.toList).map String.ofList

/-- What precedes `ending` in `s`. -/
def beforeEnd? (ending s : String) : Option String :=
  (ending.toList.isSuffixOf? s.toList).map String.ofList

def startsWith (start s : String) : Bool :=
  start.toList.isPrefixOf s.toList

def endsWith (ending s : String) : Bool :=
  ending.toList.isSuffixOf s.toList

/-- The strings in order, with `separator` between each two. -/
def joined (separator : String) (strings : List String) : String :=
  separator.intercalate strings

theorem afterStart?_eq_some_iff {start s rest : String} :
    afterStart? start s = some rest ↔ s = start ++ rest := by
  have key : ∀ a b c : List Char, a.isPrefixOf? b = some c ↔ b = a ++ c := by
    intro a
    induction a with
    | nil =>
        intro b c
        change some b = some c ↔ b = c
        rw [Option.some.injEq]
    | cons x a ih =>
        intro b c
        cases b with
        | nil =>
            change none = some c ↔ [] = x :: (a ++ c)
            simp
        | cons y b =>
            change (if x == y then a.isPrefixOf? b else none) = some c ↔ y :: b = x :: (a ++ c)
            by_cases h : x = y
            · simp [h, ih]
            · simp [h, Ne.symm h]
  rw [afterStart?, Option.map_eq_some_iff, ← String.toList_inj, String.toList_append, ← key]
  constructor
  · rintro ⟨c, hc, rfl⟩
    rwa [String.toList_ofList]
  · exact fun h => ⟨_, h, String.ofList_toList⟩

theorem startsWith_iff {start s : String} : startsWith start s ↔ ∃ rest, s = start ++ rest := by
  rw [startsWith, List.isPrefixOf_iff_prefix]
  constructor
  · rintro ⟨rest, h⟩
    refine ⟨String.ofList rest, String.toList_inj.1 ?_⟩
    rw [String.toList_append, String.toList_ofList, h]
  · rintro ⟨rest, rfl⟩
    exact ⟨rest.toList, by simp⟩

theorem endsWith_iff {ending s : String} : endsWith ending s ↔ ∃ rest, s = rest ++ ending := by
  rw [endsWith, List.isSuffixOf_iff_suffix]
  constructor
  · rintro ⟨rest, h⟩
    refine ⟨String.ofList rest, String.toList_inj.1 ?_⟩
    rw [String.toList_append, String.toList_ofList, h]
  · rintro ⟨rest, rfl⟩
    exact ⟨rest.toList, by simp⟩

end SchemaMerge.Text
