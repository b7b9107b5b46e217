import SchemaMerge.Pattern.CharClass

/-!
The flags of patterns, and what a verbose pattern ignores.
-/

namespace SchemaMerge.Pattern

open Text (CharSet)

/-- The flags in force at a point of a pattern. -/
structure Flags where
  ignoreCase : Bool := false
  multiLine : Bool := false
  dotAll : Bool := false
  returns : Bool := false
  ascii : Bool := false
  verbose : Bool := false
  deriving DecidableEq, Repr

namespace Flags

/-- A set with all that differs from it in case alone, if case is ignored. -/
def fold (flags : Flags) (set : CharSet) : CharSet :=
  if !flags.ignoreCase then set
  else if flags.ascii then set.withAsciiCases
  else set.withCases

/-- A set in a pattern of ASCII has to stay within it, because a match is a string. -/
def allowed? (flags : Flags) (set : CharSet) : Option CharSet :=
  if flags.ascii && !set.isAscii then none else some set

end Flags

def isBlank (c : Char) : Bool :=
  (CharClass.blank false).contains c.toNat

/-- Drops what a verbose pattern ignores: white space, and comments up to the end of the line. -/
def skipIgnored (flags : Flags) (text : List Char) : List Char :=
  if flags.verbose then go false text else text
where
  go (inComment : Bool) : List Char → List Char
    | [] => []
    | c :: rest =>
        if inComment then go (c != '\n') rest
        else if isBlank c then go false rest
        else if c = '#' then go true rest
        else c :: rest

/-- The characters up to the first one that is not wanted, `limit` of them at most, without what a
verbose pattern ignores before and between them, and the text behind. -/
def takeWanted (flags : Flags) (wanted : Char → Bool) (limit : Nat) (text : List Char) :
    List Char × List Char :=
  go limit false text
where
  go (limit : Nat) (inComment : Bool) : List Char → List Char × List Char
    | [] => ([], [])
    | c :: rest =>
        if limit = 0 then ([], c :: rest)
        else if inComment then go limit (c != '\n') rest
        else if flags.verbose && isBlank c then go limit false rest
        else if flags.verbose && c = '#' then go limit true rest
        else if wanted c then
          let (taken, rest) := go (limit - 1) false rest
          (c :: taken, rest)
        else ([], c :: rest)

/-- Reads flags up to a colon or a closing parenthesis, which is left. A flag may stand once, and
those after a hyphen are cleared. -/
def readFlags? (flags : Flags) (seen : List Char) (clear : Bool) :
    List Char → Option (Flags × List Char)
  | [] => none
  | c :: rest =>
      if c = ':' ∨ c = ')' then
        if seen.head? = some '-' then none else some (flags, c :: rest)
      else if c ∈ seen then none
      else
        match c with
        | '-' => readFlags? flags (c :: seen) true rest
        | 'i' => readFlags? { flags with ignoreCase := !clear } (c :: seen) clear rest
        | 'm' => readFlags? { flags with multiLine := !clear } (c :: seen) clear rest
        | 's' => readFlags? { flags with dotAll := !clear } (c :: seen) clear rest
        | 'R' => readFlags? { flags with returns := !clear } (c :: seen) clear rest
        | 'U' => readFlags? flags (c :: seen) clear rest
        | 'u' => readFlags? { flags with ascii := clear } (c :: seen) clear rest
        | 'x' => readFlags? { flags with verbose := !clear } (c :: seen) clear rest
        | _ => none

end SchemaMerge.Pattern
