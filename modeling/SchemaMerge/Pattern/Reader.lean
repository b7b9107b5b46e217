import SchemaMerge.Pattern.Automaton
import SchemaMerge.Pattern.Match
import SchemaMerge.Pattern.Reader.Bracket
import SchemaMerge.Pattern.Reader.Count

/-!
Reads the usual notation of patterns: alternatives, repetitions, groups, flags, classes and escapes.
There are no references to groups and no conditions on the surrounding text other than boundaries.
`Pattern.parse?` fails for anything else, for patterns whose parts are nested too deeply and for
those whose automata are too large.
-/

namespace SchemaMerge.Pattern

open Text (CharSet)

/-- Characters with which the name of a group may begin, other than the underscore. -/
def nameLetters : CharSet :=
  Text.Unicode.alphabetic.union (.ofTable "88f c5c cdc a7ce-a7cf a7d2 a7d4 a7f1 10940-10959
    10ec5-10ec7 10efa-10efb 11b60-11b67 11db0-11ddb 16ea0-16eb8 16ebb-16ed3 16ff2-16ff6 187f8-187ff
    18d09-18d1e 18d80-18df2 1e6c0-1e6de 1e6e0-1e6f5 1e6fe-1e6ff 2b73a-2b73f 2cea2-2cead
    323b0-33479")

/-- Characters with which the name of a group may go on, other than a few signs. -/
def nameCharacters : CharSet :=
  .unions [nameLetters, Text.Unicode.ofInitial 'n', .ofTable "11de0-11de9"]

/-- The name of a group up to its `>`. -/
def readGroupName? (text : List Char) : Option (String × List Char) :=
  let name := text.takeWhile (· != '>')
  let valid :=
    match name with
    | [] => false
    | first :: others =>
        (first = '_' || nameLetters.contains first.toNat) &&
          others.all fun c => c ∈ ['_', '.', '[', ']'] || nameCharacters.contains c.toNat
  match text.dropWhile (· != '>') with
  | _ :: rest => if valid then some (String.ofList name, rest) else none
  | [] => none

/-- A part of a sequence. -/
inductive Part where
  /-- Flags for what follows. They match nothing and cannot be repeated. -/
  | flags
  | piece (pattern : Nested Pattern)

def Part.nested : Part → Nested Pattern
  | flags => { value := empty }
  | piece pattern => pattern

/-- What has been read of a pattern: the flags in force, the names of groups, the alternatives that
are complete, and the parts of the current one, both with the last one first. -/
structure State where
  flags : Flags := {}
  names : List String := []
  branches : List (Nested Pattern) := []
  parts : List Part := []

namespace State

def add (state : State) (pattern : Pattern) (depth : Nat := 0) : State :=
  { state with parts := .piece ⟨pattern, depth⟩ :: state.parts }

/-- The parts of the current alternative as one pattern. -/
def sequence (state : State) : Nested Pattern :=
  match state.parts.reverse.map Part.nested with
  | [] => { value := empty }
  | [part] => part
  | parts => ⟨Pattern.sequence (parts.map (·.value)), Nested.depthAround parts⟩

def nextBranch (state : State) : State :=
  { state with branches := state.sequence :: state.branches, parts := [] }

/-- The alternatives as one pattern. -/
def result (state : State) : Nested Pattern :=
  match state.nextBranch.branches.reverse with
  | [branch] => branch
  | branches => ⟨anyOf (branches.map (·.value)), Nested.depthAround branches⟩

/-- Puts a repetition on the last part. -/
def repeatLast? (state : State) (least : Nat) (most : Option Nat) : Option State :=
  match state.parts with
  | .piece part :: parts =>
      some { state with parts := .piece ⟨part.value.times least most, part.depth + 1⟩ :: parts }
  | _ => none

end State

/-- Drops the question mark after a repetition. It says which match is preferred, and changes
nothing about whether there is one. -/
def dropPreference (text : List Char) : List Char :=
  match text with
  | '?' :: rest => rest
  | _ => text

/-- A literal character. -/
def literal (flags : Flags) (n : Nat) : Pattern :=
  char (if flags.ascii ∧ 0x7f < n then .single n else flags.fold (.single n))

/-- What a parenthesis opens. -/
inductive Opening where
  /-- Flags for the rest of the enclosing group. -/
  | flags (flags : Flags)
  /-- A group with its own flags, whose extent cannot be asked for. -/
  | plain (flags : Flags)
  | group (name : Option String)

/-- Reads what follows an opening parenthesis. -/
def readOpening? (flags : Flags) (text : List Char) : Option (Opening × List Char) :=
  match skipIgnored flags text with
  | '?' :: 'P' :: '<' :: rest =>
      (readGroupName? rest).map fun (name, rest) => (.group (some name), rest)
  | '?' :: '<' :: rest =>
      (readGroupName? rest).map fun (name, rest) => (.group (some name), rest)
  | '?' :: ')' :: _ => none
  | '?' :: rest => do
      match ← readFlags? flags [] false rest with
      | (flags, ')' :: rest) => return (.flags flags, rest)
      | (flags, _ :: rest) => return (.plain flags, rest)
      | _ => none
  | text => some (.group none, text)

/-- Reads one piece of a sequence that is neither a group nor an alternative. -/
def readPiece? (fuel : Nat) (state : State) (c : Char) (rest : List Char) :
    Option (State × List Char) :=
  let flags := state.flags
  match c with
  | '*' => (state.repeatLast? 0 none).map fun state => (state, dropPreference rest)
  | '+' => (state.repeatLast? 1 none).map fun state => (state, dropPreference rest)
  | '?' => (state.repeatLast? 0 (some 1)).map fun state => (state, dropPreference rest)
  | '\x7b' => do
      let (least, most, rest) ← readBraces? flags rest
      return (← state.repeatLast? least most, dropPreference (skipIgnored flags rest))
  | '[' =>
      (readClass? fuel flags rest).map fun (read, rest) =>
        (state.add (char read.value) read.depth, rest)
  | '.' =>
      if flags.ascii then none
      else
        let set := if flags.dotAll then .all else CharClass.exceptLineEnds flags.returns
        some (state.add (char set), rest)
  | '^' =>
      let kind := if flags.multiLine then .lineStart flags.returns else .textStart
      some (state.add (boundary kind), rest)
  | '$' =>
      let kind := if flags.multiLine then .lineEnd flags.returns else .textEnd
      some (state.add (boundary kind), rest)
  | '\\' => do
      match ← readEscape? flags rest with
      | (.literal n, rest) => return (state.add (literal flags n), rest)
      | (.set set, rest) => return (state.add (char set), rest)
      | (.boundary kind, rest) => return (state.add (boundary kind), rest)
  | _ => some (state.add (literal flags c.toNat), rest)

/-- Reads alternatives up to the end of the text or a closing parenthesis, which is left. Returns
them with the names of groups that are in use. -/
def readAlternatives? (fuel : Nat) (state : State) (text : List Char) :
    Option (Nested Pattern × List String × List Char) :=
  match fuel with
  | 0 => none
  | fuel + 1 =>
      match skipIgnored state.flags text with
      | [] => some (state.result, state.names, [])
      | ')' :: rest => some (state.result, state.names, ')' :: rest)
      | '|' :: rest => readAlternatives? fuel state.nextBranch rest
      | '(' :: rest => do
          match ← readOpening? state.flags rest with
          | (.flags flags, rest) =>
              readAlternatives? fuel { state with flags, parts := .flags :: state.parts } rest
          | (.plain flags, rest) =>
              let (inner, names, rest) ←
                readAlternatives? fuel { flags, names := state.names } rest
              match rest with
              | ')' :: rest =>
                  let state := { state with names }
                  readAlternatives? fuel (state.add inner.value (inner.depth + 1)) rest
              | _ => none
          | (.group name, rest) =>
              if name.any (· ∈ state.names) then none
              let names := name.toList ++ state.names
              let (inner, names, rest) ←
                readAlternatives? fuel { flags := state.flags, names } rest
              match rest with
              | ')' :: rest =>
                  let state := { state with names }
                  readAlternatives? fuel (state.add (group inner.value) (inner.depth + 1)) rest
              | _ => none
      | c :: rest => do
          let (state, rest) ← readPiece? fuel state c rest
          readAlternatives? fuel state rest

/-- How deeply the parts of a pattern may be nested. -/
def depthLimit : Nat := 250

/-- Reads a pattern. -/
def parse? (text : String) : Option Pattern := do
  let chars := text.toList
  let (pattern, _, rest) ← readAlternatives? (2 * chars.length + 2) {} chars
  if rest.isEmpty ∧ pattern.depth ≤ depthLimit ∧ pattern.value.fits then some pattern.value
  else none

end SchemaMerge.Pattern
