import SchemaMerge.Pattern.Basic
import SchemaMerge.Text.Utf8

/-!
The space that an automaton for a pattern takes. The automaton reads bytes, and repetitions are
written out in it. One automaton reads forward and marks the extent of groups, another reads
backward and marks nothing. `Pattern.fits` holds if both stay within `Pattern.spaceLimit`.

A state takes 32 bytes. A state that chooses takes another 4 for every choice, and one that goes on
by several ranges of bytes another 8 for every range.
-/

namespace SchemaMerge.Pattern

open Text (CharSet)
open Text.Utf8 (Span)

/-- The way in which an automaton reads a text. -/
inductive Direction where
  | forward
  | backward
  deriving DecidableEq, Repr

def stateSpace : Nat := 32

def choiceSpace : Nat := 4

def rangeSpace : Nat := 8

/-- The first parts of spans with what follows each of them, for spans in order. -/
def byFirst (spans : List Span) : List ((Nat × Nat) × List Span) :=
  spans.foldr (fun span groups =>
    match span, groups with
    | [], _ => groups
    | first :: rest, [] => [(first, [rest])]
    | first :: rest, (other, rests) :: groups =>
        if first = other then (other, rest :: rests) :: groups
        else (first, [rest]) :: (other, rests) :: groups) []

/-- The states that are needed to read spans of at most `length` bytes, each given as what can be
read from it. -/
def spanStates (length : Nat) (spans : List Span) : List (List Span) :=
  match length with
  | 0 => []
  | length + 1 =>
      spans :: (byFirst spans).flatMap fun group =>
        if group.2 = [[]] then [] else spanStates length group.2

/-- Each member of a list once. -/
def eachOnce (states : List (List Span)) : List (List Span) :=
  states.foldl (fun seen state => if state ∈ seen then seen else state :: seen) []

/-- The number of bytes that two spans share at their beginnings. -/
def sharedLength : Span → Span → Nat
  | a :: as, b :: bs => if a = b then sharedLength as bs + 1 else 0
  | _, _ => 0

/-- The number of different beginnings of spans in order. -/
def beginnings : List Span → Nat
  | [] => 0
  | [span] => span.length
  | span :: next :: rest => span.length - sharedLength span next + beginnings (next :: rest)

/-- A set that is not one of ASCII. Reading forward, states from which the same can be read are one
state. Reading backward, every span is an alternative, and spans share what they have in common at
their beginnings. -/
def wideSetSpace (direction : Direction) (set : CharSet) : Nat :=
  let spans := set.ranges.flatMap fun range => Text.Utf8.spans range.1 range.2
  match direction with
  | .forward =>
      stateSpace + ((eachOnce (spanStates 4 spans)).map fun state =>
        stateSpace + rangeSpace * (byFirst state).length).foldr (· + ·) 0
  | .backward =>
      2 * stateSpace + choiceSpace * spans.length + stateSpace * beginnings spans

def setSpace (direction : Direction) (set : CharSet) : Nat :=
  match set.only? with
  | some n => stateSpace * (Text.Utf8.bytes n).length
  | none =>
      if set.isAscii then 2 * stateSpace + rangeSpace * set.ranges.length
      else wideSetSpace direction set

/-- The bytes of a pattern that is a string. -/
def bytes? : Pattern → Option (List Nat)
  | char set => set.only?.map Text.Utf8.bytes
  | seq first second => return (← bytes? first) ++ (← bytes? second)
  | _ => none

/-- The strings up to each empty one, and those after the last. Of empty ones at the beginning only
one counts. -/
def chunks (strings : List (List Nat)) : List (List (List Nat)) :=
  let strings :=
    match strings with
    | [] :: rest => [] :: rest.dropWhile List.isEmpty
    | _ => strings
  strings.foldr (fun string chunks =>
    match string, chunks with
    | [], _ => [] :: chunks
    | _, [] => [[string]]
    | _, chunk :: chunks => (string :: chunk) :: chunks) [[]]

/-- The strings that begin with each byte, without that byte, by the bytes' first occurrence. -/
def byFirstByte (strings : List (List Nat)) : List (List (List Nat)) :=
  (strings.filterMap List.head?).eraseDups.map fun byte =>
    strings.filterMap fun string => if string.head? = some byte then some string.tail else none

/-- The states that choose between strings of at most `length` bytes. Strings that share a beginning
share its states, except that a string takes precedence over those after it. -/
def stringsSpace (length : Nat) (strings : List (List Nat)) : Nat :=
  match length with
  | 0 => 0
  | length + 1 =>
      let chunks := chunks strings
      let used := chunks.filter (!·.isEmpty)
      let groups := used.map byFirstByte
      stateSpace + choiceSpace * (used.length + (chunks.length - 1)) +
        (groups.map fun group =>
          stateSpace + (if group.length = 1 then 0 else rangeSpace * group.length) +
            (group.map fun rest =>
              if rest.all (·.isEmpty) then 0
              else stringsSpace length rest).foldr (· + ·) 0).foldr (· + ·) 0

/-- Whether every match has a character. A set without characters counts as if it were empty. -/
def consumes (pattern : Pattern) : Bool :=
  shortest pattern != some 0 && shortest pattern != none
where
  /-- The least number of characters of a match. -/
  shortest : Pattern → Option Nat
    | empty => some 0
    | char set => if set.ranges.isEmpty then none else some 1
    | boundary _ => some 0
    | seq first second => return (← shortest first) + (← shortest second)
    | alt left right => return min (← shortest left) (← shortest right)
    | repeated inner least _ => (shortest inner).map (· * least)
    | group inner => shortest inner

/-- Whether the automaton ends in a state that chooses between another round and what follows. -/
def endsInChoice (direction : Direction) : Pattern → Bool
  | seq first second =>
      match direction with
      | .forward => endsInChoice direction second
      | .backward => endsInChoice direction first
  | repeated inner least none => least != 0 || inner.consumes
  | repeated inner least (some most) => least == most && endsInChoice direction inner
  | group inner => direction == .backward && endsInChoice direction inner
  | _ => false

/-- What it takes to go on from the end of the automaton. -/
def linkSpace (direction : Direction) (pattern : Pattern) : Nat :=
  if pattern.endsInChoice direction then choiceSpace else 0

/-- The space of a repetition, given what it takes to write its inside once and to go on from there,
and whether the inside consumes characters. -/
def repeatedSpace (once link : Nat) (consumes : Bool) (least : Nat) : Option Nat → Nat
  | none =>
      if 0 < least then least * (once + link) + stateSpace + choiceSpace
      else if consumes then once + link + stateSpace + choiceSpace
      else once + link + 3 * stateSpace + 4 * choiceSpace
  | some most =>
      if least = most then least * once + (least - 1) * link
      else if least = 0 ∧ most = 1 then once + link + 2 * stateSpace + 2 * choiceSpace
      else
        (if least = 0 then stateSpace else least * once) + stateSpace +
          (most - least) * (once + stateSpace + 2 * choiceSpace) + most * link

/-- The space of the automaton of a pattern. With `branch` set, the pattern is one of several
alternatives, and what it takes to choose it is added. -/
def space (direction : Direction) (branch : Bool) : Pattern → Nat
  | alt left right =>
      if branch then space direction true left + space direction true right
      else
        match (branches (alt left right)).mapM bytes? with
        | some strings =>
            let strings := if direction = .forward then strings else strings.map List.reverse
            stateSpace + stringsSpace ((strings.map List.length).foldl max 0) strings
        | none => 2 * stateSpace + space direction true left + space direction true right
  | empty => stateSpace + choice empty
  | char set => setSpace direction set + choice (char set)
  | boundary kind => stateSpace + choice (boundary kind)
  | seq first second =>
      space direction false first + space direction false second + choice (seq first second) +
        match direction with
        | .forward => linkSpace direction first
        | .backward => linkSpace direction second
  | repeated inner least most =>
      repeatedSpace (space direction false inner) (linkSpace direction inner) inner.consumes least
        most + choice (repeated inner least most)
  | group inner =>
      space direction false inner + choice (group inner) +
        match direction with
        | .forward => 2 * stateSpace + linkSpace direction inner
        | .backward => 0
where
  choice (pattern : Pattern) : Nat :=
    if branch then choiceSpace + linkSpace direction pattern else 0

/-- Whether every match is at the end of the text at which the automaton starts. -/
def anchored (direction : Direction) : Pattern → Bool
  | boundary kind =>
      match direction with
      | .forward => kind == .textStart
      | .backward => kind == .textEnd
  | seq first second =>
      match direction with
      | .forward => anchored direction first || (first.zeroWidth && anchored direction second)
      | .backward => anchored direction second || (second.zeroWidth && anchored direction first)
  | alt left right => anchored direction left && anchored direction right
  | repeated inner least _ => least != 0 && anchored direction inner
  | group inner => anchored direction inner
  | _ => false

/-- The space of the whole automaton. It has a state for the match, and states that pass over any
bytes before it unless every match is anchored. The match as a whole is a group. -/
def automatonSpace (direction : Direction) (pattern : Pattern) : Nat :=
  let whole :=
    space direction false (group pattern) + stateSpace + linkSpace direction (group pattern)
  if pattern.anchored direction then whole + stateSpace
  else whole + 3 * stateSpace + 2 * choiceSpace + rangeSpace

def spaceLimit : Nat := 10 * Nat.pow 2 20

/-- Whether the automata of a pattern are small enough. -/
def fits (pattern : Pattern) : Bool :=
  pattern.automatonSpace .forward ≤ spaceLimit && pattern.automatonSpace .backward ≤ spaceLimit

end SchemaMerge.Pattern
