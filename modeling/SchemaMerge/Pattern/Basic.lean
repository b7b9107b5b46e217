import SchemaMerge.Pattern.CharClass

/-!
Regular patterns. The functions that put patterns together leave out what has no effect on what
matches: nothing in a sequence, and a single round of a repetition. Alternatives of single
characters make a set, and others share what they all begin with.
-/

namespace SchemaMerge

open Text (CharSet)

/-- A condition on the place between two characters. -/
inductive Pattern.Boundary where
  | textStart
  | textEnd
  /-- A line begins after a line feed. With `returns` set, it also begins after a carriage return
  with no line feed behind it. -/
  | lineStart (returns : Bool)
  /-- A line ends before a line feed. With `returns` set, it also ends before a carriage return, and
  not between the two. -/
  | lineEnd (returns : Bool)
  /-- Exactly one of the neighbours is a word character. -/
  | word (ascii : Bool)
  | notWord (ascii : Bool)
  /-- A word begins. With `half` set, only the character before counts. -/
  | wordStart (ascii half : Bool)
  /-- A word ends. With `half` set, only the character after counts. -/
  | wordEnd (ascii half : Bool)
  deriving DecidableEq, Repr

inductive Pattern where
  | empty
  | char (set : CharSet)
  | boundary (kind : Pattern.Boundary)
  | seq (first second : Pattern)
  | alt (left right : Pattern)
  /-- From `least` to `most` times, without end if there is no `most`. -/
  | repeated (inner : Pattern) (least : Nat) (most : Option Nat)
  /-- A part whose extent can be asked for. -/
  | group (inner : Pattern)
  deriving DecidableEq, Repr

namespace Pattern

/-- Whether every match is empty because nothing in the pattern is a character. -/
def zeroWidth : Pattern → Bool
  | empty => true
  | char _ => false
  | boundary _ => true
  | seq first second => zeroWidth first && zeroWidth second
  | alt left right => zeroWidth left && zeroWidth right
  | repeated inner _ most => zeroWidth inner || most == some 0
  | group inner => zeroWidth inner

/-- One pattern after another. -/
def andThen (first second : Pattern) : Pattern :=
  match first, second with
  | empty, _ => second
  | _, empty => first
  | _, _ => seq first second

/-- Patterns one after another. -/
def sequence (parts : List Pattern) : Pattern :=
  parts.foldr andThen empty

/-- A pattern repeated from `least` to `most` times. What has no width need not be repeated. -/
def times (inner : Pattern) (least : Nat) (most : Option Nat) : Pattern :=
  let (least, most) :=
    if inner.zeroWidth then (min least 1, some (min (most.getD 1) 1)) else (least, most)
  if most = some 0 then empty
  else if least = 1 ∧ most = some 1 then inner
  else repeated inner least most

/-- The alternatives of a pattern, which is the only one if it is none. -/
def branches : Pattern → List Pattern
  | alt left right => branches left ++ branches right
  | pattern => [pattern]

/-- The set of a pattern that is one. -/
def charSet? : Pattern → Option CharSet
  | char set => some set
  | _ => none

/-- Alternatives one after another. Sets among them are not joined unless there is nothing else. -/
def choice (patterns : List Pattern) : Pattern :=
  match patterns.mapM charSet? with
  | some sets => char (.unions sets)
  | none =>
      match patterns.reverse with
      | [] => char .empty
      | last :: others => others.foldl (fun rest pattern => alt pattern rest) last

/-- Whether the pattern is a string. -/
def isString : Pattern → Bool
  | char set => set.only?.isSome
  | seq first second => isString first && isString second
  | _ => false

def hasGroup : Pattern → Bool
  | seq first second => hasGroup first || hasGroup second
  | alt left right => hasGroup left || hasGroup right
  | repeated inner _ _ => hasGroup inner
  | group _ => true
  | _ => false

/-- The patterns that a pattern has one after another. -/
def parts : Pattern → List Pattern
  | empty => []
  | seq first second => parts first ++ parts second
  | pattern => [pattern]

/-- The parts of a pattern, with strings that follow each other as one part. -/
def pieces (pattern : Pattern) : List Pattern :=
  pattern.parts.foldr (fun part pieces =>
    match pieces with
    | next :: others =>
        if part.isString && next.isString then seq part next :: others else part :: pieces
    | [] => [part]) []

/-- What two lists of pieces share at the beginning. Groups are not shared, because their extents
are told apart. -/
def commonStart : List Pattern → List Pattern → List Pattern
  | a :: as, b :: bs => if a = b ∧ !a.hasGroup then a :: commonStart as bs else []
  | _, _ => []

/-- A pattern that matches what one of several matches. What all of them begin with is taken out, if
each of them has more than one piece. -/
def anyOf (patterns : List Pattern) : Pattern :=
  let patterns := patterns.flatMap branches
  match patterns.map pieces with
  | first :: second :: others =>
      let all := first :: second :: others
      let start :=
        if all.all (2 ≤ ·.length) then others.foldl commonStart (commonStart first second) else []
      if start.isEmpty then choice patterns
      else
        sequence (start ++ [choice (all.map fun pieces => sequence (pieces.drop start.length))])
  | _ => choice patterns

end Pattern

end SchemaMerge
