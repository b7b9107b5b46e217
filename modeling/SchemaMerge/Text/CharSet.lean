import SchemaMerge.SortOn

/-!
Sets of characters as ranges of code points, which ascend and do not touch. A set has one such form,
so equal sets have equal ranges. Surrogates are no characters: the ranges on both sides of them
touch each other.
-/

namespace SchemaMerge.Text

/-- The words of a text, which white space separates. -/
def words (text : List Char) : List (List Char) :=
  go [] text
where
  /-- With the letters of the word that has been begun, the last one first. -/
  go (begun : List Char) : List Char → List (List Char)
    | [] => if begun.isEmpty then [] else [begun.reverse]
    | c :: rest =>
        if !c.isWhitespace then go (c :: begun) rest
        else if begun.isEmpty then go [] rest
        else begun.reverse :: go [] rest

/-- Ranges of code points, both ends included. -/
structure CharSet where
  ranges : List (Nat × Nat)
  deriving DecidableEq, Repr

namespace CharSet

def lastCode : Nat := 0x10ffff

/-- The code point that follows `n`. -/
def next (n : Nat) : Nat :=
  if n = 0xd7ff then 0xe000 else n + 1

/-- The code point that precedes `n`. -/
def previous (n : Nat) : Nat :=
  if n = 0xe000 then 0xd7ff else n - 1

def empty : CharSet := ⟨[]⟩

def all : CharSet := ⟨[(0, lastCode)]⟩

def range (first last : Nat) : CharSet := ⟨[(first, last)]⟩

def single (n : Nat) : CharSet := range n n

def contains (set : CharSet) (n : Nat) : Bool :=
  set.ranges.any fun range => range.1 ≤ n && n ≤ range.2

/-- Joins a range with those that follow it as far as they overlap or touch. -/
def joinFrom (first last : Nat) : List (Nat × Nat) → List (Nat × Nat)
  | [] => [(first, last)]
  | (start, stop) :: rest =>
      if start ≤ next last then joinFrom first (max last stop) rest
      else (first, last) :: joinFrom start stop rest

/-- The set of all code points in the ranges, when these are in the order of their beginnings. -/
def ofAscending : List (Nat × Nat) → CharSet
  | [] => empty
  | (first, last) :: rest => ⟨joinFrom first last rest⟩

/-- The set of all code points in the ranges. -/
def ofRanges (ranges : List (Nat × Nat)) : CharSet :=
  ofAscending (sortBy (fun a b => decide (a.1 ≤ b.1)) ranges)

/-- The ranges between the given ones, from `start` on. -/
def gapsFrom (start : Nat) : List (Nat × Nat) → List (Nat × Nat)
  | [] => if start ≤ lastCode then [(start, lastCode)] else []
  | (first, last) :: rest =>
      if start < first then (start, previous first) :: gapsFrom (next last) rest
      else gapsFrom (next last) rest

def compl (set : CharSet) : CharSet :=
  ⟨gapsFrom 0 set.ranges⟩

/-- Puts a range into an ascending list; the ranges after it are put in by `mergeRest`. -/
def mergeOne (range : Nat × Nat) (mergeRest : List (Nat × Nat) → List (Nat × Nat)) :
    List (Nat × Nat) → List (Nat × Nat)
  | [] => range :: mergeRest []
  | other :: others =>
      if range.1 ≤ other.1 then range :: mergeRest (other :: others)
      else other :: mergeOne range mergeRest others

/-- Two lists of ranges in the order of their beginnings as one. -/
def merge : List (Nat × Nat) → List (Nat × Nat) → List (Nat × Nat)
  | [] => id
  | range :: rest => mergeOne range (merge rest)

def union (left right : CharSet) : CharSet :=
  ofAscending (merge left.ranges right.ranges)

def unions (sets : List CharSet) : CharSet :=
  sets.foldl union empty

def inter (left right : CharSet) : CharSet :=
  (left.compl.union right.compl).compl

def diff (left right : CharSet) : CharSet :=
  left.inter right.compl

/-- The characters that are in one of the sets but not in both. -/
def symmDiff (left right : CharSet) : CharSet :=
  (left.union right).diff (left.inter right)

def complIf (negated : Bool) (set : CharSet) : CharSet :=
  if negated then set.compl else set

/-- The code point of a set that has only one. -/
def only? (set : CharSet) : Option Nat :=
  match set.ranges with
  | [(first, last)] => if first = last then some first else none
  | _ => none

def isAscii (set : CharSet) : Bool :=
  set.ranges.all fun range => range.2 ≤ 0x7f

/-- The code points of the set from `first` to `last`, moved by `distance`. -/
def movedPart (set : CharSet) (first last : Nat) (distance : Int) : List (Nat × Nat) :=
  (set.inter (range first last)).ranges.map fun part =>
    (((part.1 : Int) + distance).toNat, ((part.2 : Int) + distance).toNat)

/-- Adds the other case of the ASCII letters of a set. -/
def withAsciiCases (set : CharSet) : CharSet :=
  ofRanges (set.ranges ++ movedPart set 0x41 0x5a 32 ++ movedPart set 0x61 0x7a (-32))

/-! ### Tables

A table is a text of words. A word is a code point in hexadecimal, the two ends of a range with a
hyphen between them, or such a range with a slash and a number after it: then it stands for every
second, third, ... code point. -/

/-- The value of hexadecimal digits. -/
def readCode (digits : List Char) : Nat :=
  digits.foldl (fun value c =>
    value * 16 + if c.isDigit then c.toNat - '0'.toNat else c.toNat - 'a'.toNat + 10) 0

/-- Every `step`-th code point from `first` on, `count` of them. -/
def stepped (first step : Nat) : Nat → List (Nat × Nat)
  | 0 => []
  | count + 1 => (first, first) :: stepped (first + step) step count

def readWord (word : List Char) : List (Nat × Nat) :=
  let first := word.takeWhile (· != '-')
  let range := (word.dropWhile (· != '-')).drop 1
  let last := range.takeWhile (· != '/')
  let step := (range.dropWhile (· != '/')).drop 1
  if range.isEmpty then [(readCode first, readCode first)]
  else if step.isEmpty then [(readCode first, readCode last)]
  else
    stepped (readCode first) (readCode step)
      ((readCode last - readCode first) / readCode step + 1)

def ofTable (table : String) : CharSet :=
  ofRanges ((words table.toList).flatMap readWord)

end CharSet

end SchemaMerge.Text
