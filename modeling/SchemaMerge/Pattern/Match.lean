import SchemaMerge.Pattern.Basic

/-!
What patterns match. The places of a text are numbered, and `Pattern.reach` computes for every place
where a match that starts there may end, by recursion on the pattern. `Pattern.occursIn` asks
whether there is a match anywhere.
-/

namespace SchemaMerge.Pattern

/-- A place in a text: the characters before and after it. -/
structure Place where
  before : Option Char
  next : Option Char
  deriving DecidableEq, Repr

namespace Boundary

def isWord (ascii : Bool) (c : Option Char) : Bool :=
  match c with
  | some c => (CharClass.word ascii).contains c.toNat
  | none => false

def holds (kind : Boundary) (place : Place) : Bool :=
  let before := place.before
  let next := place.next
  match kind with
  | textStart => before.isNone
  | textEnd => next.isNone
  | lineStart returns =>
      before.isNone || before == some '\n' ||
        (returns && before == some '\r' && next != some '\n')
  | lineEnd returns =>
      next.isNone || (returns && next == some '\r') ||
        (next == some '\n' && !(returns && before == some '\r'))
  | word ascii => isWord ascii before != isWord ascii next
  | notWord ascii => isWord ascii before == isWord ascii next
  | wordStart ascii half => !isWord ascii before && (half || isWord ascii next)
  | wordEnd ascii half => (half || isWord ascii before) && !isWord ascii next

end Boundary

/-- The places of a text that follows `before`. -/
def placesFrom (before : Option Char) : List Char → List Place
  | [] => [⟨before, none⟩]
  | c :: rest => ⟨before, some c⟩ :: placesFrom (some c) rest

def places (text : List Char) : Array Place :=
  (placesFrom none text).toArray

/-- A relation between places: for every place the ones that it leads to, as the bits of a
number. -/
abbrev Reach := Array Nat

namespace Reach

/-- Every place leads to itself. -/
def stay (size : Nat) : Reach :=
  Array.ofFn fun place : Fin size => Nat.pow 2 place.val

def union (left right : Reach) : Reach :=
  Array.zipWith (· ||| ·) left right

/-- Where the places of a set lead to. -/
def image (reach : Reach) (set : Nat) : Nat :=
  if h : set = 0 then 0
  else
    have : set - Nat.pow 2 set.log2 < set := Nat.sub_lt (Nat.pos_of_ne_zero h) (Nat.two_pow_pos _)
    reach.getD set.log2 0 ||| image reach (set - Nat.pow 2 set.log2)
termination_by set

/-- First one relation, then another. -/
def andThen (first second : Reach) : Reach :=
  first.map second.image

/-- The relation `count` times, by halving. -/
def times (reach : Reach) (count : Nat) : Reach :=
  if count = 0 then stay reach.size
  else
    let half := times (reach.andThen reach) (count / 2)
    if count % 2 = 1 then reach.andThen half else half
termination_by count
decreasing_by omega

/-- The relation any number of times, when no place leads back: what the last places lead to is
found first. -/
def closure (reach : Reach) : Reach :=
  go reach.size (Array.replicate reach.size 0)
where
  /-- With the places from the given number on. -/
  go : Nat → Reach → Reach
    | 0, found => found
    | place + 1, found =>
        let row := Nat.pow 2 place ||| image found (reach.getD place 0)
        go place (found.setIfInBounds place row)

end Reach

/-- From where to where the pattern matches. -/
def reach (places : Array Place) : Pattern → Reach
  | empty => .stay places.size
  | char set =>
      places.mapIdx fun k place =>
        if place.next.any fun c => set.contains c.toNat then Nat.pow 2 (k + 1) else 0
  | boundary kind => places.mapIdx fun k place => if kind.holds place then Nat.pow 2 k else 0
  | seq first second => (reach places first).andThen (reach places second)
  | alt left right => (reach places left).union (reach places right)
  | repeated inner least most =>
      let once := reach places inner
      let further :=
        match most with
        | none => once.closure
        | some most => (once.union (.stay places.size)).times (most - least)
      (once.times least).andThen further
  | group inner => reach places inner

/-- Whether some part of a string matches. -/
def occursIn (pattern : Pattern) (s : String) : Bool :=
  (pattern.reach (places s.toList)).any (· != 0)

end SchemaMerge.Pattern
