import SchemaMerge.Pattern.Reader.Escape

/-!
Classes of characters in brackets: characters, ranges, escapes, classes by name and other classes,
which may be combined by the operators of sets. A class is read to its set and to the depth to which
its parts are nested.
-/

namespace SchemaMerge.Pattern

open Text (CharSet)

/-- What has been read, and how deeply its parts are nested. -/
structure Nested (α : Type) where
  value : α
  depth : Nat := 0
  deriving Repr

namespace Nested

variable {α : Type}

/-- The depth of what holds the given parts. -/
def depthAround (parts : List (Nested α)) : Nat :=
  parts.foldl (fun depth part => max depth part.depth) 0 + 1

end Nested

/-- A class within a class that is called by name, after its `[:`. -/
def readNamedClass? (flags : Flags) (text : List Char) : Option (CharSet × List Char) :=
  let (negated, text) :=
    match text with
    | '^' :: rest => (true, rest)
    | _ => (false, text)
  let name := text.takeWhile Char.isAlpha
  match text.dropWhile Char.isAlpha with
  | ':' :: ']' :: rest =>
      (CharClass.named.lookup (String.ofList name)).map fun set =>
        ((flags.fold set).complIf negated, rest)
  | _ => none

/-- One character or escaped set of a class. In a pattern of ASCII the character has to be one of
it. -/
def readClassItem? (flags : Flags) (text : List Char) : Option (Escaped × List Char) := do
  let (item, rest) ←
    match text with
    | [] => none
    | '\\' :: rest => readEscape? flags rest
    | c :: rest => some (.literal c.toNat, rest)
  match item with
  | .boundary _ => none
  | .literal n => if flags.ascii ∧ 0x7f < n then none else return (item, rest)
  | .set _ => return (item, rest)

/-- The character that counts after a hyphen: the next one that a verbose pattern does not ignore,
or if a comment follows, the first one in it. -/
def afterHyphen? (flags : Flags) (text : List Char) : Option Char :=
  if flags.verbose then
    match text.dropWhile isBlank with
    | '#' :: comment => (comment.dropWhile isBlank).head?
    | text => text.head?
  else text.head?

/-- An item of a class, or a range between two characters. -/
def readClassRange? (flags : Flags) (text : List Char) : Option (CharSet × List Char) := do
  let (item, rest) ← readClassItem? flags text
  let alone : CharSet :=
    match item with
    | .literal n => .single n
    | .set set => set
    | .boundary _ => .empty
  match skipIgnored flags rest with
  | '-' :: after =>
      if afterHyphen? flags after ∈ [some ']', some '-'] then return (alone, rest)
      let (last, rest) ← readClassItem? flags (skipIgnored flags after)
      match item, last with
      | .literal first, .literal last =>
          if first ≤ last then return (.range first last, rest) else none
      | _, _ => none
  | _ => return (alone, rest)

/-- How the sets on both sides of an operator of a class are combined. -/
inductive SetOperator where
  | inter
  | diff
  | symmDiff
  deriving DecidableEq, Repr

def SetOperator.apply (operator : SetOperator) (left right : CharSet) : CharSet :=
  match operator with
  | inter => .inter left right
  | diff => .diff left right
  | symmDiff => .symmDiff left right

/-- What a class has been read to: what is left of the last operator with that operator, and the
items right of it, the last one first. -/
structure ClassState where
  left : Option (Nested CharSet × SetOperator) := none
  items : List (Nested CharSet) := []

namespace ClassState

def add (state : ClassState) (item : Nested CharSet) : ClassState :=
  { state with items := item :: state.items }

def addSet (state : ClassState) (set : CharSet) : ClassState :=
  state.add { value := set }

/-- The set that has been read. Several items lie deeper than one alone. -/
def result (flags : Flags) (state : ClassState) : Nested CharSet :=
  let right :=
    match state.items with
    | [] => { value := .empty }
    | [item] => item
    | items => ⟨.ofRanges (items.flatMap (·.value.ranges)), Nested.depthAround items⟩
  match state.left with
  | none => right
  | some (left, operator) =>
      ⟨operator.apply (flags.fold left.value) (flags.fold right.value),
        Nested.depthAround [left, right]⟩

def operator (flags : Flags) (state : ClassState) (operator : SetOperator) : ClassState :=
  { left := some (state.result flags, operator) }

end ClassState

/-- The hyphens with which a class may begin. -/
def readHyphens (flags : Flags) (state : ClassState) (text : List Char) :
    ClassState × List Char :=
  let (hyphens, rest) := takeWanted flags (· == '-') text.length text
  (hyphens.foldl (fun state _ => state.addSet (.single 0x2d)) state, skipIgnored flags rest)

/-- The hyphens, or the bracket, with which a class may begin. -/
def readClassStart (flags : Flags) (text : List Char) : ClassState × List Char :=
  match text with
  | ']' :: rest => (ClassState.addSet {} (.single 0x5d), rest)
  | _ => readHyphens flags {} text

mutual

/-- Reads a class after its opening bracket. -/
def readClass? (fuel : Nat) (flags : Flags) (text : List Char) :
    Option (Nested CharSet × List Char) :=
  match fuel with
  | 0 => none
  | fuel + 1 => do
      let (negated, text) :=
        match skipIgnored flags text with
        | '^' :: rest => (true, skipIgnored flags rest)
        | rest => (false, rest)
      let (state, rest) := readClassStart flags text
      let (read, rest) ← readClassItems? fuel flags state rest
      let set ← flags.allowed? ((flags.fold read.value).complIf negated)
      return (⟨set, read.depth + 1⟩, rest)

/-- Reads the rest of a class. -/
def readClassItems? (fuel : Nat) (flags : Flags) (state : ClassState) (text : List Char) :
    Option (Nested CharSet × List Char) :=
  match fuel with
  | 0 => none
  | fuel + 1 =>
      match skipIgnored flags text with
      | [] => none
      | ']' :: rest => some (state.result flags, rest)
      | '&' :: '&' :: rest => readClassItems? fuel flags (state.operator flags .inter) rest
      | '-' :: '-' :: rest => readClassItems? fuel flags (state.operator flags .diff) rest
      | '~' :: '~' :: rest => readClassItems? fuel flags (state.operator flags .symmDiff) rest
      | '[' :: rest =>
          let named :=
            match rest with
            | ':' :: after => readNamedClass? flags after
            | _ => none
          match named with
          | some (set, rest) => do
              let set ← flags.allowed? set
              readClassItems? fuel flags (state.addSet set) rest
          | none => do
              let (inner, rest) ← readClass? fuel flags rest
              readClassItems? fuel flags (state.add inner) rest
      | text => do
          let (set, rest) ← readClassRange? flags text
          readClassItems? fuel flags (state.addSet set) rest

end

end SchemaMerge.Pattern
