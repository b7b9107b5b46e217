import SchemaMerge.Json.Basic

/-!
JSON text as it is written: numbers keep their digits, strings their escapes, objects the order of
their members and repeated keys. `Tree.value?` gives the value that a text stands for, and fails for
a number out of range or a surrogate without its partner.
-/

namespace SchemaMerge.Json

/-- A piece of a string literal: a character, or the code unit of a `\u` escape. -/
inductive Piece where
  | char (c : Char)
  | unit (n : Nat)
  deriving DecidableEq, Repr

/-- The characters that pieces stand for, put before the reversed `acc`. Two code units that form a
surrogate pair give one character. -/
def decodePieces (acc : List Char) : List Piece → Option (List Char)
  | [] => some acc.reverse
  | .char c :: rest => decodePieces (c :: acc) rest
  | .unit n :: rest =>
      if n < 0xD800 ∨ 0xDFFF < n then decodePieces (Char.ofNat n :: acc) rest
      else
        match rest with
        | .unit low :: rest =>
            if n < 0xDC00 ∧ 0xDC00 ≤ low ∧ low ≤ 0xDFFF then
              let c := Char.ofNat (0x10000 + (n - 0xD800) * 0x400 + (low - 0xDC00))
              decodePieces (c :: acc) rest
            else none
        | _ => none

/-- The string that a literal stands for. -/
def pieceString? (pieces : List Piece) : Option String :=
  (decodePieces [] pieces).map String.ofList

inductive Tree where
  | null
  | bool (value : Bool)
  | number (literal : NumberLiteral)
  | string (pieces : List Piece)
  | array (items : List Tree)
  | object (members : List (List Piece × Tree))
  deriving Inhabited

mutual

/-- The value of a text. Of two members with one key the later one counts. -/
def Tree.value? : Tree → Option Json
  | .null => some .null
  | .bool value => some (.bool value)
  | .number literal => (Number.ofLiteral? literal).map .number
  | .string pieces => (pieceString? pieces).map .string
  | .array items => (Tree.itemValues? items).map .array
  | .object members => (Tree.memberValues? members).map fun fields => .object (Fields.ofList fields)

def Tree.itemValues? : List Tree → Option (List Json)
  | [] => some []
  | item :: rest => do
      let value ← Tree.value? item
      let values ← Tree.itemValues? rest
      return value :: values

def Tree.memberValues? : List (List Piece × Tree) → Option (List (String × Json))
  | [] => some []
  | (pieces, member) :: rest => do
      let key ← pieceString? pieces
      let value ← Tree.value? member
      let fields ← Tree.memberValues? rest
      return (key, value) :: fields

end

end SchemaMerge.Json
