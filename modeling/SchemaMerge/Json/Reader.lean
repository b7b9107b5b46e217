import SchemaMerge.Json.Tree

/-!
Reads JSON text. The grammar is strict: no comments, no trailing commas, nothing after the value but
blanks, and no raw control character in a string. `Tree.read?` gives the text as written, `read?`
the value that it stands for, with at most 127 arrays and objects inside each other.
-/

namespace SchemaMerge.Json

def isBlank (c : Char) : Bool :=
  c == ' ' || c == '\t' || c == '\n' || c == '\r'

def skipBlanks (text : List Char) : List Char :=
  text.dropWhile isBlank

/-- The value of a hexadecimal digit. -/
def hexValue? (c : Char) : Option Nat :=
  if '0' ≤ c ∧ c ≤ '9' then some (c.toNat - '0'.toNat)
  else if 'a' ≤ c ∧ c ≤ 'f' then some (c.toNat - 'a'.toNat + 10)
  else if 'A' ≤ c ∧ c ≤ 'F' then some (c.toNat - 'A'.toNat + 10)
  else none

/-- What the letter after a backslash stands for. -/
def simpleEscape? (c : Char) : Option Char :=
  match c with
  | '"' => some '"'
  | '\\' => some '\\'
  | '/' => some '/'
  | 'b' => some '\x08'
  | 'f' => some '\x0c'
  | 'n' => some '\n'
  | 'r' => some '\r'
  | 't' => some '\t'
  | _ => none

/-- Reads the rest of a string literal after its opening quote. -/
def readPieces (acc : List Piece) : List Char → Option (List Piece × List Char)
  | [] => none
  | '"' :: rest => some (acc.reverse, rest)
  | '\\' :: 'u' :: a :: b :: c :: d :: rest => do
      let high := (← hexValue? a) * 16 + (← hexValue? b)
      let low := (← hexValue? c) * 16 + (← hexValue? d)
      readPieces (.unit (high * 256 + low) :: acc) rest
  | '\\' :: c :: rest => do
      let meant ← simpleEscape? c
      readPieces (.char meant :: acc) rest
  | c :: rest => if c.toNat < 32 then none else readPieces (.char c :: acc) rest

/-- Takes the digits at the start of a text. -/
def takeDigits (text : List Char) : List Nat × List Char :=
  ((text.takeWhile Char.isDigit).map (fun c => c.toNat - '0'.toNat), text.dropWhile Char.isDigit)

/-- Takes at least one digit. -/
def takeDigits1? (text : List Char) : Option (List Nat × List Char) :=
  match takeDigits text with
  | ([], _) => none
  | taken => some taken

/-- Reads a fraction if a point follows. -/
def readFraction? : List Char → Option (Option (List Nat) × List Char)
  | '.' :: rest => (takeDigits1? rest).map fun (digits, rest) => (some digits, rest)
  | rest => some (none, rest)

/-- Reads an exponent if its letter follows. -/
def readExponent? (text : List Char) : Option (Option (Bool × List Nat) × List Char) :=
  match text with
  | [] => some (none, [])
  | letter :: rest =>
      if letter = 'e' ∨ letter = 'E' then
        let (negative, rest) :=
          match rest with
          | '+' :: rest => (false, rest)
          | '-' :: rest => (true, rest)
          | rest => (false, rest)
        (takeDigits1? rest).map fun (digits, rest) => (some (negative, digits), rest)
      else some (none, text)

/-- Reads a number after its sign. A leading zero stands alone. -/
def readNumber? (negative : Bool) (text : List Char) : Option (NumberLiteral × List Char) := do
  let (whole, rest) ← takeDigits1? text
  if whole.head? = some 0 ∧ 1 < whole.length then none
  let (fraction, rest) ← readFraction? rest
  let (exponent, rest) ← readExponent? rest
  return (⟨negative, whole, fraction, exponent⟩, rest)

mutual

/-- Reads one value. `nesting` bounds how many arrays and objects may still be opened, `fuel` the
number of steps. -/
def readTree (fuel nesting : Nat) (text : List Char) : Option (Tree × List Char) :=
  match fuel with
  | 0 => none
  | fuel + 1 =>
      match skipBlanks text with
      | 'n' :: 'u' :: 'l' :: 'l' :: rest => some (.null, rest)
      | 't' :: 'r' :: 'u' :: 'e' :: rest => some (.bool true, rest)
      | 'f' :: 'a' :: 'l' :: 's' :: 'e' :: rest => some (.bool false, rest)
      | '"' :: rest => (readPieces [] rest).map fun (pieces, rest) => (.string pieces, rest)
      | '-' :: rest => (readNumber? true rest).map fun (literal, rest) => (.number literal, rest)
      | '[' :: rest =>
          match nesting with
          | 0 => none
          | nesting + 1 =>
              match skipBlanks rest with
              | ']' :: rest => some (.array [], rest)
              | rest => (readItems fuel nesting rest).map fun (items, rest) => (.array items, rest)
      | '{' :: rest =>
          match nesting with
          | 0 => none
          | nesting + 1 =>
              match skipBlanks rest with
              | '}' :: rest => some (.object [], rest)
              | rest =>
                  (readMembers fuel nesting rest).map fun (members, rest) => (.object members, rest)
      | rest => (readNumber? false rest).map fun (literal, rest) => (.number literal, rest)

/-- Reads the items of an array up to its closing bracket. -/
def readItems (fuel nesting : Nat) (text : List Char) : Option (List Tree × List Char) :=
  match fuel with
  | 0 => none
  | fuel + 1 => do
      let (item, rest) ← readTree fuel nesting text
      match skipBlanks rest with
      | ']' :: rest => return ([item], rest)
      | ',' :: rest =>
          let (items, rest) ← readItems fuel nesting rest
          return (item :: items, rest)
      | _ => none

/-- Reads the members of an object up to its closing brace. -/
def readMembers (fuel nesting : Nat) (text : List Char) :
    Option (List (List Piece × Tree) × List Char) :=
  match fuel with
  | 0 => none
  | fuel + 1 =>
      match skipBlanks text with
      | '"' :: rest => do
          let (key, rest) ← readPieces [] rest
          match skipBlanks rest with
          | ':' :: rest =>
              let (member, rest) ← readTree fuel nesting rest
              match skipBlanks rest with
              | '}' :: rest => return ([(key, member)], rest)
              | ',' :: rest =>
                  let (members, rest) ← readMembers fuel nesting rest
                  return ((key, member) :: members, rest)
              | _ => none
          | _ => none
      | _ => none

end

/-- Reads a text that holds one value with at most `nesting` arrays and objects inside each
other. -/
def Tree.read? (nesting : Nat) (text : String) : Option Tree := do
  let chars := text.toList
  let (tree, rest) ← readTree (2 * chars.length + 2) nesting chars
  if (skipBlanks rest).isEmpty then some tree else none

/-- How many arrays and objects a document may hold inside each other. -/
def nestingLimit : Nat := 127

/-- The value of a JSON text. -/
def read? (text : String) : Option Json := do
  let tree ← Tree.read? nestingLimit text
  tree.value?

end SchemaMerge.Json
