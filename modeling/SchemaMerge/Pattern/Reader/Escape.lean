import SchemaMerge.Pattern.Basic
import SchemaMerge.Pattern.Reader.Flags
import SchemaMerge.Text.Unicode.Property

/-!
Escapes: what a backslash and the characters after it stand for.
-/

namespace SchemaMerge.Pattern

open Text (CharSet)

/-- What an escape outside or inside a class stands for. -/
inductive Escaped where
  | literal (n : Nat)
  | set (set : CharSet)
  | boundary (kind : Boundary)
  deriving Repr

def hexDigit? (c : Char) : Option Nat :=
  if c.isDigit then some (c.toNat - '0'.toNat)
  else if 'a' ≤ c ∧ c ≤ 'f' then some (c.toNat - 'a'.toNat + 10)
  else if 'A' ≤ c ∧ c ≤ 'F' then some (c.toNat - 'A'.toNat + 10)
  else none

/-- The code point of a character in hexadecimal digits. -/
def hexCode? (digits : List Char) : Option Nat := do
  if digits.isEmpty then none
  let value ← digits.foldlM (fun value c => (hexDigit? c).map (value * 16 + ·)) 0
  if value < 0xd800 ∨ (0xdfff < value ∧ value < 0x110000) then some value else none

/-- A hexadecimal escape: digits in braces, or `width` of them. In a pattern of ASCII two digits are
a byte, which has to be one of ASCII. -/
def readHex? (flags : Flags) (width : Nat) (text : List Char) : Option (Escaped × List Char) := do
  let text := skipIgnored flags text
  match text with
  | '\x7b' :: rest =>
      match takeWanted flags (· != '\x7d') rest.length rest with
      | (digits, '\x7d' :: rest) => return (.literal (← hexCode? digits), rest)
      | _ => none
  | _ =>
      let (digits, rest) := takeWanted flags (fun _ => true) width text
      if digits.length < width then none
      let n ← hexCode? digits
      if flags.ascii ∧ width = 2 ∧ 0x7f < n then none
      return (.literal n, rest)

/-- The place of the first `mark` in a list of characters. -/
def splitAt? (mark text : List Char) : Option (List Char × List Char) :=
  match mark.isPrefixOf? text with
  | some rest => some ([], rest)
  | none =>
      match text with
      | [] => none
      | c :: text => (splitAt? mark text).map fun found => (c :: found.1, found.2)

/-- The characters with a property, which has a name, or a name and a value. Between them stands an
equals sign or a colon; an exclamation mark before the sign changes nothing. -/
def propertySet? (text : List Char) : Option CharSet :=
  match splitAt? ['!', '='] text <|> splitAt? [':'] text <|> splitAt? ['='] text with
  | some (name, value) => Text.Unicode.propertyValue? name value
  | none => Text.Unicode.property? text

/-- A property: a name in braces, or one letter. -/
def readProperty? (flags : Flags) (negated : Bool) (text : List Char) :
    Option (Escaped × List Char) := do
  if flags.ascii then none
  let (name, rest) ←
    match skipIgnored flags text with
    | '\x7b' :: rest =>
        match takeWanted flags (· != '\x7d') rest.length rest with
        | (name, '\x7d' :: rest) => some (name, rest)
        | _ => none
    | c :: rest => some ([c], rest)
    | [] => none
  return (.set ((flags.fold (← propertySet? name)).complIf negated), rest)

/-- The names of boundaries in braces after `\b`. -/
def namedBoundaries (ascii : Bool) : List (String × Boundary) :=
  [("start", .wordStart ascii false), ("end", .wordEnd ascii false),
    ("start-half", .wordStart ascii true), ("end-half", .wordEnd ascii true)]

/-- The boundary after `\b`, which may be named in braces. -/
def readWordBoundary? (flags : Flags) (text : List Char) : Option (Escaped × List Char) :=
  let named := fun c : Char => c.isAlpha || c == '-'
  match text with
  | '\x7b' :: inside =>
      match takeWanted flags named inside.length inside with
      | ([], _) => some (.boundary (.word flags.ascii), text)
      | (name, '\x7d' :: rest) =>
          ((namedBoundaries flags.ascii).lookup (String.ofList name)).map fun kind =>
            (.boundary kind, rest)
      | _ => none
  | _ => some (.boundary (.word flags.ascii), text)

/-- Reads an escape after its backslash. -/
def readEscape? (flags : Flags) (text : List Char) : Option (Escaped × List Char) :=
  let set := fun set rest => (flags.allowed? set).map fun set => (Escaped.set set, rest)
  match text with
  | [] => none
  | c :: rest =>
      match c with
      | 'd' => set (CharClass.digit flags.ascii) rest
      | 'D' => set (CharClass.digit flags.ascii).compl rest
      | 's' => set (CharClass.blank flags.ascii) rest
      | 'S' => set (CharClass.blank flags.ascii).compl rest
      | 'w' => set (CharClass.word flags.ascii) rest
      | 'W' => set (CharClass.word flags.ascii).compl rest
      | 'p' => readProperty? flags false rest
      | 'P' => readProperty? flags true rest
      | 'b' => readWordBoundary? flags rest
      | 'B' => some (.boundary (.notWord flags.ascii), rest)
      | '<' => some (.boundary (.wordStart flags.ascii false), rest)
      | '>' => some (.boundary (.wordEnd flags.ascii false), rest)
      | 'A' => some (.boundary .textStart, rest)
      | 'z' => some (.boundary .textEnd, rest)
      | 'a' => some (.literal 0x07, rest)
      | 'f' => some (.literal 0x0c, rest)
      | 't' => some (.literal 0x09, rest)
      | 'n' => some (.literal 0x0a, rest)
      | 'r' => some (.literal 0x0d, rest)
      | 'v' => some (.literal 0x0b, rest)
      | 'x' => readHex? flags 2 rest
      | 'u' => readHex? flags 4 rest
      | 'U' => readHex? flags 8 rest
      | _ =>
          if c.toNat < 128 ∧ !c.isAlphanum then some (.literal c.toNat, rest) else none

end SchemaMerge.Pattern
