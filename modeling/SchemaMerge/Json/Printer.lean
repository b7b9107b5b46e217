import SchemaMerge.Json.Basic

/-!
JSON text. Each printer takes the characters that follow, so that a whole document is written in one
pass and what a text stands for can be read off its beginning. `compact` writes no blanks; its text
identifies a value. `pretty` indents by two blanks.
-/

namespace SchemaMerge.Json

/-- The lower-case hexadecimal digit of a number below sixteen. -/
def hexDigit (n : Nat) : Char :=
  if n < 10 then Char.ofNat ('0'.toNat + n) else Char.ofNat ('a'.toNat + (n - 10))

/-- How a character stands between quotes: only `"`, the backslash and control characters are
escaped. -/
def escapeChar (c : Char) : List Char :=
  if c = '"' then ['\\', '"']
  else if c = '\\' then ['\\', '\\']
  else if c = '\n' then ['\\', 'n']
  else if c = '\r' then ['\\', 'r']
  else if c = '\t' then ['\\', 't']
  else if c = '\x08' then ['\\', 'b']
  else if c = '\x0c' then ['\\', 'f']
  else if c.toNat < 32 then
    ['\\', 'u', '0', '0', hexDigit (c.toNat / 16), hexDigit (c.toNat % 16)]
  else [c]

/-- Writes a string between quotes, then `rest`. -/
def quoteChars (s : String) (rest : List Char) : List Char :=
  '"' :: s.toList.foldr (fun c acc => escapeChar c ++ acc) ('"' :: rest)

mutual

/-- Writes a value without blanks, then `rest`. -/
def compactChars : Json → List Char → List Char
  | .null, rest => 'n' :: 'u' :: 'l' :: 'l' :: rest
  | .bool true, rest => 't' :: 'r' :: 'u' :: 'e' :: rest
  | .bool false, rest => 'f' :: 'a' :: 'l' :: 's' :: 'e' :: rest
  | .number value, rest => value.text.toList ++ rest
  | .string value, rest => quoteChars value rest
  | .array [], rest => '[' :: ']' :: rest
  | .array (item :: items), rest => '[' :: compactChars item (compactItems items rest)
  | .object [], rest => '{' :: '}' :: rest
  | .object ((key, value) :: fields), rest =>
      '{' :: quoteChars key (':' :: compactChars value (compactFields fields rest))

/-- Writes the remaining items of an array and closes it. -/
def compactItems : List Json → List Char → List Char
  | [], rest => ']' :: rest
  | item :: items, rest => ',' :: compactChars item (compactItems items rest)

/-- Writes the remaining members of an object and closes it. -/
def compactFields : List (String × Json) → List Char → List Char
  | [], rest => '}' :: rest
  | (key, value) :: fields, rest =>
      ',' :: quoteChars key (':' :: compactChars value (compactFields fields rest))

end

/-- The text of a value without blanks, members in the order of the value. -/
def compact (value : Json) : String :=
  String.ofList (compactChars value [])

/-- Length of the compact text in bytes. -/
def byteSize (value : Json) : Nat :=
  value.compact.utf8ByteSize

/-- A line break and the indentation of a nesting level. -/
def lineBreak (level : Nat) (rest : List Char) : List Char :=
  '\n' :: (List.replicate (2 * level) ' ' ++ rest)

mutual

/-- Writes a value that stands at a nesting level, then `rest`. Empty containers stay on their
line. -/
def prettyChars (level : Nat) : Json → List Char → List Char
  | .array (item :: items), rest =>
      '[' :: lineBreak (level + 1)
        (prettyChars (level + 1) item (prettyItems level items rest))
  | .object ((key, value) :: fields), rest =>
      '{' :: lineBreak (level + 1) (quoteChars key (':' :: ' ' ::
        prettyChars (level + 1) value (prettyFields level fields rest)))
  | value, rest => compactChars value rest

def prettyItems (level : Nat) : List Json → List Char → List Char
  | [], rest => lineBreak level (']' :: rest)
  | item :: items, rest =>
      ',' :: lineBreak (level + 1)
        (prettyChars (level + 1) item (prettyItems level items rest))

def prettyFields (level : Nat) : List (String × Json) → List Char → List Char
  | [], rest => lineBreak level ('}' :: rest)
  | (key, value) :: fields, rest =>
      ',' :: lineBreak (level + 1) (quoteChars key (':' :: ' ' ::
        prettyChars (level + 1) value (prettyFields level fields rest)))

end

/-- The text of a value over several lines. -/
def pretty (value : Json) : String :=
  String.ofList (prettyChars 0 value [])

end SchemaMerge.Json
