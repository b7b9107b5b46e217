import SchemaMerge.Text.Unicode.Printable
import SchemaMerge.Text.Affix

/-!
Strings between quotes in messages. Printable characters other than `"` and the backslash stand for
themselves. The rest is escaped, and so are joining marks, which would join the quote before them.
-/

namespace SchemaMerge.Text

/-- A number in lower-case hexadecimal. -/
def hexText (n : Nat) : String :=
  String.ofList (Nat.toDigits 16 n)

/-- How a character stands between quotes. -/
def quotedChar (c : Char) : String :=
  if c = '"' then "\\\""
  else if c = '\\' then "\\\\"
  else if c = '\n' then "\\n"
  else if c = '\r' then "\\r"
  else if c = '\t' then "\\t"
  else if c = '\x00' then "\\0"
  else if Unicode.isPrintable c && !Unicode.isJoiningMark c then c.toString
  else "\\u\x7b" ++ hexText c.toNat ++ "\x7d"

def quoted (s : String) : String :=
  "\"" ++ String.join (s.toList.map quotedChar) ++ "\""

/-- A bracketed list. -/
def bracketed (texts : List String) : String :=
  "[" ++ joined ", " texts ++ "]"

/-- Lists of strings between quotes. -/
def quotedLists (lists : List (List String)) : String :=
  bracketed (lists.map fun strings => bracketed (strings.map quoted))

end SchemaMerge.Text
