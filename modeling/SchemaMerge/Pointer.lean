import SchemaMerge.Json.Basic
import SchemaMerge.Text.Count

/-!
JSON pointers: texts such as `#/paths/~1users/get`. A segment is written with `~0` for `~` and `~1`
for `/`, so `unescape (escape s) = s` for every string (`unescape_escape`). A pointer resolves by
stepping through the value one segment at a time.
-/

namespace SchemaMerge.Pointer

/-- How a character of a segment is written. -/
def escapeChar (c : Char) : List Char :=
  if c = '~' then ['~', '0'] else if c = '/' then ['~', '1'] else [c]

/-- Reads `~1` as `/` and `~0` as `~`. Any other `~` stands for itself. -/
def unescapeChars : List Char → List Char
  | '~' :: '1' :: rest => '/' :: unescapeChars rest
  | '~' :: '0' :: rest => '~' :: unescapeChars rest
  | c :: rest => c :: unescapeChars rest
  | [] => []

def escape (segment : String) : String :=
  String.ofList (segment.toList.flatMap escapeChar)

def unescape (segment : String) : String :=
  String.ofList (unescapeChars segment.toList)

/-- The pointer one segment below `parent`. -/
def child (parent segment : String) : String :=
  parent ++ "/" ++ escape segment

/-- The pointer several segments below `parent`. -/
def descend (parent : String) (segments : List String) : String :=
  segments.foldl child parent

/-- The parts of a text between slashes: one more than there are slashes. -/
def splitSlashes : List Char → List (List Char)
  | [] => [[]]
  | c :: rest =>
      if c = '/' then [] :: splitSlashes rest
      else
        match splitSlashes rest with
        | [] => [[c]]
        | part :: parts => (c :: part) :: parts

/-- A pointer without the `#` that it may start with. -/
def body (pointer : String) : List Char :=
  match pointer.toList with
  | '#' :: rest => rest
  | chars => chars

/-- The segments of a pointer, decoded. The slash in front of the first one is not required. -/
def segments (pointer : String) : List String :=
  let parts :=
    match body pointer with
    | [] => []
    | '/' :: rest => splitSlashes rest
    | chars => splitSlashes chars
  parts.map fun part => String.ofList (unescapeChars part)

/-- The member or item of a value that a segment names. -/
def step? (value : Json) (segment : String) : Option Json :=
  match value with
  | .object fields => fields.lookup segment
  | .array items => (Text.count? segment).bind fun index => items[index]?
  | _ => none

/-- What a pointer points at. The pointer starts with `#`, and with `#/` unless it is the root. -/
def resolve? (root : Json) (pointer : String) : Option Json :=
  match pointer.toList with
  | ['#'] => some root
  | '#' :: '/' :: _ => (segments pointer).foldlM step? root
  | _ => none

theorem unescapeChars_escape (chars : List Char) :
    unescapeChars (chars.flatMap escapeChar) = chars := by
  induction chars with
  | nil => rfl
  | cons c rest ih =>
      rw [List.flatMap_cons, escapeChar]
      split
      case isTrue h => simp [unescapeChars, ih, h]
      case isFalse h =>
        split
        case isTrue h' => simp [unescapeChars, ih, h']
        case isFalse h' =>
          rw [List.singleton_append, unescapeChars, ih]
          · exact fun _ hc => absurd hc h
          · exact fun _ hc => absurd hc h

theorem unescape_escape (segment : String) : unescape (escape segment) = segment := by
  simp [unescape, escape, unescapeChars_escape]

end SchemaMerge.Pointer
