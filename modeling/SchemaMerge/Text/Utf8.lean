/-!
The bytes of characters in UTF-8. `Utf8.spans` describes the bytes of a range of code points: it
gives sequences of byte ranges such that each character of the range is in one of them, and each
choice of bytes from a sequence is a character of the range. They are as few as can be, in the order
of the code points.
-/

namespace SchemaMerge.Text.Utf8

/-- A range of bytes for every place. -/
abbrev Span := List (Nat × Nat)

def bytes (n : Nat) : List Nat :=
  if n < 0x80 then [n]
  else if n < 0x800 then [0xc0 + n / 0x40, 0x80 + n % 0x40]
  else if n < 0x10000 then [0xe0 + n / 0x1000, 0x80 + n / 0x40 % 0x40, 0x80 + n % 0x40]
  else
    [0xf0 + n / 0x40000, 0x80 + n / 0x1000 % 0x40, 0x80 + n / 0x40 % 0x40, 0x80 + n % 0x40]

/-- Any bytes that may follow a first one, as many as are given. -/
def anyBytes (like : List Nat) : Span :=
  like.map fun _ => (0x80, 0xbf)

/-- The spans of what is not below the given following bytes. -/
def spansFrom : List Nat → List Span
  | [] => [[]]
  | byte :: rest =>
      if rest.all (· == 0x80) then [(byte, 0xbf) :: anyBytes rest]
      else
        (spansFrom rest).map ((byte, byte) :: ·) ++
          if byte < 0xbf then [(byte + 1, 0xbf) :: anyBytes rest] else []

/-- The spans of what is not above the given following bytes. -/
def spansTo : List Nat → List Span
  | [] => [[]]
  | byte :: rest =>
      if rest.all (· == 0xbf) then [(0x80, byte) :: anyBytes rest]
      else
        (if 0x80 < byte then [(0x80, byte - 1) :: anyBytes rest] else []) ++
          (spansTo rest).map ((byte, byte) :: ·)

/-- The spans between two characters with the same number of bytes. -/
def spansBetween : List Nat → List Nat → List Span
  | low :: lows, high :: highs =>
      if low = high then (spansBetween lows highs).map ((low, low) :: ·)
      else
        let below :=
          if lows.all (· == 0x80) then [] else (spansFrom lows).map ((low, low) :: ·)
        let above :=
          if highs.all (· == 0xbf) then [] else (spansTo highs).map ((high, high) :: ·)
        let first := if below.isEmpty then low else low + 1
        let last := if above.isEmpty then high else high - 1
        below ++ (if first ≤ last then [(first, last) :: anyBytes lows] else []) ++ above
  | _, _ => [[]]

/-- The ranges of code points with one, two, three and four bytes. Surrogates are left out. -/
def lengthRanges : List (Nat × Nat) :=
  [(0, 0x7f), (0x80, 0x7ff), (0x800, 0xd7ff), (0xe000, 0xffff), (0x10000, 0x10ffff)]

/-- The spans of a range of code points. -/
def spans (first last : Nat) : List Span :=
  lengthRanges.flatMap fun range =>
    let first := max first range.1
    let last := min last range.2
    if first ≤ last then spansBetween (bytes first) (bytes last) else []

end SchemaMerge.Text.Utf8
