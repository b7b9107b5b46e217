import SchemaMerge.Text.Unicode.Binary
import SchemaMerge.Text.Unicode.Script

/-!
Where a text may be divided: the classes of characters by which boundaries of graphemes, words and
sentences are found.
-/

namespace SchemaMerge.Text.Unicode

/-- Characters that are one with what follows. -/
def prepended : CharSet :=
  .ofTable "600-605 6dd 70f 890-891 8e2 d4e 110bd 110cd 111c2-111c3 113d1 1193f 11941 11a3a
    11a84-11a89 11d46 11f02"

/-- Extenders and all that is shown as a part of the character before. -/
def wordExtend : CharSet :=
  .unions [graphemeExtend, ofCategories ["mc"], tabled "emod"]

def hangulTwo : CharSet :=
  .ofTable "ac00-d788/1c"

/-- The characters of a class of grapheme boundaries. -/
def graphemeBreak? (name : String) : Option CharSet :=
  match name with
  | "cr" => some (.single 0x0d)
  | "lf" => some (.single 0x0a)
  | "cn" | "control" =>
      some ((CharSet.unions
        [ofCategories ["zl", "zp", "cc", "cf"], unassigned.inter defaultIgnorable]).diff
          (.unions [prepended, graphemeExtend, .ofTable "a d 200c-200d"]))
  | "ex" | "extend" => some (graphemeExtend.union (tabled "emod"))
  | "pp" | "prepend" => some prepended
  | "ri" | "regionalindicator" => some (tabled "ri")
  | "sm" | "spacingmark" =>
      some (((ofCategories ["mc"]).union (.ofTable "e33 eb3")).diff
        (graphemeExtend.union (.ofTable "102b-102c 1038 1062-1064 1067-106d 1083 1087-108c 108f
          109a-109c 1a61 1a63-1a64 aa7b aa7d 11720-11721")))
  | "l" => some (.ofTable "1100-115f a960-a97c")
  | "v" => some (.ofTable "1160-11a7 d7b0-d7c6 16d63 16d67-16d6a")
  | "t" => some (.ofTable "11a8-11ff d7cb-d7fb")
  | "lv" => some hangulTwo
  | "lvt" => some ((CharSet.range 0xac00 0xd7a3).diff hangulTwo)
  | "zwj" => some (.single 0x200d)
  | _ => none

def hebrewLetters : CharSet :=
  .ofTable "5d0-5ea 5ef-5f2 fb1d fb1f-fb28 fb2a-fb36 fb38-fb3c fb3e fb40-fb41 fb43-fb44 fb46-fb4f"

def katakanaLetters : CharSet :=
  .ofTable "3031-3035 309b-309c 30a0-30fa 30fc-30ff 31f0-31ff 32d0-32fe 3300-3357 ff66-ff9d
    1aff0-1aff3 1aff5-1affb 1affd-1affe 1b000 1b120-1b122 1b155 1b164-1b167"

/-- The scripts whose words are not set apart. -/
def unspacedScripts : CharSet :=
  .unions
    (["hira", "thai", "laoo", "khmr", "mymr", "tale", "talu", "lana", "tavt", "ahom"].filterMap
      script?)

/-- Letters that form words of several characters. -/
def wordLetters : CharSet :=
  (alphabetic.diff (.unions
    [tabled "ideo", katakanaLetters, wordExtend, hebrewLetters, unspacedScripts])).union
      (.ofTable "2c2-2c5 2d2-2d7 2de-2df 2e5-2eb 2ed 2ef-2ff 55a-55c 55e 58a 5f3 70f a708-a716
        a720-a721 a789-a78a ab5b")

/-- Signs that stand before a number. -/
def numberSigns : CharSet :=
  .ofTable "600-605 6dd 890-891 8e2 110bd 110cd"

/-- The characters of a class of word boundaries. -/
def wordBreak? (name : String) : Option CharSet :=
  match name with
  | "cr" => some (.single 0x0d)
  | "lf" => some (.single 0x0a)
  | "nl" | "newline" => some (.ofTable "b-c 85 2028-2029")
  | "dq" | "doublequote" => some (.single 0x22)
  | "sq" | "singlequote" => some (.single 0x27)
  | "extend" => some (wordExtend.diff (.single 0x200d))
  | "fo" | "format" =>
      some ((ofCategories ["cf"]).diff
        (.unions [prepended, graphemeExtend, .ofTable "200b-200d"]))
  | "ka" | "katakana" => some katakanaLetters
  | "hl" | "hebrewletter" => some hebrewLetters
  | "le" | "aletter" => some wordLetters
  | "mb" | "midnumlet" => some (.ofTable "2e 2018-2019 2024 fe52 ff07 ff0e")
  | "ml" | "midletter" => some (.ofTable "3a b7 387 55f 5f4 2027 fe13 fe55 ff1a")
  | "mn" | "midnum" =>
      some (.ofTable "2c 3b 37e 589 60c-60d 66c 7f8 2044 fe10 fe14 fe50 fe54 ff0c ff1b")
  | "nu" | "numeric" =>
      some (.unions [ofCategories ["nd"], numberSigns, .single 0x66b])
  | "ex" | "extendnumlet" => some (.ofTable "5f 202f 203f-2040 2054 fe33-fe34 fe4d-fe4f ff3f")
  | "ri" | "regionalindicator" => some (tabled "ri")
  | "wsegspace" => some (.ofTable "20 1680 2000-2006 2008-200a 205f 3000")
  | "zwj" => some (.single 0x200d)
  | _ => none

def sentenceExtend : CharSet :=
  .unions [graphemeExtend, ofCategories ["mc"], .single 0x200d]

def sentenceLower : CharSet :=
  lowercase.diff (graphemeExtend.union (.ofTable "10d0-10fa 10fd-10ff"))

def sentenceUpper : CharSet :=
  (uppercase.union (ofCategories ["lt"])).diff (.ofTable "1c90-1cba 1cbd-1cbf")

/-- Full stops, which may also stand within a sentence. -/
def fullStops : CharSet :=
  .ofTable "2e 2024 fe52 ff0e"

/-- The characters of a class of sentence boundaries. -/
def sentenceBreak? (name : String) : Option CharSet :=
  match name with
  | "cr" => some (.single 0x0d)
  | "lf" => some (.single 0x0a)
  | "ex" | "extend" => some sentenceExtend
  | "se" | "sep" => some (.ofTable "85 2028-2029")
  | "fo" | "format" =>
      some ((ofCategories ["cf"]).diff
        (.unions [graphemeExtend, numberSigns, .ofTable "200c-200d"]))
  | "sp" => some ((tabled "wspace").diff (.ofTable "a d 85 2028-2029"))
  | "lo" | "lower" => some sentenceLower
  | "up" | "upper" => some sentenceUpper
  | "le" | "oletter" =>
      some ((alphabetic.union (.single 0x5f3)).diff
        (.unions [sentenceLower, sentenceUpper, sentenceExtend]))
  | "nu" | "numeric" =>
      some (.unions [ofCategories ["nd"], numberSigns, .range 0x66b 0x66c])
  | "at" | "aterm" => some fullStops
  | "sc" | "scontinue" =>
      some (.ofTable "2c-2d 3a-3b 37e 55d 60c-60d 7f8 1802 1808 2013-2014 3001 fe10-fe11 fe13-fe14
        fe31-fe32 fe50-fe51 fe54-fe55 fe58 fe63 ff0c-ff0d ff1a-ff1b ff64")
  | "st" | "sterm" => some ((tabled "sterm").diff fullStops)
  | "cl" | "close" =>
      some ((ofCategories ["ps", "pe", "pf", "pi"]).union
        (.ofTable "22 27 275b-2760 2e00-2e01 2e06-2e08 2e0b 1f676-1f678"))
  | _ => none

end SchemaMerge.Text.Unicode
