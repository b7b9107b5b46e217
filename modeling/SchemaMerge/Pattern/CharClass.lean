import SchemaMerge.Text.Unicode.Case
import SchemaMerge.Text.Unicode.Word

/-!
The classes of characters that patterns know: word characters, digits and white space, each of all
scripts or of ASCII alone, the dot, and the classes that are called by name within brackets.
-/

namespace SchemaMerge.Pattern

open Text (CharSet)

namespace CharClass

/-- Every character but line feeds, and carriage returns if these end lines too. -/
def exceptLineEnds (returns : Bool) : CharSet :=
  CharSet.compl ⟨if returns then [(10, 10), (13, 13)] else [(10, 10)]⟩

def asciiWord : CharSet :=
  ⟨[(0x30, 0x39), (0x41, 0x5a), (0x5f, 0x5f), (0x61, 0x7a)]⟩

def asciiBlank : CharSet :=
  ⟨[(0x09, 0x0d), (0x20, 0x20)]⟩

/-- Word characters. -/
def word (ascii : Bool) : CharSet :=
  if ascii then asciiWord else ⟨Text.Unicode.wordRanges⟩

/-- Decimal digits. -/
def digit (ascii : Bool) : CharSet :=
  if ascii then .range 0x30 0x39 else ⟨Text.Unicode.digitRanges⟩

/-- White space. -/
def blank (ascii : Bool) : CharSet :=
  if ascii then asciiBlank else ⟨Text.Unicode.blankRanges⟩

/-- The classes that are called by name within brackets. -/
def named : List (String × CharSet) :=
  [("alnum", ⟨[(0x30, 0x39), (0x41, 0x5a), (0x61, 0x7a)]⟩),
    ("alpha", ⟨[(0x41, 0x5a), (0x61, 0x7a)]⟩),
    ("ascii", ⟨[(0x00, 0x7f)]⟩),
    ("blank", ⟨[(0x09, 0x09), (0x20, 0x20)]⟩),
    ("cntrl", ⟨[(0x00, 0x1f), (0x7f, 0x7f)]⟩),
    ("digit", ⟨[(0x30, 0x39)]⟩),
    ("graph", ⟨[(0x21, 0x7e)]⟩),
    ("lower", ⟨[(0x61, 0x7a)]⟩),
    ("print", ⟨[(0x20, 0x7e)]⟩),
    ("punct", ⟨[(0x21, 0x2f), (0x3a, 0x40), (0x5b, 0x60), (0x7b, 0x7e)]⟩),
    ("space", asciiBlank),
    ("upper", ⟨[(0x41, 0x5a)]⟩),
    ("word", asciiWord),
    ("xdigit", ⟨[(0x30, 0x39), (0x41, 0x46), (0x61, 0x66)]⟩)]

end CharClass

end SchemaMerge.Pattern
