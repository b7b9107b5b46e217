import SchemaMerge.Json.Binary64

/-!
JSON numbers. An integer literal of 64 bits stands for itself; every other literal stands for the
shortest decimal of the floating-point number that it names. `1` and `1.0` are different numbers.
-/

namespace SchemaMerge.Json

/-- The number `± digits * 10 ^ exponent`, where `digits` ends in no zero. -/
structure Decimal where
  negative : Bool
  digits : Nat
  exponent : Int
  deriving DecidableEq, Repr

/-- Moves trailing zeros of the digits into the exponent, at most `fuel` of them. -/
def Decimal.trim (negative : Bool) (digits : Nat) (exponent : Int) : Nat → Decimal
  | 0 => ⟨negative, digits, exponent⟩
  | fuel + 1 =>
      if digits = 0 then ⟨negative, 0, 0⟩
      else if digits % 10 = 0 then trim negative (digits / 10) (exponent + 1) fuel
      else ⟨negative, digits, exponent⟩

def Decimal.ofBinary64 (negative : Bool) (x : Binary64) : Decimal :=
  let (digits, place) := x.shortestDigits
  trim negative digits place 20

def zeros (n : Nat) : String :=
  String.ofList (List.replicate n '0')

/-- Plain notation with a fraction for numbers from `10 ^ (-5)` up to `10 ^ 16`, and otherwise one
digit before the point and a signed exponent. -/
def Decimal.text (d : Decimal) : String :=
  let digits := Nat.toDigits 10 d.digits
  let lead : Int := d.exponent + digits.length - 1
  let body :=
    if -5 ≤ lead ∧ lead < 16 then
      if 0 ≤ d.exponent then String.ofList digits ++ zeros d.exponent.toNat ++ ".0"
      else if 0 ≤ lead then
        String.ofList (digits.take (lead.toNat + 1)) ++ "." ++
          String.ofList (digits.drop (lead.toNat + 1))
      else "0." ++ zeros (-lead - 1).toNat ++ String.ofList digits
    else
      let fraction := if digits.length = 1 then "" else "." ++ String.ofList (digits.drop 1)
      let sign := if lead < 0 then "-" else "+"
      String.ofList (digits.take 1) ++ fraction ++ "e" ++ sign ++ toString lead.natAbs
  if d.negative then "-" ++ body else body

inductive Number where
  | integer (value : Int)
  | decimal (value : Decimal)
  deriving DecidableEq, Repr

def Number.text : Number → String
  | integer value => toString value
  | decimal value => value.text

/-- A number as it is written: digit lists without their signs and marks. -/
structure NumberLiteral where
  negative : Bool
  whole : List Nat
  fraction : Option (List Nat)
  /-- Whether the exponent is negative, and its digits. -/
  exponent : Option (Bool × List Nat)
  deriving DecidableEq, Repr

/-- Appends digits to a significand while it stays below `2 ^ 64`. Returns it with the digits that
are left over. -/
def appendDigits (significand : Nat) : List Nat → Nat × List Nat
  | [] => (significand, [])
  | digit :: rest =>
      if significand * 10 + digit < UInt64.size then appendDigits (significand * 10 + digit) rest
      else (significand, digit :: rest)

/-- The value of a digit list, or `none` from `2 ^ 31` on. -/
def exponentValue? (digits : List Nat) : Option Nat :=
  digits.foldlM (fun value digit =>
    let next := value * 10 + digit
    if next < Nat.pow 2 31 then some next else none) 0

def Number.ofScaled? (negative : Bool) (significand : Nat) (exponent : Int) : Option Number :=
  (Binary64.scaled? significand exponent).map fun x => .decimal (.ofBinary64 negative x)

/-- The number that a literal names. An integer that fits 64 bits is exact. Otherwise the leading
digits that fit 64 bits are scaled by the power of ten, and a result out of range is refused. -/
def Number.ofLiteral? (literal : NumberLiteral) : Option Number :=
  let (significand, dropped) := appendDigits 0 literal.whole
  match literal.fraction, literal.exponent with
  | none, none =>
      if dropped.isEmpty then
        if !literal.negative then some (.integer significand)
        else if significand = 0 then some (.decimal ⟨true, 0, 0⟩)
        else if significand ≤ Nat.pow 2 63 then some (.integer (-(significand : Int)))
        else ofScaled? true significand 0
      else ofScaled? literal.negative significand dropped.length
  | fraction, exponent =>
      let places := fraction.getD []
      let (significand, ignored) := appendDigits significand places
      let start : Int := (dropped.length : Int) - (places.length - ignored.length : Nat)
      match exponent with
      | none => ofScaled? literal.negative significand start
      | some (isNegative, digits) =>
          match exponentValue? digits with
          | some value =>
              ofScaled? literal.negative significand
                (if isNegative then start - value else start + value)
          | none =>
              if significand = 0 ∨ isNegative then some (.decimal ⟨literal.negative, 0, 0⟩)
              else none

/-- A count: an integer literal of 64 bits without sign. -/
def Number.toUInt64? : Number → Option UInt64
  | integer value =>
      if 0 ≤ value ∧ value < UInt64.size then some (UInt64.ofNat value.toNat) else none
  | decimal _ => none

end SchemaMerge.Json
