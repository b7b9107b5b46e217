/-!
Non-negative binary floating-point numbers of 53 significant bits, in exact `Nat` arithmetic.
`ofRatio` rounds a quotient to the nearest such number, a tie to the even one. `shortestDigits`
goes back: among the decimals that round to the number it finds one with the fewest digits and, of
those, the nearest.
-/

namespace SchemaMerge.Json

/-- The number `mantissa * 2 ^ exponent`. -/
structure Binary64 where
  mantissa : Nat
  exponent : Int
  deriving DecidableEq, Repr

namespace Binary64

def zero : Binary64 := ⟨0, -1074⟩

def isZero (x : Binary64) : Bool :=
  x.mantissa == 0

/-- Numbers from `2 ^ 1024` on count as infinite. -/
def isInfinite (x : Binary64) : Bool :=
  x.mantissa != 0 && x.exponent > 971

/-- Numerator and denominator of `x`. -/
def ratio (x : Binary64) : Nat × Nat :=
  (x.mantissa * Nat.pow 2 x.exponent.toNat, Nat.pow 2 (-x.exponent).toNat)

/-- The quotient rounded to the nearest integer, a half to the even one. -/
def roundHalfEven (num den : Nat) : Nat :=
  let quotient := num / den
  let twice := 2 * (num % den)
  if twice < den then quotient
  else if den < twice then quotient + 1
  else quotient + quotient % 2

/-- The greatest `k` with `2 ^ k ≤ num / den`, for positive arguments. -/
def floorLog2 (num den : Nat) : Int :=
  let guess : Int := (num.log2 : Int) - den.log2
  if den * Nat.pow 2 guess.toNat ≤ num * Nat.pow 2 (-guess).toNat then guess else guess - 1

/-- The quotient rounded to 53 significant bits, and to a multiple of `2 ^ (-1074)`. -/
def ofRatio (num den : Nat) : Binary64 :=
  if num = 0 then zero
  else
    let exponent := max (floorLog2 num den - 52) (-1074)
    let mantissa :=
      roundHalfEven (num * Nat.pow 2 (-exponent).toNat) (den * Nat.pow 2 exponent.toNat)
    if mantissa = Nat.pow 2 53 then ⟨Nat.pow 2 52, exponent + 1⟩ else ⟨mantissa, exponent⟩

def ofNat (n : Nat) : Binary64 :=
  ofRatio n 1

def mul (x y : Binary64) : Binary64 :=
  ofRatio (x.ratio.1 * y.ratio.1) (x.ratio.2 * y.ratio.2)

def div (x y : Binary64) : Binary64 :=
  ofRatio (x.ratio.1 * y.ratio.2) (x.ratio.2 * y.ratio.1)

/-- Divides by `10 ^ k`, by at most `10 ^ 308` at a time, rounding each quotient. -/
def divPowTen (x : Binary64) (k : Nat) : Binary64 :=
  if k ≤ 308 then x.div (ofNat (Nat.pow 10 k))
  else if x.isZero then x
  else divPowTen (x.div (ofNat (Nat.pow 10 308))) (k - 308)
  termination_by k

/-- `significand * 10 ^ exponent`, where the significand, the power and their product or quotient
are each rounded. `none` when the result is infinite. -/
def scaled? (significand : Nat) (exponent : Int) : Option Binary64 :=
  let x := ofNat significand
  if exponent < 0 then some (x.divPowTen (-exponent).toNat)
  else if x.isZero then some x
  else if 308 < exponent then none
  else
    let product := x.mul (ofNat (Nat.pow 10 exponent.toNat))
    if product.isInfinite then none else some product

/-- Number of decimal digits. -/
def digitCount (n : Nat) : Nat :=
  (Nat.toDigits 10 n).length

/-- The greatest `k` with `10 ^ k ≤ num / den`, for positive arguments. -/
def floorLog10 (num den : Nat) : Int :=
  if den ≤ num then (digitCount (num / den) : Int) - 1
  else
    let shift := digitCount den - digitCount num
    if den ≤ num * Nat.pow 10 shift then -(shift : Int) else -(shift : Int) - 1

/-- Half the distance to the next number below, in quarters of the last place. -/
def quartersBelow (x : Binary64) : Nat :=
  if x.mantissa = Nat.pow 2 52 ∧ -1074 < x.exponent then 1 else 2

/-- Whether `digits * 10 ^ place` rounds to `x`: it lies between the two midpoints, which belong to
`x` iff its mantissa is even. -/
def roundsTo (x : Binary64) (digits : Nat) (place : Int) : Bool :=
  let scale := x.exponent - 2
  let value := digits * Nat.pow 10 place.toNat * Nat.pow 2 (-scale).toNat
  let unit := Nat.pow 10 (-place).toNat * Nat.pow 2 scale.toNat
  let low := (4 * x.mantissa - x.quartersBelow) * unit
  let high := (4 * x.mantissa + 2) * unit
  if x.mantissa % 2 = 0 then low ≤ value && value ≤ high else low < value && value < high

/-- The multiple of `10 ^ place` nearest to `x` among the two neighbours of `x` that round to it. -/
def onGrid? (x : Binary64) (place : Int) : Option Nat :=
  let (num, den) := x.ratio
  let num := num * Nat.pow 10 (-place).toNat
  let den := den * Nat.pow 10 place.toNat
  let below := num / den
  match x.roundsTo below place, x.roundsTo (below + 1) place with
  | true, true => some (roundHalfEven num den)
  | true, false => some below
  | false, true => some (below + 1)
  | false, false => none

/-- Tries grids of one more digit each, at most `fuel` of them. -/
def searchGrids (x : Binary64) (place : Int) : Nat → Nat × Int
  | 0 => (0, 0)
  | fuel + 1 =>
      match x.onGrid? place with
      | some digits => (digits, place)
      | none => searchGrids x (place - 1) fuel

/-- Digits and place of the shortest decimal that rounds to `x`. Seventeen digits always do. -/
def shortestDigits (x : Binary64) : Nat × Int :=
  if x.isZero then (0, 0)
  else x.searchGrids (floorLog10 x.ratio.1 x.ratio.2) 18

end Binary64

end SchemaMerge.Json
