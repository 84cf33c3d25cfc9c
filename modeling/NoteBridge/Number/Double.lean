/-!
Double precision numbers in the interchange format. A number is its sign and its code, the other
63 bits: the codes of the magnitudes are in order, infinity follows the largest of them and what
comes after it is not a number. Every operation is exact integer arithmetic with one rounding to
the nearest code, a half going to the even one.
-/

namespace NoteBridge

/-- The number of codes, `2 ^ 63`. -/
abbrev Double.codeCount : Nat := 0x8000000000000000

structure Double where
  negative : Bool
  code : Fin Double.codeCount
deriving DecidableEq

namespace Double

/-- The first bit of a significand, which codes do not show but at the least exponent. -/
def leadingBit : Nat := 1 <<< 52

/-- The code of infinity: exponent field 2047, fraction 0. -/
def infinityCode : Nat := 2047 * leadingBit

def ofCode (negative : Bool) (code : Nat) : Double :=
  ⟨negative, Fin.ofNat codeCount code⟩

def zero (negative : Bool) : Double := ofCode negative 0

def infinity (negative : Bool) : Double := ofCode negative infinityCode

def notANumber : Double := ofCode false (infinityCode + leadingBit / 2)

def isFinite (x : Double) : Bool := x.code.val < infinityCode

def isNaN (x : Double) : Bool := infinityCode < x.code.val

def isZero (x : Double) : Bool := x.code.val == 0

/-- The magnitude of a finite number is `significand * 2 ^ exponent`. -/
def significand (x : Double) : Nat :=
  if x.code.val < leadingBit then x.code.val else leadingBit + x.code.val % leadingBit

def exponent (x : Double) : Int := (max (x.code.val / leadingBit) 1 : Nat) - 1075

/-- The quotient rounded to the nearest integer, a half to the even one. -/
def roundDiv (num den : Nat) : Nat :=
  let q := num / den
  let r := num % den
  if 2 * r < den then q
  else if den < 2 * r then q + 1
  else if q % 2 == 0 then q else q + 1

/-- The nearest number to `num / den`, which is infinite above the largest one. Scaled by
`2 ^ exponent` the quotient has 53 bits, or fewer at the least exponent; the code of the result
is then the exponent's code plus the rounded quotient, a carry included. -/
def ofRatio (negative : Bool) (num den : Nat) : Double :=
  if num = 0 ∨ den = 0 then zero negative
  else
    let guess : Int := (Nat.log2 num : Int) - Nat.log2 den - 52
    let scaled (e : Int) : Nat × Nat :=
      if 0 ≤ e then (num, den <<< e.toNat) else (num <<< (-e).toNat, den)
    let fits : Int := if (scaled guess).1 / (scaled guess).2 < leadingBit then guess - 1 else guess
    let e := max fits (-1074)
    let q := roundDiv (scaled e).1 (scaled e).2
    let code := (e + 1074).toNat * leadingBit + q
    ofCode negative (min code infinityCode)

/-- The nearest number to `digits * 10 ^ power`. Far outside the range of magnitudes the answer
is known from the count of digits alone. -/
def ofDecimal (negative : Bool) (digits : Nat) (power : Int) : Double :=
  if digits = 0 then zero negative
  else
    let width : Int := (Nat.log2 digits + 1) * 3 / 10 + power
    if 330 < width then infinity negative
    else if width < -360 then zero negative
    else if 0 ≤ power then ofRatio negative (digits * Nat.pow 10 power.toNat) 1
    else ofRatio negative digits (Nat.pow 10 (-power).toNat)

def ofInt (n : Int) : Double := ofRatio (n < 0) n.natAbs 1

/-- A finite magnitude as a ratio. -/
def ratio (x : Double) : Nat × Nat :=
  if 0 ≤ x.exponent then (x.significand <<< x.exponent.toNat, 1)
  else (x.significand, 1 <<< (-x.exponent).toNat)

/-- The product and the quotient of the magnitudes of two finite numbers, each rounded once. The
sign is that of the first number. -/
def scaleUp (x y : Double) : Double :=
  if x.isFinite then ofRatio x.negative (x.ratio.1 * y.ratio.1) (x.ratio.2 * y.ratio.2) else x

def scaleDown (x y : Double) : Double :=
  if x.isFinite then ofRatio x.negative (x.ratio.1 * y.ratio.2) (x.ratio.2 * y.ratio.1) else x

/-- The integer that a finite number is, if it is one. -/
def toInt? (x : Double) : Option Int :=
  let signed (n : Nat) : Int := if x.negative then -n else n
  if !x.isFinite then none
  else if 0 ≤ x.exponent then some (signed (x.significand <<< x.exponent.toNat))
  else
    let den := 1 <<< (-x.exponent).toNat
    if x.significand % den == 0 then some (signed (x.significand / den)) else none

/-- The integer nearest to a finite number, a half going away from zero. -/
def roundAway? (x : Double) : Option Int :=
  let signed (n : Nat) : Int := if x.negative then -n else n
  if !x.isFinite then none
  else if 0 ≤ x.exponent then some (signed (x.significand <<< x.exponent.toNat))
  else
    let den := 1 <<< (-x.exponent).toNat
    some (signed ((2 * x.significand + den) / (2 * den)))

end Double
end NoteBridge
