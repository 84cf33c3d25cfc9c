import NoteBridge.Number.Double

/-!
The shortest decimal of a double: the fewest digits that read back as the same number, and of two
decimals of that length the nearer one. The reals that read back as a number form an interval
around it, whose ends belong to it exactly when its significand is even. For each count of digits
the two neighbours of the value on that decimal grid are tested; if any point of a grid lies in
the interval, one of these two does.
-/

namespace NoteBridge.Double

/-- A decimal `digits * 10 ^ power`. -/
structure Decimal where
  digits : Nat
  power : Int
deriving DecidableEq, Repr

/-- The ratio `n * 2 ^ e`, as numerator and denominator. -/
def binaryRatio (n : Nat) (e : Int) : Nat × Nat :=
  if 0 ≤ e then (n <<< e.toNat, 1) else (n, 1 <<< (-e).toNat)

def decimalRatio (n : Nat) (e : Int) : Nat × Nat :=
  if 0 ≤ e then (n * Nat.pow 10 e.toNat, 1) else (n, Nat.pow 10 (-e).toNat)

def ratioLe (a b : Nat × Nat) : Bool := a.1 * b.2 ≤ b.1 * a.2

def ratioLt (a b : Nat × Nat) : Bool := a.1 * b.2 < b.1 * a.2

/-- The exponent of the first digit: the largest `k` with `10 ^ k` at most the ratio. -/
def leadingPower (r : Nat × Nat) : Int :=
  let guess : Int := (((Nat.log2 r.1 : Int) - Nat.log2 r.2) * 30103) / 100000
  let low := if ratioLe (decimalRatio 1 guess) r then guess else guess - 1
  if ratioLe (decimalRatio 1 (low + 1)) r then low + 1 else low

/-- The value and the ends of its interval, all as multiples of `2 ^ (exponent - 2)`. Below a
power of two the neighbour is half as far away. -/
def interval (x : Double) : Nat × Nat × Nat :=
  let m := 4 * x.significand
  let narrow := x.code.val % leadingBit == 0 && leadingBit < x.code.val
  (if narrow then m - 1 else m - 2, m, m + 2)

/-- The candidate of the given digit count, if one of the two neighbours lies in the interval. -/
def candidate? (x : Double) (lead : Int) (count : Nat) : Option Decimal :=
  let (low, value, high) := x.interval
  let e := x.exponent - 2
  let closed := x.significand % 2 == 0
  let power := lead + 1 - count
  let (vn, vd) := binaryRatio value e
  let (pn, pd) := decimalRatio 1 power
  let floor := (vn * pd) / (vd * pn)
  let inside (d : Nat) : Bool :=
    let r := decimalRatio d power
    if closed then ratioLe (binaryRatio low e) r && ratioLe r (binaryRatio high e)
    else ratioLt (binaryRatio low e) r && ratioLt r (binaryRatio high e)
  let twice := 2 * ((vn * pd) % (vd * pn))
  let upIsNearer := vd * pn < twice || (twice == vd * pn && floor % 2 == 1)
  match inside floor, inside (floor + 1) with
  | true, true => some ⟨if upIsNearer then floor + 1 else floor, power⟩
  | true, false => some ⟨floor, power⟩
  | false, true => some ⟨floor + 1, power⟩
  | false, false => none

/-- Drops the zeros at the end; at most as many as the first argument says. -/
def Decimal.normal : Nat → Decimal → Decimal
  | 0, d => d
  | n + 1, d =>
    if d.digits ≠ 0 ∧ d.digits % 10 = 0 then Decimal.normal n ⟨d.digits / 10, d.power + 1⟩ else d

/-- The shortest decimal of a finite number. Seventeen digits always suffice. -/
def shortest (x : Double) : Decimal :=
  if x.isZero then ⟨0, 0⟩
  else
    let lead := leadingPower (binaryRatio x.significand x.exponent)
    let found := (List.range 17).findSome? fun i => x.candidate? lead (i + 1)
    (found.getD ⟨x.significand, 0⟩).normal 20

end NoteBridge.Double
