import NoteBridge.Number.Shortest

/-!
How the digits of a number are laid out. A layout is a record of the decisions a format makes:
which exponents are written out in full and whether an integral number keeps a point. Printing
picks the shortest digits and then follows the record.
-/

namespace NoteBridge

/-- Exponents of the first digit from `least` on and below `bound` are written without an
exponent mark; behind a mark a positive exponent may have its sign. -/
structure Layout where
  least : Int
  bound : Int
  keepsPoint : Bool
  signsExponent : Bool
  nan : String
  infinity : String
  minusInfinity : String

namespace Layout

/-- JSON text: a magnitude from 0.00001 up to 10^16 is written out, and a double always shows that
it is one. JSON has no text for what is not finite. -/
def json : Layout := ⟨-5, 16, true, true, "null", "null", "null"⟩

/-- YAML text writes out the same magnitudes, leaves the sign of a positive exponent away and has
words for what is not finite. -/
def yaml : Layout := ⟨-5, 16, true, false, ".nan", ".inf", "-.inf"⟩

/-- Every digit in its place, and no point behind an integer. -/
def plain : Layout := ⟨-400, 400, false, false, "NaN", "inf", "-inf"⟩

def digitChars (n : Nat) : List Char := (Nat.toDigits 10 n)

def zeros (n : Int) : List Char := List.replicate n.toNat '0'

def magnitude (l : Layout) (d : Double.Decimal) : List Char :=
  let digits := digitChars d.digits
  let count : Int := digits.length
  let lead := d.power + count - 1
  let point := if l.keepsPoint then ['.', '0'] else []
  if d.digits = 0 then '0' :: point
  else if l.least ≤ lead ∧ lead < l.bound then
    if 0 ≤ d.power then digits ++ zeros d.power ++ point
    else if 0 ≤ lead then
      digits.take (lead + 1).toNat ++ '.' :: digits.drop (lead + 1).toNat
    else '0' :: '.' :: zeros (-lead - 1) ++ digits
  else
    let fraction := if digits.length ≤ 1 then [] else '.' :: digits.drop 1
    let mark :=
      if lead < 0 then ['e', '-'] else if l.signsExponent then ['e', '+'] else ['e']
    digits.take 1 ++ fraction ++ mark ++ digitChars lead.natAbs

def format (l : Layout) (x : Double) : String :=
  if x.isNaN then l.nan
  else if !x.isFinite then if x.negative then l.minusInfinity else l.infinity
  else
    let body := l.magnitude x.shortest
    String.ofList (if x.negative then '-' :: body else body)

end Layout
end NoteBridge
