import NoteBridge.Number.Double
import NoteBridge.Text.Search

/-!
Reading numbers. A decimal literal is digits, a point, digits and a power of ten; the formats
differ in which parts may be missing and in the words they know, and share the value of what is
left.
-/

namespace NoteBridge.Number

def isDigit (c : Char) : Bool := '0' ≤ c && c ≤ '9'

def digitValue (c : Char) : Nat := c.toNat - '0'.toNat

def natOfDigits (cs : List Char) : Nat := cs.foldl (fun n c => 10 * n + digitValue c) 0

/-- A decimal literal: the digits on both sides of the point, if there is one, and the power, if
there is one. -/
structure Literal where
  whole : List Char
  fraction : Option (List Char)
  power : Option Int

/-- The sign and digits of a power of ten; none if no digit follows the mark. -/
def power? (cs : List Char) : Option (Int × List Char) :=
  let (negative, rest) :=
    match cs with
    | '+' :: rest => (false, rest)
    | '-' :: rest => (true, rest)
    | rest => (false, rest)
  let digits := rest.takeWhile isDigit
  if digits.isEmpty then none
  else
    let n : Int := natOfDigits digits
    some (if negative then -n else n, rest.dropWhile isDigit)

/-- The longest literal at the start of the text, and what follows it. A point or a power mark
that no literal can contain is left over. -/
def Literal.read (cs : List Char) : Literal × List Char :=
  let whole := cs.takeWhile isDigit
  let rest := cs.dropWhile isDigit
  let (fraction, rest) :=
    match rest with
    | '.' :: after => (some (after.takeWhile isDigit), after.dropWhile isDigit)
    | _ => (none, rest)
  match rest with
  | c :: after =>
    if c = 'e' ∨ c = 'E' then
      match power? after with
      | some (power, left) => (⟨whole, fraction, some power⟩, left)
      | none => (⟨whole, fraction, none⟩, rest)
    else (⟨whole, fraction, none⟩, rest)
  | [] => (⟨whole, fraction, none⟩, [])

def Literal.isInteger (l : Literal) : Bool := l.fraction.isNone && l.power.isNone

def Literal.toDouble (l : Literal) (negative : Bool) : Double :=
  let fraction := l.fraction.getD []
  Double.ofDecimal negative (natOfDigits (l.whole ++ fraction))
    (l.power.getD 0 - fraction.length)

/-- The sign in front of a number, and the rest. -/
def sign (cs : List Char) : Bool × List Char :=
  match cs with
  | '+' :: rest => (false, rest)
  | '-' :: rest => (true, rest)
  | _ => (false, cs)

/-- A double in its common written form: a sign, then digits with a point anywhere among them or
at either end, a power of ten, or one of the words `inf`, `infinity` and `nan` in any case. -/
def double? (cs : List Char) : Option Double :=
  let (negative, rest) := sign cs
  let word := Text.toAsciiLower rest
  if word = ['i', 'n', 'f'] ∨ word = ['i', 'n', 'f', 'i', 'n', 'i', 't', 'y'] then
    some (Double.infinity negative)
  else if word = ['n', 'a', 'n'] then some Double.notANumber
  else
    let (l, left) := Literal.read rest
    if left.isEmpty && !(l.whole ++ l.fraction.getD []).isEmpty then some (l.toDouble negative)
    else none

/-- The value of a digit in bases up to 16. -/
def digitIn? (base : Nat) (c : Char) : Option Nat :=
  let c := c.toLower
  let value :=
    if isDigit c then digitValue c
    else if 'a' ≤ c && c ≤ 'z' then c.toNat - 'a'.toNat + 10
    else base
  if value < base then some value else none

/-- A number written in a base, with at least one digit and nothing else. -/
def inBase? (base : Nat) (cs : List Char) : Option Nat :=
  if cs.isEmpty then none
  else cs.foldlM (fun n c => (digitIn? base c).map (base * n + ·)) 0

end NoteBridge.Number
