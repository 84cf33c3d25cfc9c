import NoteBridge.Json.Basic
import NoteBridge.Number.Reader
import NoteBridge.Number.Word

/-!
Reading JSON text. An integer literal that fits 64 bits, with or without a sign, is an integer;
every other number is a double, so `-0` is one. A double is read in two roundings, one of its
digits and one of their scaling, which differs from the nearest number in the last place at times.
Of two fields with one key the later one stays. Each step uses up a character, and the length of
the text bounds the steps.
-/

namespace NoteBridge.Json

open Number

def isSpace (c : Char) : Bool := c == ' ' || c == '\t' || c == '\n' || c == '\r'

def skipSpace (cs : List Char) : List Char := cs.dropWhile isSpace

def codeUnit? : List Char → Option (Nat × List Char)
  | a :: b :: c :: d :: rest => (inBase? 16 [a, b, c, d]).map (·, rest)
  | _ => none

/-- The character of an escape, after its backslash. A character beyond the first plane is two
escapes, of its two surrogates. -/
def escape? : List Char → Option (Char × List Char)
  | '"' :: rest => some ('"', rest)
  | '\\' :: rest => some ('\\', rest)
  | '/' :: rest => some ('/', rest)
  | 'b' :: rest => some ('\x08', rest)
  | 'f' :: rest => some ('\x0c', rest)
  | 'n' :: rest => some ('\n', rest)
  | 'r' :: rest => some ('\r', rest)
  | 't' :: rest => some ('\t', rest)
  | 'u' :: rest => do
    let (unit, rest) ← codeUnit? rest
    if 0xD800 ≤ unit ∧ unit < 0xDC00 then
      match rest with
      | '\\' :: 'u' :: rest =>
        let (low, rest) ← codeUnit? rest
        if 0xDC00 ≤ low ∧ low < 0xE000 then
          some (Char.ofNat (0x10000 + (unit - 0xD800) * 0x400 + (low - 0xDC00)), rest)
        else none
      | _ => none
    else if 0xDC00 ≤ unit ∧ unit < 0xE000 then none
    else some (Char.ofNat unit, rest)
  | _ => none

/-- The rest of a string after its opening quote. -/
def stringBody : Nat → List Char → List Char → Option (String × List Char)
  | 0, _, _ => none
  | _ + 1, _, [] => none
  | fuel + 1, done, c :: cs =>
    if c = '"' then some (String.ofList done.reverse, cs)
    else if c = '\\' then
      match escape? cs with
      | some (escaped, rest) => stringBody fuel (escaped :: done) rest
      | none => none
    else if c.toNat < 0x20 then none
    else stringBody fuel (c :: done) cs

/-- The digits of a literal that count: as long as the number they make fits 64 bits. A digit that
does not fit is dropped, and with it all further ones on its side of the point. -/
structure Significant where
  value : Nat := 0
  power : Int := 0

/-- Digits before the point; a dropped one still raises the power. -/
def Significant.addWhole (s : Significant) : List Char → Significant
  | [] => s
  | c :: cs =>
    let value := 10 * s.value + digitValue c
    if fitsUnsigned 64 value then addWhole ⟨value, s.power⟩ cs
    else ⟨s.value, s.power + (c :: cs).length⟩

def Significant.addFraction (s : Significant) : List Char → Significant
  | [] => s
  | c :: cs =>
    let value := 10 * s.value + digitValue c
    if fitsUnsigned 64 value then addFraction ⟨value, s.power - 1⟩ cs else s

/-- A number times a power of ten, rounded at each step; no step scales by more than `10 ^ 308`. -/
def scaled (x : Double) (power : Int) : Double :=
  let powerOfTen (n : Nat) : Double := Double.ofRatio false (Nat.pow 10 n) 1
  if 0 ≤ power then
    if power ≤ 308 then x.scaleUp (powerOfTen power.toNat)
    else if x.isZero then x else Double.infinity x.negative
  else if -308 ≤ power then x.scaleDown (powerOfTen (-power).toNat)
  else if -700 ≤ power then
    let y := x.scaleDown (powerOfTen 308)
    let rest := (-power).toNat - 308
    if rest ≤ 308 then y.scaleDown (powerOfTen rest) else Double.zero x.negative
  else Double.zero x.negative

/-- The double of a literal: its significant digits as one number, rounded, and then scaled. -/
def double (l : Literal) (negative : Bool) : Double :=
  let s := (Significant.addWhole {} l.whole).addFraction (l.fraction.getD [])
  scaled (Double.ofRatio negative s.value 1) (s.power + l.power.getD 0)

def number? (cs : List Char) : Option (Json × List Char) :=
  let negative := cs.head? == some '-'
  let (l, rest) := Literal.read (if negative then cs.drop 1 else cs)
  let wellFormed := !l.whole.isEmpty && (l.whole.head? != some '0' || l.whole.length == 1) &&
    l.fraction != some []
  if !wellFormed then none
  else
    let n := natOfDigits l.whole
    let isInt := l.isInteger &&
      (if negative then 0 < n && fitsSigned 64 (-(n : Int)) else fitsUnsigned 64 n)
    if isInt then some (int (if negative then -n else n), rest)
    else some (real (double l negative), rest)

mutual

def value? : Nat → List Char → Option (Json × List Char)
  | 0, _ => none
  | fuel + 1, cs =>
    match skipSpace cs with
    | 'n' :: 'u' :: 'l' :: 'l' :: rest => some (null, rest)
    | 't' :: 'r' :: 'u' :: 'e' :: rest => some (bool true, rest)
    | 'f' :: 'a' :: 'l' :: 's' :: 'e' :: rest => some (bool false, rest)
    | '"' :: rest => (stringBody (rest.length + 1) [] rest).map fun (s, rest) => (str s, rest)
    | '[' :: rest =>
      match skipSpace rest with
      | ']' :: rest => some (arr [], rest)
      | rest => items? fuel [] rest
    | '{' :: rest =>
      match skipSpace rest with
      | '}' :: rest => some (obj [], rest)
      | rest => fields? fuel [] rest
    | rest => number? rest

def items? : Nat → List Json → List Char → Option (Json × List Char)
  | 0, _, _ => none
  | fuel + 1, done, cs =>
    match value? fuel cs with
    | none => none
    | some (item, rest) =>
      match skipSpace rest with
      | ',' :: rest => items? fuel (item :: done) rest
      | ']' :: rest => some (arr (item :: done).reverse, rest)
      | _ => none

def fields? : Nat → List (String × Json) → List Char → Option (Json × List Char)
  | 0, _, _ => none
  | fuel + 1, done, cs =>
    match skipSpace cs with
    | '"' :: rest =>
      match stringBody (rest.length + 1) [] rest with
      | none => none
      | some (key, rest) =>
        match skipSpace rest with
        | ':' :: rest =>
          match value? fuel rest with
          | none => none
          | some (value, rest) =>
            match skipSpace rest with
            | ',' :: rest => fields? fuel (Entries.insert key value done) rest
            | '}' :: rest => some (obj (Entries.insert key value done), rest)
            | _ => none
        | _ => none
    | _ => none

end

/-- Reads one value that takes up the whole text. -/
def read? (s : String) : Option Json :=
  match value? (2 * s.length + 2) s.toList with
  | some (j, rest) => if (skipSpace rest).isEmpty then some j else none
  | none => none

end NoteBridge.Json
