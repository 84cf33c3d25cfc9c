import NoteBridge.Json.Basic
import NoteBridge.Number.Word
import NoteBridge.Text.Search
import NoteBridge.Toml.Moment

/-!
Values of TOML that stand without quotes or brackets: truth values, numbers, dates and times.
Underlines may group the digits of a number, one at a time and between two of them.
-/

namespace NoteBridge.Toml

open Number Text

/-- The digits of a group, without the underlines between them. -/
def grouped? (isDigit : Char → Bool) (cs : List Char) : Option (List Char) :=
  let groups := splitWhere (· == '_') cs
  if groups.all fun group => !group.isEmpty && group.all isDigit then some groups.flatten else none

def isDigitIn (base : Nat) (c : Char) : Bool := (digitIn? base c).isSome

/-- The digits of a decimal number, which has no zeros in front. -/
def decimal? (cs : List Char) : Option (List Char) :=
  (grouped? isDigit cs).filter fun digits => digits.length == 1 || digits.head? != some '0'

def naturalIn? (base : Nat) (cs : List Char) : Option Int := do
  let n ← inBase? base (← grouped? (isDigitIn base) cs)
  some n

/-- An integer of 64 bits: in decimal with or without a sign, or in one of three bases. -/
def int? (cs : List Char) : Option Int :=
  let value? : Option Int :=
    match cs with
    | '0' :: 'x' :: digits => naturalIn? 16 digits
    | '0' :: 'o' :: digits => naturalIn? 8 digits
    | '0' :: 'b' :: digits => naturalIn? 2 digits
    | _ =>
      let (negative, digits) := sign cs
      (decimal? digits).map fun digits =>
        let n : Int := natOfDigits digits
        if negative then -n else n
  value?.filter (fitsSigned 64)

def isGroupDigit (c : Char) : Bool := isDigit c || c == '_'

/-- What follows a point, and the text behind it. -/
def fraction? (cs : List Char) : Option (Option (List Char) × List Char) :=
  match cs with
  | '.' :: rest => do
    let digits ← grouped? isDigit (rest.takeWhile isGroupDigit)
    some (some digits, rest.dropWhile isGroupDigit)
  | _ => some (none, cs)

/-- The power of ten that ends a number. -/
def power? (cs : List Char) : Option (Option Int) :=
  match cs with
  | [] => some none
  | c :: rest => do
    let (negative, digits) := sign rest
    let n : Int := natOfDigits (← grouped? isDigit digits)
    if c = 'e' ∨ c = 'E' then some (some (if negative then -n else n)) else none

/-- A number with a point or a power of ten, or one of two words. A number above all doubles is
none, one below them is infinite. -/
def real? (cs : List Char) : Option Double := do
  let (negative, rest) := sign cs
  if rest = ['i', 'n', 'f'] then some (Double.infinity negative)
  else if rest = ['n', 'a', 'n'] then some Double.notANumber
  else
    let whole ← decimal? (rest.takeWhile isGroupDigit)
    let (fraction, rest) ← fraction? (rest.dropWhile isGroupDigit)
    let power ← power? rest
    if fraction.isNone && power.isNone then none
    else
      let x := Literal.toDouble ⟨whole, fraction, power⟩ negative
      if x.isFinite || negative then some x else none

/-- The value of a word. Dates and times are texts. -/
def wordValue? (word : List Char) : Option Json :=
  if word = "true".toList then some (.bool true)
  else if word = "false".toList then some (.bool false)
  else
    ((int? word).map Json.int <|> (real? word).map Json.real) <|>
      (Moment.normal? word).map fun text => .str (String.ofList text)

def isWordChar (c : Char) : Bool := c.isAlphanum || ['+', '-', '_', '.', ':'].contains c

/-- Reads a value without quotes. A time may follow a day behind a space. -/
def bare? (cs : List Char) : Option (Json × List Char) :=
  let word := cs.takeWhile isWordChar
  let rest := cs.dropWhile isWordChar
  let isTimeBehind := Moment.isDay word && rest.head? == some ' ' && (rest.drop 1).head?.any isDigit
  if isTimeBehind then
    let time := (rest.drop 1).takeWhile isWordChar
    (wordValue? (word ++ ' ' :: time)).map (·, (rest.drop 1).dropWhile isWordChar)
  else (wordValue? word).map (·, rest)

end NoteBridge.Toml
