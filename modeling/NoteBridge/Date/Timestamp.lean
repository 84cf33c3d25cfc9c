import NoteBridge.Date.Pattern

/-!
Timestamps: a date, a time to the second or finer, and an offset from universal time. All numbers
have their full width. Blanks may part date and time in place of the letter, and a minus sign may
stand for the hyphen of an offset.
-/

namespace NoteBridge.Date

/-- An offset in minutes. -/
structure Timestamp where
  day : Day
  clock : Clock
  offset : Int
deriving DecidableEq, Repr

def digits? (width : Nat) (cs : List Char) : Option (Nat × List Char) :=
  let digits := cs.take width
  if digits.length == width && digits.all Number.isDigit then
    some (Number.natOfDigits digits, cs.drop width)
  else none

def mark? (c : Char) : List Char → Option (List Char)
  | d :: cs => if d = c then some cs else none
  | [] => none

/-- The digits after a point, of which nine count. -/
def fraction? (cs : List Char) : Option (Nat × List Char) :=
  match cs with
  | '.' :: rest =>
    let digits := rest.takeWhile Number.isDigit
    if digits.isEmpty then none
    else
      let counted := digits.take 9
      let scale := Nat.pow 10 (9 - counted.length)
      some (Number.natOfDigits counted * scale, rest.dropWhile Number.isDigit)
  | _ => some (0, cs)

/-- An offset of less than a day. -/
def offset? (cs : List Char) : Option Int :=
  match cs with
  | ['Z'] | ['z'] => some 0
  | sign :: rest => do
    let negative ←
      if sign = '+' then some false
      else if sign = '-' ∨ sign = '\u2212' then some true
      else none
    let (hours, rest) ← digits? 2 rest
    let (minutes, rest) ← digits? 2 (← mark? ':' rest)
    if rest.isEmpty && minutes < 60 && hours < 24 then
      let total : Int := hours * 60 + minutes
      some (if negative then -total else total)
    else none
  | [] => none

def timestamp? (cs : List Char) : Option Timestamp := do
  let (year, rest) ← digits? 4 cs
  let (month, rest) ← digits? 2 (← mark? '-' rest)
  let (day, rest) ← digits? 2 (← mark? '-' rest)
  let rest ←
    match rest with
    | c :: rest => if c = 'T' ∨ c = 't' ∨ c = ' ' then some rest else none
    | [] => none
  let (hour, rest) ← digits? 2 rest
  let (minute, rest) ← digits? 2 (← mark? ':' rest)
  let (second, rest) ← digits? 2 (← mark? ':' rest)
  let (nanosecond, rest) ← fraction? rest
  let offset ← offset? rest
  let day : Day := ⟨year, month, day⟩
  let clock : Clock := ⟨hour, minute, second, nanosecond⟩
  if day.isValid && clock.isValid then some ⟨day, clock, offset⟩ else none

end NoteBridge.Date
