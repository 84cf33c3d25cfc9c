import NoteBridge.Date.Calendar
import NoteBridge.Number.Reader
import NoteBridge.Text.Blank

/-!
Dates and times of TOML: a day, a time of day, or both, and then an offset behind them. What is
read is their normal text, with a capital mark between day and time, no more than nine places of a
second and none that are zero at the end.
-/

namespace NoteBridge.Toml.Moment

open Date Number

/-- A number of exactly `count` digits. -/
def places? (count : Nat) (cs : List Char) : Option (Nat × List Char) :=
  let digits := cs.take count
  if digits.length = count ∧ digits.all isDigit then some (natOfDigits digits, cs.drop count)
  else none

def mark? (c : Char) (cs : List Char) : Option (List Char) :=
  if cs.head? = some c then some (cs.drop 1) else none

/-- The part of a text that was read, when `rest` is left. -/
def readPart (cs rest : List Char) : List Char := cs.take (cs.length - rest.length)

def day? (cs : List Char) : Option (List Char × List Char) := do
  let (year, rest) ← places? 4 cs
  let (month, rest) ← places? 2 (← mark? '-' rest)
  let (day, rest) ← places? 2 (← mark? '-' rest)
  if (Day.mk year month day).isValid then some (readPart cs rest, rest) else none

/-- The places of a second, which follow a point. -/
def fraction? (cs : List Char) : Option (List Char × List Char) :=
  match cs with
  | '.' :: rest =>
    let digits := rest.takeWhile isDigit
    if digits.isEmpty then none
    else
      let places := Text.dropEndWhile (· == '0') (digits.take 9)
      some (if places.isEmpty then [] else '.' :: places, rest.dropWhile isDigit)
  | _ => some ([], cs)

def clock? (cs : List Char) : Option (List Char × List Char) := do
  let (hour, rest) ← places? 2 cs
  let (minute, rest) ← places? 2 (← mark? ':' rest)
  let (second, rest) ← places? 2 (← mark? ':' rest)
  let (fraction, behind) ← fraction? rest
  if (Clock.mk hour minute second 0).isValid then some (readPart cs rest ++ fraction, behind)
  else none

/-- The distance from universal time. None at all has a plus sign. -/
def offset? (cs : List Char) : Option (List Char) :=
  match cs with
  | [] => some []
  | ['Z'] | ['z'] => some ['Z']
  | sign :: rest => do
    let (hour, after) ← places? 2 rest
    let (minute, left) ← places? 2 (← mark? ':' after)
    if (sign = '+' ∨ sign = '-') ∧ (Clock.mk hour minute 0 0).isValid ∧ left = [] then
      some ((if hour = 0 ∧ minute = 0 then '+' else sign) :: rest)
    else none

def isDay (cs : List Char) : Bool := (day? cs).any fun (_, rest) => rest.isEmpty

/-- The normal text of a date, a time or both. -/
def normal? (cs : List Char) : Option (List Char) :=
  match day? cs with
  | some (day, []) => some day
  | some (day, mark :: rest) => do
    let (clock, rest) ← clock? rest
    if mark = 'T' ∨ mark = 't' ∨ mark = ' ' then some (day ++ 'T' :: clock ++ (← offset? rest))
    else none
  | none => do
    let (clock, rest) ← clock? cs
    if rest.isEmpty then some clock else none

end NoteBridge.Toml.Moment
