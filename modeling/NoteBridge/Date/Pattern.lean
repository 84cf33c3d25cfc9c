import NoteBridge.Date.Calendar
import NoteBridge.Number.Reader
import NoteBridge.Text.Search

/-!
Patterns of written dates. A pattern is a list of items, which are matched in order and must use up
the text. Blanks may stand in front of every number, and a blank in a pattern stands for any number
of blanks, none included. A year has up to four digits, or any number behind a sign.
-/

namespace NoteBridge.Date

open Text

inductive Item
  | year
  | month
  | day
  | hour
  | minute
  | second
  | longMonth
  | shortMonth
  | blank
  | mark (c : Char)
deriving DecidableEq, Repr

/-- The fields that a pattern has found so far. -/
structure Fields where
  year : Int := 0
  month : Nat := 1
  day : Nat := 1
  hour : Nat := 0
  minute : Nat := 0
  second : Nat := 0
deriving DecidableEq, Repr

def Fields.toDay (f : Fields) : Day := ⟨f.year, f.month, f.day⟩

def Fields.toClock (f : Fields) : Clock := ⟨f.hour, f.minute, f.second, 0⟩

/-- A number of at least one and at most `width` digits, and the rest. -/
def number? (width : Nat) (cs : List Char) : Option (Nat × List Char) :=
  let digits := (cs.takeWhile Number.isDigit).take width
  if digits.isEmpty then none else some (Number.natOfDigits digits, cs.drop digits.length)

def year? (cs : List Char) : Option (Int × List Char) :=
  match cs with
  | '-' :: rest => (number? rest.length rest).map fun (n, rest) => (-(n : Int), rest)
  | '+' :: rest => (number? rest.length rest).map fun (n, rest) => ((n : Int), rest)
  | _ => (number? 4 cs).map fun (n, rest) => ((n : Int), rest)

/-- The first three letters of each month, and the letters that may follow. -/
def monthNames : List (List Char × List Char) :=
  [("jan".toList, "uary".toList), ("feb".toList, "ruary".toList), ("mar".toList, "ch".toList),
    ("apr".toList, "il".toList), ("may".toList, []), ("jun".toList, "e".toList),
    ("jul".toList, "y".toList), ("aug".toList, "ust".toList), ("sep".toList, "tember".toList),
    ("oct".toList, "ober".toList), ("nov".toList, "ember".toList), ("dec".toList, "ember".toList)]

def shortMonth? (cs : List Char) : Option (Nat × List Char) :=
  let start := toAsciiLower (cs.take 3)
  (monthNames.findIdx? fun (short, _) => short == start).map fun i => (i + 1, cs.drop 3)

/-- A month by its name, which may also be the short one. -/
def longMonth? (cs : List Char) : Option (Nat × List Char) :=
  (shortMonth? cs).map fun (month, rest) =>
    let ending := ((monthNames[month - 1]?).map Prod.snd).getD []
    if toAsciiLower (rest.take ending.length) == ending then (month, rest.drop ending.length)
    else (month, rest)

def Item.read? (fields : Fields) (cs : List Char) : Item → Option (Fields × List Char)
  | year => (year? (trimStart cs)).map fun (n, rest) => ({ fields with year := n }, rest)
  | month => (number? 2 (trimStart cs)).map fun (n, rest) => ({ fields with month := n }, rest)
  | day => (number? 2 (trimStart cs)).map fun (n, rest) => ({ fields with day := n }, rest)
  | hour => (number? 2 (trimStart cs)).map fun (n, rest) => ({ fields with hour := n }, rest)
  | minute => (number? 2 (trimStart cs)).map fun (n, rest) => ({ fields with minute := n }, rest)
  | second => (number? 2 (trimStart cs)).map fun (n, rest) => ({ fields with second := n }, rest)
  | longMonth => (longMonth? cs).map fun (n, rest) => ({ fields with month := n }, rest)
  | shortMonth => (shortMonth? cs).map fun (n, rest) => ({ fields with month := n }, rest)
  | blank => some (fields, trimStart cs)
  | mark c => if cs.head? == some c then some (fields, cs.drop 1) else none

def readItems? (fields : Fields) (cs : List Char) : List Item → Option (Fields × List Char)
  | [] => some (fields, cs)
  | item :: items =>
    match item.read? fields cs with
    | some (fields, rest) => readItems? fields rest items
    | none => none

/-- The fields of a text that the pattern matches from end to end, if they are a date and time. -/
def read? (pattern : List Item) (cs : List Char) : Option Fields :=
  match readItems? {} cs pattern with
  | some (fields, []) =>
    if fields.toDay.isValid && fields.toClock.isValid then some fields else none
  | _ => none

end NoteBridge.Date
