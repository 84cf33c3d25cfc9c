import NoteBridge.Date.Timestamp

/-!
The normal form of a date. A timestamp keeps its offset, a date with a time has seconds, a plain
date has none, and each is written year first with its numbers in full width. Texts are tried as
a timestamp, then with the patterns of a date and time, then with those of a plain date.
-/

namespace NoteBridge.Date

/-- A number with at least `width` digits. -/
def padded (width n : Nat) : List Char :=
  let digits := Nat.toDigits 10 n
  List.replicate (width - digits.length) '0' ++ digits

/-- Four digits, and a sign when they do not suffice. -/
def writeYear (year : Int) : List Char :=
  if 0 ≤ year ∧ year ≤ 9999 then padded 4 year.toNat
  else (if year < 0 then '-' else '+') :: padded 4 year.natAbs

def writeDay (d : Day) : List Char :=
  writeYear d.year ++ '-' :: padded 2 d.month ++ '-' :: padded 2 d.day

def writeClock (c : Clock) : List Char :=
  padded 2 c.hour ++ ':' :: padded 2 c.minute ++ ':' :: padded 2 c.second

/-- Milliseconds, microseconds or nanoseconds, the first of these that is exact, or nothing. -/
def writeFraction (nanosecond : Nat) : List Char :=
  if nanosecond = 0 then []
  else if nanosecond % 1000000 = 0 then '.' :: padded 3 (nanosecond / 1000000)
  else if nanosecond % 1000 = 0 then '.' :: padded 6 (nanosecond / 1000)
  else '.' :: padded 9 nanosecond

def writeOffset (offset : Int) : List Char :=
  (if offset < 0 then '-' else '+') ::
    padded 2 (offset.natAbs / 60) ++ ':' :: padded 2 (offset.natAbs % 60)

def writeTimestamp (t : Timestamp) : List Char :=
  writeDay t.day ++ 'T' :: writeClock t.clock ++ writeFraction t.clock.nanosecond ++
    writeOffset t.offset

def dayItems : List Item := [.year, .mark '-', .month, .mark '-', .day]

def dateTimePatterns : List (List Item) :=
  [dayItems ++ [.mark 'T', .hour, .mark ':', .minute, .mark ':', .second],
    dayItems ++ [.blank, .hour, .mark ':', .minute, .mark ':', .second],
    dayItems ++ [.blank, .hour, .mark ':', .minute]]

def datePatterns : List (List Item) :=
  [dayItems, [.year, .mark '/', .month, .mark '/', .day],
    [.day, .mark '.', .month, .mark '.', .year],
    [.longMonth, .blank, .day, .mark ',', .blank, .year],
    [.shortMonth, .blank, .day, .mark ',', .blank, .year]]

/-- What a written date is. -/
inductive Reading
  | timestamp (t : Timestamp)
  | dateTime (day : Day) (clock : Clock)
  | date (day : Day)
deriving DecidableEq, Repr

def Reading.write : Reading → List Char
  | timestamp t => writeTimestamp t
  | dateTime day clock => writeDay day ++ 'T' :: writeClock clock
  | date day => writeDay day

def reading? (cs : List Char) : Option Reading :=
  let cs := Text.trim cs
  match timestamp? cs with
  | some t => some (.timestamp t)
  | none =>
    match dateTimePatterns.findSome? (read? · cs) with
    | some fields => some (.dateTime fields.toDay fields.toClock)
    | none => (datePatterns.findSome? (read? · cs)).map fun fields => .date fields.toDay

/-- The normal form of a written date. -/
def normalize? (s : String) : Option String :=
  (reading? s.toList).map fun reading => String.ofList reading.write

end NoteBridge.Date
