import Mathlib.Algebra.Group.Int.Defs
import Mathlib.Tactic.SplitIfs
import NoteBridge.Date.Normal
import NoteBridge.Proofs.Number.Digits
import NoteBridge.Proofs.Text.Search

/-!
The normal form of a date is its own normal form. Every written part is read back as what it was,
whatever follows that is no digit, and what is written without an offset or without a time is not
taken for a form that has one.
-/

namespace NoteBridge.Date

open Number (isDigit natOfDigits)
open Text (Unbroken isBlank trim trimStart unbroken_replicate)

variable {rest : List Char}

/-- Whether a text does not go on with a digit. -/
def EndsNumber (rest : List Char) : Prop := ∀ c ∈ rest.head?, isDigit c = false

@[simp] theorem endsNumber_nil : EndsNumber [] := nofun

@[simp] theorem endsNumber_cons {c : Char} : EndsNumber (c :: rest) ↔ isDigit c = false := by
  simp [EndsNumber]

/-! ### Padded numbers -/

section Padded

variable {width n : Nat}

theorem isDigit_of_mem_padded {c : Char} (h : c ∈ padded width n) : isDigit c = true := by
  rcases List.mem_append.1 h with h | h
  · rw [List.eq_of_mem_replicate h]
    decide
  · exact Number.isDigit_of_mem_toDigits h

theorem unbroken_padded (width n : Nat) : Unbroken (padded width n) :=
  fun _ hc => Number.not_isBlank_of_isDigit (isDigit_of_mem_padded hc)

theorem padded_ne_nil (width n : Nat) : padded width n ≠ [] :=
  List.append_ne_nil_of_right_ne_nil _ (Number.toDigits_ne_nil n)

theorem natOfDigits_padded (width n : Nat) : natOfDigits (padded width n) = n := by
  rw [padded, Number.natOfDigits_zeros_append, Number.natOfDigits_toDigits]

theorem length_padded (hwidth : 0 < width) (hn : n < 10 ^ width) :
    (padded width n).length = width := by
  have hlength : (Nat.toDigits 10 n).length ≤ width :=
    (Nat.length_toDigits_le_iff (by decide) hwidth).2 hn
  rw [padded, List.length_append, List.length_replicate]
  omega

theorem takeWhile_padded_append (width n : Nat) (hrest : EndsNumber rest) :
    (padded width n ++ rest).takeWhile isDigit = padded width n := by
  rw [List.takeWhile_append_of_pos fun _ => isDigit_of_mem_padded]
  cases rest with
  | nil => simp
  | cons c rest => simp [endsNumber_cons.1 hrest]

theorem dropWhile_padded_append (width n : Nat) (hrest : EndsNumber rest) :
    (padded width n ++ rest).dropWhile isDigit = rest := by
  rw [List.dropWhile_append_of_pos fun _ => isDigit_of_mem_padded]
  cases rest with
  | nil => rfl
  | cons c rest => simp [endsNumber_cons.1 hrest]

theorem trimStart_padded_append (width n : Nat) (rest : List Char) :
    trimStart (padded width n ++ rest) = padded width n ++ rest := by
  obtain ⟨c, cs, hcs⟩ := List.exists_cons_of_ne_nil (padded_ne_nil width n)
  have hc : ¬isBlank c := unbroken_padded width n c (by rw [hcs]; exact List.mem_cons_self ..)
  rw [hcs, List.cons_append]
  exact List.dropWhile_cons_of_neg hc

/-- A number with room for its digits is read to its end. -/
theorem number?_padded {limit : Nat} (hlimit : (padded width n).length ≤ limit)
    (hrest : EndsNumber rest) : number? limit (padded width n ++ rest) = some (n, rest) := by
  rw [number?, takeWhile_padded_append width n hrest, List.take_of_length_le hlimit,
    natOfDigits_padded, List.drop_left]
  exact if_neg (by simp [padded_ne_nil])

theorem digits?_padded (hwidth : 0 < width) (hn : n < 10 ^ width) (rest : List Char) :
    digits? width (padded width n ++ rest) = some (n, rest) := by
  have hlength := length_padded hwidth hn
  have hall : (padded width n).all isDigit = true :=
    List.all_eq_true.2 fun _ => isDigit_of_mem_padded
  rw [digits?, List.take_left' hlength, List.drop_left' hlength, natOfDigits_padded, hlength, hall]
  simp

end Padded

/-! ### Days and times by patterns -/

/-- A number of at most two digits, as every item of a pattern but the year reads it. -/
theorem number?_two {n : Nat} (hn : n < 100) (hrest : EndsNumber rest) :
    number? 2 (trimStart (padded 2 n ++ rest)) = some (n, rest) := by
  rw [trimStart_padded_append]
  exact number?_padded (Nat.le_of_eq (length_padded (by decide) hn)) hrest

theorem year?_writeYear (year : Int) (hrest : EndsNumber rest) :
    year? (trimStart (writeYear year ++ rest)) = some (year, rest) := by
  rw [writeYear]
  split
  · next hfour =>
    obtain ⟨n, rfl⟩ := Int.eq_ofNat_of_zero_le hfour.1
    have hn : n < 10 ^ 4 := by omega
    obtain ⟨c, cs, hcs⟩ := List.exists_cons_of_ne_nil (padded_ne_nil 4 n)
    have hc : isDigit c = true := @isDigit_of_mem_padded 4 n c (by simp [hcs])
    have hread : year? (padded 4 n ++ rest) =
        (number? 4 (padded 4 n ++ rest)).map fun read => ((read.1 : Int), read.2) := by
      rw [hcs, List.cons_append, year?]
      · rintro tail h
        cases h
        exact absurd hc (by decide)
      · rintro tail h
        cases h
        exact absurd hc (by decide)
    rw [Int.toNat_natCast, trimStart_padded_append, hread,
      number?_padded (Nat.le_of_eq (length_padded (by decide) hn)) hrest]
    rfl
  · have hlength : (padded 4 year.natAbs).length ≤ (padded 4 year.natAbs ++ rest).length := by
      simp
    have hnumber := number?_padded hlength hrest
    by_cases hneg : year < 0
    · have hread : year? ('-' :: (padded 4 year.natAbs ++ rest)) =
          some (-(year.natAbs : Int), rest) := by
        rw [year?, hnumber]
        rfl
      rw [if_pos hneg, List.cons_append]
      change year? ('-' :: _) = _
      rw [hread, show -(year.natAbs : Int) = year by omega]
    · have hread : year? ('+' :: (padded 4 year.natAbs ++ rest)) =
          some ((year.natAbs : Int), rest) := by
        rw [year?, hnumber]
        rfl
      rw [if_neg hneg, List.cons_append]
      change year? ('+' :: _) = _
      rw [hread, show (year.natAbs : Int) = year by omega]

theorem daysInMonth_le (year : Int) (month : Nat) : daysInMonth year month ≤ 31 := by
  unfold daysInMonth
  split_ifs <;> omega

theorem Day.bounds {d : Day} (h : d.isValid = true) : d.month < 100 ∧ d.day < 100 := by
  have hlong := daysInMonth_le d.year d.month
  simp only [isValid, Bool.and_eq_true, decide_eq_true_eq] at h
  omega

theorem Clock.bounds {c : Clock} (h : c.isValid = true) :
    c.hour < 100 ∧ c.minute < 100 ∧ c.second < 100 ∧ c.nanosecond < 10 ^ 9 := by
  simp only [isValid, Bool.and_eq_true, decide_eq_true_eq] at h
  omega

theorem readItems?_writeDay {d : Day} (hd : d.isValid = true) (hrest : EndsNumber rest)
    (fields : Fields) (items : List Item) :
    readItems? fields (writeDay d ++ rest) (dayItems ++ items) =
      readItems? { fields with year := d.year, month := d.month, day := d.day } rest items := by
  have hbounds := Day.bounds hd
  have hmark : ∀ cs, EndsNumber ('-' :: cs) := fun cs => endsNumber_cons.2 (by decide)
  have hyear := year?_writeYear d.year (hmark (padded 2 d.month ++ '-' :: (padded 2 d.day ++ rest)))
  have hmonth := number?_two hbounds.1 (hmark (padded 2 d.day ++ rest))
  have hday := number?_two hbounds.2 hrest
  simp [writeDay, dayItems, readItems?, Item.read?, hyear, hmonth, hday]

/-- The items of a time to the second. -/
def clockItems : List Item := [.hour, .mark ':', .minute, .mark ':', .second]

theorem readItems?_writeClock {c : Clock} (hc : c.isValid = true) (fields : Fields) :
    readItems? fields (writeClock c) clockItems =
      some ({ fields with hour := c.hour, minute := c.minute, second := c.second }, []) := by
  obtain ⟨hhour, hminute, hsecond, -⟩ := Clock.bounds hc
  have hmark : ∀ cs, EndsNumber (':' :: cs) := fun cs => endsNumber_cons.2 (by decide)
  have hours := number?_two hhour (hmark (padded 2 c.minute ++ ':' :: padded 2 c.second))
  have minutes := number?_two hminute (hmark (padded 2 c.second))
  have seconds := number?_two hsecond endsNumber_nil
  rw [List.append_nil] at seconds
  simp [writeClock, clockItems, readItems?, Item.read?, hours, minutes, seconds]

theorem read?_dateTime {d : Day} {c : Clock} (hd : d.isValid = true) (hc : c.isValid = true) :
    read? (dayItems ++ .mark 'T' :: clockItems) (writeDay d ++ 'T' :: writeClock c) =
      some ⟨d.year, d.month, d.day, c.hour, c.minute, c.second⟩ := by
  have hmark : EndsNumber ('T' :: writeClock c) := endsNumber_cons.2 (by decide)
  have hclock : ∀ fields, readItems? fields ('T' :: writeClock c) (.mark 'T' :: clockItems) =
      some ({ fields with hour := c.hour, minute := c.minute, second := c.second }, []) := by
    intro fields
    simp [readItems?, Item.read?, readItems?_writeClock hc]
  have hclock' : Clock.isValid ⟨c.hour, c.minute, c.second, 0⟩ = true := by
    simp only [Clock.isValid, Bool.and_eq_true, decide_eq_true_eq] at hc ⊢
    omega
  rw [read?, readItems?_writeDay hd hmark, hclock]
  simp [Fields.toDay, Fields.toClock, hd, hclock']

theorem read?_date {d : Day} (hd : d.isValid = true) :
    read? dayItems (writeDay d) = some { year := d.year, month := d.month, day := d.day } := by
  have hday := readItems?_writeDay hd endsNumber_nil {} []
  rw [List.append_nil, List.append_nil] at hday
  have hclock : Clock.isValid ⟨0, 0, 0, 0⟩ = true := by decide
  rw [read?, hday]
  simp [readItems?, Fields.toDay, Fields.toClock, hd, hclock]

/-- A day alone is no date and time. -/
theorem read?_dateTime_day {d : Day} (hd : d.isValid = true) {pattern : List Item}
    (h : pattern ∈ dateTimePatterns) : read? pattern (writeDay d) = none := by
  obtain ⟨first, others, rfl, hfirst⟩ : ∃ first others, pattern = dayItems ++ first :: others ∧
      ∀ fields, readItems? fields [] (first :: others) = none := by
    simp only [dateTimePatterns, List.mem_cons, List.not_mem_nil, or_false] at h
    rcases h with rfl | rfl | rfl <;> exact ⟨_, _, rfl, fun _ => rfl⟩
  have hday := readItems?_writeDay hd endsNumber_nil {} (first :: others)
  rw [List.append_nil] at hday
  rw [read?, hday, hfirst]

/-! ### Timestamps -/

theorem fraction?_point {width n : Nat} (hwidth : 0 < width) (hnine : width ≤ 9)
    (hn : n < 10 ^ width) (hrest : EndsNumber rest) :
    fraction? ('.' :: (padded width n ++ rest)) = some (n * 10 ^ (9 - width), rest) := by
  have hlength := length_padded hwidth hn
  have hcounted : (padded width n).take 9 = padded width n := List.take_of_length_le (by omega)
  have hne : (padded width n).isEmpty = false := by simp [padded_ne_nil]
  simp [fraction?, takeWhile_padded_append width n hrest, dropWhile_padded_append width n hrest,
    hcounted, hne, hlength, natOfDigits_padded]

theorem fraction?_writeFraction {n : Nat} (hn : n < 10 ^ 9) (hrest : EndsNumber rest)
    (hpoint : rest.head? ≠ some '.') : fraction? (writeFraction n ++ rest) = some (n, rest) := by
  unfold writeFraction
  split_ifs with hzero hmilli hmicro
  · subst hzero
    cases rest with
    | nil => rfl
    | cons c rest =>
      rw [List.nil_append, fraction?]
      rintro tail h
      cases h
      exact hpoint rfl
  · have hread := fraction?_point (by decide) (by decide) (show n / 1000000 < 10 ^ 3 by omega) hrest
    rw [List.cons_append, hread, show n / 1000000 * 10 ^ (9 - 3) = n by omega]
  · have hread := fraction?_point (by decide) (by decide) (show n / 1000 < 10 ^ 6 by omega) hrest
    rw [List.cons_append, hread, show n / 1000 * 10 ^ (9 - 6) = n by omega]
  · have hread := fraction?_point (by decide) (by decide) hn hrest
    rw [List.cons_append, hread, show n * 10 ^ (9 - 9) = n by omega]

theorem bind_of_some {o : Option α} {a : α} {f : α → Option β} (h : o = some a) :
    o >>= f = f a := by
  rw [h]
  rfl

@[simp]
theorem mark?_cons_self (c : Char) (cs : List Char) : mark? c (c :: cs) = some cs :=
  if_pos rfl

theorem two_bind {n : Nat} {f : Nat × List Char → Option β} (hn : n < 10 ^ 2) :
    digits? 2 (padded 2 n ++ rest) >>= f = f (n, rest) :=
  bind_of_some (digits?_padded (by decide) hn rest)

/-- Two digits behind their mark. -/
theorem mark_two_bind {n : Nat} {f : Nat × List Char → Option β} (c : Char) (hn : n < 10 ^ 2) :
    (do let two ← digits? 2 (← mark? c (c :: (padded 2 n ++ rest))); f two) = f (n, rest) :=
  (bind_of_some (mark?_cons_self c _)).trans (two_bind hn)

theorem offset?_signed {hours minutes : Nat} (hhours : hours < 24) (hminutes : minutes < 60)
    (negative : Bool) :
    offset? ((if negative then '-' else '+') :: padded 2 hours ++ ':' :: padded 2 minutes) =
      some (if negative then -(hours * 60 + minutes : Int) else hours * 60 + minutes) := by
  have hfirst := digits?_padded (by decide) (show hours < 10 ^ 2 by omega)
    (':' :: padded 2 minutes)
  have hlast := digits?_padded (by decide) (show minutes < 10 ^ 2 by omega) []
  rw [List.append_nil] at hlast
  cases negative <;> simp [offset?, hfirst, hlast, hhours, hminutes]

/-- An offset that is written is less than a day. -/
theorem offset?_writeOffset {offset : Int} (h : offset.natAbs < 24 * 60) :
    offset? (writeOffset offset) = some offset := by
  have hhours : offset.natAbs / 60 < 24 := by omega
  have hminutes : offset.natAbs % 60 < 60 := by omega
  rw [writeOffset]
  split
  · refine (offset?_signed hhours hminutes true).trans (congrArg some ?_)
    rw [if_pos rfl]
    omega
  · refine (offset?_signed hhours hminutes false).trans (congrArg some ?_)
    rw [if_neg Bool.false_ne_true]
    omega

/-- What a timestamp that is read holds: its year has four digits. -/
structure Timestamp.IsValid (t : Timestamp) : Prop where
  year : 0 ≤ t.day.year ∧ t.day.year < 10 ^ 4
  day : t.day.isValid = true
  clock : t.clock.isValid = true
  offset : t.offset.natAbs < 24 * 60

/-- A day whose year has four digits, as a timestamp begins with. -/
theorem writeDay_of_nonneg {d : Day} (h : 0 ≤ d.year ∧ d.year < 10 ^ 4) :
    ∃ year : Nat, d.year = year ∧ year < 10 ^ 4 ∧
      writeDay d = padded 4 year ++ '-' :: padded 2 d.month ++ '-' :: padded 2 d.day := by
  obtain ⟨year, hyear⟩ := Int.eq_ofNat_of_zero_le h.1
  refine ⟨year, hyear, by omega, ?_⟩
  rw [writeDay, writeYear, if_pos (by omega), hyear]
  rfl

theorem timestamp?_writeTimestamp {t : Timestamp} (h : t.IsValid) :
    timestamp? (writeTimestamp t) = some t := by
  obtain ⟨year, hyear, hfour, hday⟩ := writeDay_of_nonneg h.year
  obtain ⟨hmonth, hmonthday⟩ := Day.bounds h.day
  obtain ⟨hhour, hminute, hsecond, hnanosecond⟩ := Clock.bounds h.clock
  have hsign : EndsNumber (writeOffset t.offset) ∧ (writeOffset t.offset).head? ≠ some '.' := by
    rw [writeOffset]
    split_ifs <;> simp [isDigit]
  have hfraction := fraction?_writeFraction hnanosecond hsign.1 hsign.2
  have hvalid : Day.isValid ⟨year, t.day.month, t.day.day⟩ = true := by
    rw [← hyear]
    exact h.day
  rw [writeTimestamp, hday, writeClock]
  simp only [List.append_assoc, List.cons_append]
  refine (bind_of_some (digits?_padded (by decide) hfour _)).trans ?_
  refine (mark_two_bind '-' hmonth).trans ((mark_two_bind '-' hmonthday).trans ?_)
  refine (if_pos (.inl rfl)).trans ((bind_of_some rfl).trans ?_)
  refine (two_bind hhour).trans ((mark_two_bind ':' hminute).trans ?_)
  refine (mark_two_bind ':' hsecond).trans ?_
  refine (bind_of_some hfraction).trans ?_
  refine (bind_of_some (offset?_writeOffset h.offset)).trans ?_
  rw [if_pos (by rw [hvalid, h.clock]; rfl), ← hyear]

theorem lt_of_digits? {width n : Nat} {cs : List Char} (h : digits? width cs = some (n, rest)) :
    n < 10 ^ width := by
  rw [digits?] at h
  split at h
  · next hdigits =>
    simp only [Bool.and_eq_true, beq_iff_eq, List.all_eq_true] at hdigits
    have hlt := Number.natOfDigits_lt hdigits.2
    rw [hdigits.1] at hlt
    cases h
    exact hlt
  · cases h

theorem exists_of_bind {o : Option α} {b : β} {f : α → Option β} (h : o >>= f = some b) :
    ∃ a, f a = some b := by
  obtain ⟨a, -, ha⟩ := Option.bind_eq_some_iff.1 h
  exact ⟨a, ha⟩

theorem natAbs_lt_of_offset? {cs : List Char} {offset : Int} (h : offset? cs = some offset) :
    offset.natAbs < 24 * 60 := by
  unfold offset? at h
  split at h
  · cases h
    decide
  · cases h
    decide
  · next sign rest _ _ =>
    -- behind either sign the same is read
    obtain ⟨negative, h⟩ : ∃ negative : Bool, (do
        let hours ← digits? 2 rest
        let minutes ← digits? 2 (← mark? ':' hours.2)
        if minutes.2.isEmpty && minutes.1 < 60 && hours.1 < 24 then
          let total : Int := hours.1 * 60 + minutes.1
          some (if negative then -total else total)
        else none) = some offset := by
      split_ifs at h
      · exact ⟨false, h⟩
      · exact ⟨true, h⟩
      · cases h
    obtain ⟨hours, h⟩ := exists_of_bind h
    obtain ⟨_, h⟩ := exists_of_bind h
    obtain ⟨minutes, h⟩ := exists_of_bind h
    simp only [Option.ite_none_right_eq_some, Bool.and_eq_true, decide_eq_true_eq] at h
    obtain ⟨⟨⟨-, hminutes⟩, hhours⟩, htotal⟩ := h
    cases htotal
    split <;> omega
  · cases h

/-- Every timestamp that is read is within the bounds of what is written. -/
theorem isValid_of_timestamp? {cs : List Char} {t : Timestamp} (h : timestamp? cs = some t) :
    t.IsValid := by
  obtain ⟨⟨year, _⟩, hyear, h⟩ := Option.bind_eq_some_iff.1 h
  have hfour := lt_of_digits? hyear
  obtain ⟨_, h⟩ := exists_of_bind h
  obtain ⟨⟨month, _⟩, h⟩ := exists_of_bind h
  obtain ⟨_, h⟩ := exists_of_bind h
  obtain ⟨⟨day, rest⟩, h⟩ := exists_of_bind h
  dsimp only at h
  split at h
  · split at h
    · obtain ⟨_, h⟩ := exists_of_bind h
      obtain ⟨⟨hour, _⟩, h⟩ := exists_of_bind h
      obtain ⟨_, h⟩ := exists_of_bind h
      obtain ⟨⟨minute, _⟩, h⟩ := exists_of_bind h
      obtain ⟨_, h⟩ := exists_of_bind h
      obtain ⟨⟨second, _⟩, h⟩ := exists_of_bind h
      obtain ⟨⟨nanosecond, _⟩, h⟩ := exists_of_bind h
      obtain ⟨offset, hoffset, h⟩ := Option.bind_eq_some_iff.1 h
      dsimp only at h
      split at h
      · next hvalid =>
        rw [Bool.and_eq_true] at hvalid
        cases h
        have hyears : 0 ≤ (year : Int) ∧ (year : Int) < 10 ^ 4 := by omega
        exact ⟨hyears, hvalid.1, hvalid.2, natAbs_lt_of_offset? hoffset⟩
      · cases h
    · cases h
  · cases h

/-- Without an offset, or without a time, a text is no timestamp. -/
theorem timestamp?_writeDay_append (d : Day)
    (h : rest = [] ∨ ∃ c : Clock, c.isValid = true ∧ rest = 'T' :: writeClock c)
    (hd : d.isValid = true) : timestamp? (writeDay d ++ rest) = none := by
  by_cases hfour : 0 ≤ d.year ∧ d.year < 10 ^ 4
  · obtain ⟨year, -, hyear, hday⟩ := writeDay_of_nonneg hfour
    obtain ⟨hmonth, hmonthday⟩ := Day.bounds hd
    simp only [hday, List.append_assoc, List.cons_append]
    refine (bind_of_some (digits?_padded (by decide) hyear _)).trans ?_
    refine (mark_two_bind '-' hmonth).trans ((mark_two_bind '-' hmonthday).trans ?_)
    rcases h with rfl | ⟨c, hc, rfl⟩
    · rfl
    · obtain ⟨hhour, hminute, hsecond, -⟩ := Clock.bounds hc
      rw [writeClock, List.append_assoc, ← List.append_nil (padded 2 c.second)]
      refine (if_pos (.inl rfl)).trans ((bind_of_some rfl).trans ?_)
      refine (two_bind hhour).trans ((mark_two_bind ':' hminute).trans ?_)
      refine (mark_two_bind ':' hsecond).trans ?_
      rfl
  · -- the sign of a year of another width is no digit
    have hsign : digits? 4 (writeDay d ++ rest) = none := by
      rw [writeDay, writeYear, if_neg (by omega)]
      split <;> simp [digits?, isDigit]
    rw [timestamp?, hsign]
    rfl

/-! ### Readings -/

/-- What a date that is read holds. -/
def Reading.IsValid : Reading → Prop
  | timestamp t => t.IsValid
  | dateTime day clock => day.isValid = true ∧ clock.isValid = true ∧ clock.nanosecond = 0
  | date day => day.isValid = true

theorem isValid_of_read? {pattern : List Item} {cs : List Char} {fields : Fields}
    (h : read? pattern cs = some fields) :
    fields.toDay.isValid = true ∧ fields.toClock.isValid = true := by
  rw [read?] at h
  split at h
  · simp only [Option.ite_none_right_eq_some, Bool.and_eq_true] at h
    obtain ⟨hvalid, hfields⟩ := h
    cases hfields
    exact hvalid
  · cases h

theorem isValid_of_reading? {cs : List Char} {reading : Reading} (h : reading? cs = some reading) :
    reading.IsValid := by
  simp only [reading?] at h
  split at h
  · next t ht =>
    cases h
    exact isValid_of_timestamp? ht
  · split at h
    · next fields hfields =>
      cases h
      obtain ⟨pattern, -, hread⟩ := List.exists_of_findSome?_eq_some hfields
      exact ⟨(isValid_of_read? hread).1, (isValid_of_read? hread).2, rfl⟩
    · obtain ⟨fields, hfields, rfl⟩ := Option.map_eq_some_iff.1 h
      obtain ⟨pattern, -, hread⟩ := List.exists_of_findSome?_eq_some hfields
      exact (isValid_of_read? hread).1

theorem Reading.unbroken_write (reading : Reading) : Unbroken reading.write := by
  have hmarks : isBlank '-' = false ∧ isBlank '+' = false ∧ isBlank ':' = false ∧
      isBlank '.' = false ∧ isBlank 'T' = false := by decide
  have hyear : ∀ year, Unbroken (writeYear year) := by
    intro year
    unfold writeYear
    split_ifs <;> simp [unbroken_padded, hmarks]
  have hday : ∀ d, Unbroken (writeDay d) := fun d => by
    simp [writeDay, hyear, unbroken_padded, hmarks]
  have hclock : ∀ c, Unbroken (writeClock c) := fun c => by
    simp [writeClock, unbroken_padded, hmarks]
  have hfraction : ∀ n, Unbroken (writeFraction n) := by
    intro n
    unfold writeFraction
    split_ifs <;> simp [unbroken_padded, hmarks]
  have hoffset : ∀ offset, Unbroken (writeOffset offset) := by
    intro offset
    unfold writeOffset
    split_ifs <;> simp [unbroken_padded, hmarks]
  cases reading <;> simp [write, writeTimestamp, hday, hclock, hfraction, hoffset, hmarks]

theorem Reading.tight_write (reading : Reading) : Text.Tight reading.write := by
  apply reading.unbroken_write.tight
  cases reading <;> simp [write, writeTimestamp, writeDay]

/-- A reading is what its normal form is read as. -/
theorem reading?_write {reading : Reading} (h : reading.IsValid) :
    reading? reading.write = some reading := by
  rw [reading?, reading.tight_write.2]
  cases reading with
  | timestamp t =>
    simp [Reading.write, timestamp?_writeTimestamp h]
  | dateTime day clock =>
    obtain ⟨hday, hclock, hnanosecond⟩ := h
    have htime := timestamp?_writeDay_append day (.inr ⟨clock, hclock, rfl⟩) hday
    have hread : dateTimePatterns.findSome? (read? · (writeDay day ++ 'T' :: writeClock clock)) =
        some ⟨day.year, day.month, day.day, clock.hour, clock.minute, clock.second⟩ := by
      rw [dateTimePatterns, List.findSome?_cons, ← clockItems, read?_dateTime hday hclock]
    simp only [Reading.write, htime, hread]
    simp [Fields.toDay, Fields.toClock, ← hnanosecond]
  | date day =>
    have htime := timestamp?_writeDay_append day (.inl rfl) h
    rw [List.append_nil] at htime
    have hnone : dateTimePatterns.findSome? (read? · (writeDay day)) = none :=
      List.findSome?_eq_none_iff.2 fun _ => read?_dateTime_day h
    have hread : datePatterns.findSome? (read? · (writeDay day)) =
        some { year := day.year, month := day.month, day := day.day } := by
      rw [datePatterns, List.findSome?_cons, read?_date h]
    simp only [Reading.write, htime, hnone, hread]
    simp [Fields.toDay]

theorem normalize?_normalize? {s d : String} (h : normalize? s = some d) :
    normalize? d = some d := by
  obtain ⟨reading, hreading, rfl⟩ := Option.map_eq_some_iff.1 h
  rw [normalize?, String.toList_ofList, reading?_write (isValid_of_reading? hreading)]
  rfl

end NoteBridge.Date
