import NoteBridge.Proofs.Date.Normal

/-!
The nine formats of a written date, in the order in which they are tried, and their three kinds. The
first format that matches a text says what kind of date the text is. The normal form of the text is
matched first by the one format that normal forms of this kind are written in, and as the same date,
so it is its own normal form.
-/

namespace NoteBridge.Date

open Text (trim)

/-- A date and time with an offset, a date and time without one, or a date alone. -/
inductive Kind
  | timestamp
  | dateTime
  | date
deriving DecidableEq, Repr

inductive Format
  | timestamp
  | dateTime (pattern : List Item)
  | date (pattern : List Item)
deriving DecidableEq

namespace Format

def kind : Format → Kind
  | timestamp => .timestamp
  | dateTime _ => .dateTime
  | date _ => .date

/-- What a text is in a format that matches it from end to end. -/
def read? : Format → List Char → Option Reading
  | timestamp, cs => (timestamp? cs).map .timestamp
  | dateTime pattern, cs => (Date.read? pattern cs).map fun f => .dateTime f.toDay f.toClock
  | date pattern, cs => (Date.read? pattern cs).map fun f => .date f.toDay

def all : List Format := timestamp :: (dateTimePatterns.map dateTime ++ datePatterns.map date)

/-- The first format that matches a text, less the blanks around it. -/
def first? (cs : List Char) : Option Format := all.find? fun format => (format.read? (trim cs)).isSome

/-- The format that normal forms of a kind are written in. -/
def normal : Kind → Format
  | .timestamp => timestamp
  | .dateTime => dateTime (dayItems ++ .mark 'T' :: clockItems)
  | .date => date dayItems

end Format

/-- The kind of the formats that dates are read in as this one. -/
def Reading.kind : Reading → Kind
  | timestamp _ => .timestamp
  | dateTime _ _ => .dateTime
  | date _ => .date

variable {cs : List Char} {reading : Reading} {format : Format}

theorem Format.kind_of_read? (h : format.read? cs = some reading) : reading.kind = format.kind := by
  cases format <;> obtain ⟨_, -, rfl⟩ := Option.map_eq_some_iff.1 h <;> rfl

/-! ### The first format -/

/-- A text is read in the first format that matches it. -/
theorem reading?_eq_findSome? (cs : List Char) :
    reading? cs = Format.all.findSome? (·.read? (trim cs)) := by
  have htimes : (dateTimePatterns.map Format.dateTime).findSome? (·.read? (trim cs)) =
      (dateTimePatterns.findSome? (Date.read? · (trim cs))).map fun f =>
        .dateTime f.toDay f.toClock := by
    rw [List.findSome?_map, List.map_findSome?]
    rfl
  have hdates : (datePatterns.map Format.date).findSome? (·.read? (trim cs)) =
      (datePatterns.findSome? (Date.read? · (trim cs))).map fun f => .date f.toDay := by
    rw [List.findSome?_map, List.map_findSome?]
    rfl
  rw [Format.all, List.findSome?_cons, List.findSome?_append, htimes, hdates, reading?,
    Format.read?]
  cases timestamp? (trim cs) with
  | some t => rfl
  | none => cases dateTimePatterns.findSome? (Date.read? · (trim cs)) <;> rfl

theorem exists_find?_of_findSome? {α β : Type} {l : List α} {f : α → Option β} {b : β}
    (h : l.findSome? f = some b) : ∃ a, l.find? (fun a => (f a).isSome) = some a ∧ f a = some b := by
  obtain ⟨before, a, after, rfl, ha, hbefore⟩ := List.findSome?_eq_some_iff.1 h
  refine ⟨a, ?_, ha⟩
  rw [List.find?_append, List.find?_eq_none.2 fun x hx => by simp [hbefore x hx], Option.none_or]
  exact List.find?_cons_of_pos (by rw [ha]; rfl)

theorem exists_first?_of_reading? (h : reading? cs = some reading) :
    ∃ format, Format.first? cs = some format ∧ format.read? (trim cs) = some reading := by
  rw [reading?_eq_findSome?] at h
  exact exists_find?_of_findSome? h

theorem reading?_eq_none_iff : reading? cs = none ↔ Format.first? cs = none := by
  rw [reading?_eq_findSome?, List.findSome?_eq_none_iff, Format.first?, List.find?_eq_none]
  simp

/-! ### Normal forms -/

/-- A normal form is matched first by the format of its kind. -/
theorem first?_write (h : reading.IsValid) :
    Format.first? reading.write = some (.normal reading.kind) := by
  rw [Format.first?, reading.tight_write.2, Format.all]
  cases reading with
  | timestamp t =>
    apply List.find?_cons_of_pos
    rw [Reading.write, Format.read?, timestamp?_writeTimestamp h]
    rfl
  | dateTime day clock =>
    obtain ⟨hday, hclock, -⟩ := h
    have htime := timestamp?_writeDay_append day (.inr ⟨clock, hclock, rfl⟩) hday
    rw [List.find?_cons_of_neg (by simp [Reading.write, Format.read?, htime])]
    apply List.find?_cons_of_pos
    rw [Reading.write, Format.read?, ← clockItems, read?_dateTime hday hclock]
    rfl
  | date day =>
    have htime := timestamp?_writeDay_append day (.inl rfl) h
    rw [List.append_nil] at htime
    have hnone : (dateTimePatterns.map Format.dateTime).find? (fun format =>
        (format.read? (Reading.date day).write).isSome) = none := by
      rw [List.find?_eq_none, List.forall_mem_map]
      intro pattern hpattern
      simp [Reading.write, Format.read?, read?_dateTime_day h hpattern]
    rw [List.find?_cons_of_neg (by simp [Reading.write, Format.read?, htime]), List.find?_append,
      hnone, Option.none_or]
    apply List.find?_cons_of_pos
    rw [Reading.write, Format.read?, read?_date h]
    rfl

/-- A text has a normal form exactly when one of the formats matches it. The normal form is its own
normal form, and the first format that matches it is of the kind of the first one that matches the
text, and reads the same date. -/
theorem normalize?_keeps_kind (s : String) :
    (normalize? s = none ↔ Format.first? s.toList = none) ∧
      ∀ d, normalize? s = some d → normalize? d = some d ∧
        ∃ format again, Format.first? s.toList = some format ∧
          Format.first? d.toList = some again ∧ again.kind = format.kind ∧
          again = .normal format.kind ∧
          again.read? (trim d.toList) = format.read? (trim s.toList) := by
  refine ⟨Option.map_eq_none_iff.trans reading?_eq_none_iff, fun d hd => ?_⟩
  refine ⟨normalize?_normalize? hd, ?_⟩
  obtain ⟨reading, hreading, rfl⟩ := Option.map_eq_some_iff.1 hd
  have hvalid := isValid_of_reading? hreading
  obtain ⟨format, hformat, hread⟩ := exists_first?_of_reading? hreading
  obtain ⟨again, hagain, hreread⟩ := exists_first?_of_reading? (reading?_write hvalid)
  rw [String.toList_ofList]
  have hkind : again.kind = format.kind :=
    (Format.kind_of_read? hreread).symm.trans (Format.kind_of_read? hread)
  have hnormal : again = .normal format.kind := by
    rw [first?_write hvalid] at hagain
    rw [← Format.kind_of_read? hread]
    exact (Option.some.inj hagain).symm
  exact ⟨format, again, hformat, hagain, hkind, hnormal, hreread.trans hread.symm⟩

theorem normalize?_signedYear : normalize? " 1.3.-44" = some "-0044-03-01" ∧
    normalize? "-0044-03-01" = some "-0044-03-01" := by
  have hnormal : normalize? " 1.3.-44" = some "-0044-03-01" := by decide
  exact ⟨hnormal, ((normalize?_keeps_kind _).2 _ hnormal).1⟩

end NoteBridge.Date
