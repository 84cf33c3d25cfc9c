import NoteBridge.Proofs.Text.Search
import NoteBridge.Render.Escape

/-!
Marks of blocks at the start of a line. A line opens a block, behind spaces and tabs, with the mark
of a heading, a quote, a list item or an underline, or with digits and the point or parenthesis
that makes an ordinal of them. Whether some line of a text does is decided character by character,
by what the current line shows so far. Escaping leaves no such mark in a line that it knows the
start of.
-/

namespace NoteBridge.Render

open Text

def isBlockMark (c : Char) : Bool := isLineMarker c || c == '>'

/-- Whether the digits that a text begins with, if any, end as an ordinal does. -/
def EndsOrdinal (cs : List Char) : Prop :=
  ∃ c ∈ (cs.dropWhile isAsciiDigit).head?, c = '.' ∨ c = ')'

/-- Whether a text begins, behind spaces and tabs, with a mark that opens a block. A backslash in
front of the mark, or of what ends an ordinal, keeps it from being one. -/
def OpensBlock (cs : List Char) : Prop :=
  ∃ c ∈ (cs.dropWhile isSpaceOrTab).head?,
    isBlockMark c ∨ isAsciiDigit c ∧ EndsOrdinal (cs.dropWhile isSpaceOrTab)

/-- What a line shows so far: spaces and tabs at most, behind these digits alone, or anything else
that opens no block. -/
inductive LineHead
  | blank
  | ordinal
  | shown
deriving DecidableEq

namespace LineHead

/-- Reads on by a character, up to a mark that opens a block. -/
def next? (head : LineHead) (c : Char) : Option LineHead :=
  if c = '\n' then some blank
  else
    match head with
    | blank =>
      if isSpaceOrTab c then some blank
      else if isBlockMark c then none
      else if isAsciiDigit c then some ordinal
      else some shown
    | ordinal =>
      if isAsciiDigit c then some ordinal
      else if c = '.' ∨ c = ')' then none
      else some shown
    | shown => some shown

/-- Whether a text completes such a beginning of its first line to one that opens a block. -/
def Opens : LineHead → List Char → Prop
  | blank, cs => OpensBlock cs
  | ordinal, cs => EndsOrdinal cs
  | shown, _ => False

end LineHead

variable {head : LineHead} {c : Char} {cs line more : List Char} {p : Position}

/-! ### Lines that open a block -/

theorem not_opens_nil (head : LineHead) : ¬head.Opens [] := by
  cases head <;> simp [LineHead.Opens, OpensBlock, EndsOrdinal]

/-- A text opens a block by its first character, or by what follows it in the line. -/
theorem opens_cons_iff :
    head.Opens (c :: cs) ↔ c ≠ '\n' ∧ ∀ next ∈ head.next? c, next.Opens cs := by
  by_cases hfeed : c = '\n'
  · subst hfeed
    cases head <;>
      simp [LineHead.Opens, OpensBlock, EndsOrdinal, isSpaceOrTab, isAsciiDigit, isBlockMark,
        isLineMarker]
  cases head with
  | shown => simp [LineHead.Opens, LineHead.next?, hfeed]
  | ordinal =>
    by_cases hdigit : isAsciiDigit c = true
    · simp [LineHead.Opens, LineHead.next?, hfeed, hdigit, EndsOrdinal]
    · by_cases hend : c = '.' ∨ c = ')' <;>
        simp [LineHead.Opens, LineHead.next?, hfeed, hdigit, hend, EndsOrdinal]
  | blank =>
    by_cases hspace : isSpaceOrTab c = true
    · simp [LineHead.Opens, LineHead.next?, hfeed, hspace, OpensBlock]
    · by_cases hmark : isBlockMark c = true
      · simp [LineHead.Opens, LineHead.next?, hfeed, hspace, hmark, OpensBlock]
      · by_cases hdigit : isAsciiDigit c = true <;>
          simp [LineHead.Opens, LineHead.next?, hfeed, hspace, hmark, hdigit, OpensBlock,
            EndsOrdinal]

/-- What the line shows so far decides how the rest of it opens a block. -/
theorem opens_append_iff {next : LineHead} (hline : '\n' ∉ line)
    (h : line.foldlM LineHead.next? head = some next) :
    head.Opens (line ++ more) ↔ next.Opens more := by
  induction line generalizing head with
  | nil =>
    cases h
    exact Iff.rfl
  | cons c line ih =>
    obtain ⟨hfeed, hline⟩ := List.ne_and_not_mem_of_not_mem_cons hline
    rw [List.foldlM_cons] at h
    obtain ⟨between, hbetween, h⟩ := Option.bind_eq_some_iff.1 h
    rw [List.cons_append, opens_cons_iff, and_iff_right hfeed.symm, hbetween, ← ih hline h]
    simp

/-- Reading on fails when the line that is begun opens a block, or a later one does. -/
theorem foldlM_next?_eq_none_iff :
    cs.foldlM LineHead.next? head = none ↔
      head.Opens ((splitWhere (· == '\n') cs).headD []) ∨
        ∃ line ∈ (splitWhere (· == '\n') cs).tail, OpensBlock line := by
  induction cs generalizing head with
  | nil => simp [splitWhere, not_opens_nil]
  | cons c cs ih =>
    obtain ⟨first, others, hsplit⟩ :=
      List.exists_cons_of_ne_nil (splitWhere_ne_nil (· == '\n') cs)
    simp only [hsplit, List.headD_cons, List.tail_cons] at ih
    rw [List.foldlM_cons, splitWhere, hsplit]
    by_cases hfeed : c = '\n'
    · subst hfeed
      have hnext : head.next? '\n' = some .blank := if_pos rfl
      have hlater := @ih .blank
      simp only [LineHead.Opens] at hlater
      simp [hnext, hlater, not_opens_nil]
    · cases hnext : head.next? c with
      | none => simp [hfeed, opens_cons_iff, hnext]
      | some next => simp [hfeed, opens_cons_iff, hnext, ih]

/-- Some line of a text opens a block exactly when reading it fails. -/
theorem exists_opensBlock_iff :
    (∃ line ∈ splitWhere (· == '\n') cs, OpensBlock line) ↔
      cs.foldlM LineHead.next? .blank = none := by
  obtain ⟨first, others, hsplit⟩ := List.exists_cons_of_ne_nil (splitWhere_ne_nil (· == '\n') cs)
  rw [foldlM_next?_eq_none_iff, hsplit]
  simp [LineHead.Opens]

/-! ### Escaped text -/

/-- Whether escaping, at a position, knows of everything that could open a block in a line that
begins like this. -/
def Position.Covers (p : Position) : LineHead → Prop
  | .blank => p.lineStart = true
  | .ordinal => p.ordinal = true
  | .shown => True

theorem covers_shown (p : Position) : p.Covers .shown := trivial

theorem ne_lineFeed_of_needsEscape {next : Option Char} (h : needsEscape p c next = true) :
    c ≠ '\n' := by
  rintro rfl
  simp [needsEscape, isAlwaysEscaped, isLineMarker] at h

theorem isBlockMark_eq_false {next : Option Char} (h : needsEscape p c next = false)
    (hstart : p.lineStart = true) : isBlockMark c = false := by
  simp_all [needsEscape, isAlwaysEscaped, isBlockMark]

theorem not_endsOrdinal_mark {next : Option Char} (h : needsEscape p c next = false)
    (hordinal : p.ordinal = true) : ¬(c = '.' ∨ c = ')') := by
  simp_all [needsEscape]

/-- Behind a backslash at its beginning, a line opens no block any more. -/
theorem foldlM_escaped {next : Option Char} (h : needsEscape p c next = true) :
    ['\\', c].foldlM LineHead.next? head = some .shown := by
  have hbackslash : head.next? '\\' = some .shown := by
    cases head <;> rfl
  have hc : LineHead.shown.next? c = some .shown := if_neg (ne_lineFeed_of_needsEscape h)
  simp [hbackslash, hc]

/-- A character that is escaped where it has to be opens no block, and leaves the next position
with all it has to know. -/
theorem exists_foldlM_written (h : p.Covers head) (next : Option Char) :
    ∃ behind, (if needsEscape p c next then ['\\', c] else [c]).foldlM LineHead.next? head =
      some behind ∧ (p.advance c).Covers behind := by
  cases hescape : needsEscape p c next with
  | true => exact ⟨.shown, foldlM_escaped hescape, covers_shown _⟩
  | false =>
    by_cases hfeed : c = '\n'
    · subst hfeed
      exact ⟨.blank, by simp [LineHead.next?], rfl⟩
    cases head with
    | shown => exact ⟨.shown, by simp [LineHead.next?, hfeed], covers_shown _⟩
    | ordinal =>
      have hordinal : p.ordinal = true := h
      have hmark := not_endsOrdinal_mark hescape hordinal
      by_cases hdigit : isAsciiDigit c = true
      · refine ⟨.ordinal, by simp [LineHead.next?, hfeed, hdigit], ?_⟩
        simp [Position.Covers, Position.advance, hdigit, hordinal]
      · exact ⟨.shown, by simp [LineHead.next?, hfeed, hdigit, hmark], covers_shown _⟩
    | blank =>
      have hstart : p.lineStart = true := h
      have hmark := isBlockMark_eq_false hescape hstart
      by_cases hspace : isSpaceOrTab c = true
      · refine ⟨.blank, by simp [LineHead.next?, hfeed, hspace], ?_⟩
        have hspaces : c = ' ' ∨ c = '\t' := by simpa [isSpaceOrTab] using hspace
        simp [Position.Covers, Position.advance, hstart, hspaces]
      · by_cases hdigit : isAsciiDigit c = true
        · refine ⟨.ordinal, by simp [LineHead.next?, hfeed, hspace, hmark, hdigit], ?_⟩
          simp [Position.Covers, Position.advance, hstart, hdigit]
        · exact ⟨.shown, by simp [LineHead.next?, hfeed, hspace, hmark, hdigit], covers_shown _⟩

/-- No line of an escaped text opens a block, where escaping knows how the first one begins. -/
theorem exists_foldlM_escapeFrom (h : p.Covers head) (cs : List Char) :
    ∃ behind, (escapeFrom p cs).foldlM LineHead.next? head = some behind := by
  induction cs generalizing p head with
  | nil => exact ⟨head, rfl⟩
  | cons c cs ih =>
    obtain ⟨between, hbetween, hcovers⟩ := exists_foldlM_written h (c := c) cs.head?
    rw [escapeFrom, List.foldlM_append, hbetween]
    exact ih hcovers

/-- Only the first line of an escaped text can open a block, and only where escaping was told
otherwise of its beginning. -/
theorem foldlM_escapeFrom_eq_none_iff :
    (escapeFrom p cs).foldlM LineHead.next? head = none ↔ head.Opens (escapeFrom p cs) := by
  induction cs generalizing p head with
  | nil => exact iff_of_false nofun (not_opens_nil head)
  | cons c cs ih =>
    rw [escapeFrom]
    cases hescape : needsEscape p c cs.head? with
    | true =>
      have hwritten : ['\\', c].foldlM LineHead.next? head = some .shown := foldlM_escaped hescape
      have hfeed : '\n' ∉ ['\\', c] := by
        simpa using (ne_lineFeed_of_needsEscape hescape).symm
      rw [if_pos rfl, List.foldlM_append, hwritten, opens_append_iff hfeed hwritten]
      exact ih
    | false =>
      rw [if_neg (by decide), List.singleton_append, opens_cons_iff, List.foldlM_cons]
      by_cases hfeed : c = '\n'
      · subst hfeed
        have hcovers : (p.advance '\n').Covers .blank := rfl
        obtain ⟨behind, hbehind⟩ := exists_foldlM_escapeFrom hcovers cs
        have hnext : head.next? '\n' = some .blank := if_pos rfl
        simp [hnext, hbehind]
      · cases hnext : head.next? c with
        | none => simp [hfeed]
        | some next => simpa [hfeed] using ih

end NoteBridge.Render
