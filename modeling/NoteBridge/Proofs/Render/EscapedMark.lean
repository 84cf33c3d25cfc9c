import NoteBridge.Proofs.Render.Escape
import NoteBridge.Proofs.Render.Exclamation
import NoteBridge.Proofs.Render.Prose

/-!
Where marks of blocks are escaped. The position that escaping keeps says what the text written so
far shows in the line it leaves open: spaces and tabs alone, or digits behind them. So no line that
escaping knows from its start on opens a block, and a mark that could open one is escaped only where
it would.
-/

namespace NoteBridge.Render

open Markdown (unescape)
open Text

variable {p : Position} {lineStart : Bool} {cs text line before after : List Char} {c : Char}
  {next : Option Char}

/-- Whether escaping knows the open line of a text from its start on: the text begins that line, or
ends the line before. -/
def KnowsLine (lineStart : Bool) (text : List Char) : Prop := lineStart = true ∨ '\n' ∈ text

/-- Whether a line shows spaces and tabs alone. -/
def IsIndentation (line : List Char) : Prop := ∀ c ∈ line, isSpaceOrTab c = true

/-- Whether a line shows digits alone behind spaces and tabs, and some of them. -/
def IsOrdinal (line : List Char) : Prop :=
  line.dropWhile isSpaceOrTab ≠ [] ∧ ∀ c ∈ line.dropWhile isSpaceOrTab, isAsciiDigit c = true

/-- Whether the flags of a position say what the text before it shows in its open line. -/
structure Position.Tells (p : Position) (lineStart : Bool) (text : List Char) : Prop where
  blank : p.lineStart = true ↔ KnowsLine lineStart text ∧ IsIndentation (openLine text)
  ordinal : p.ordinal = true ↔ KnowsLine lineStart text ∧ IsOrdinal (openLine text)

/-! ### What a position tells -/

theorem knowsLine_concat :
    KnowsLine lineStart (text ++ [c]) ↔ KnowsLine lineStart text ∨ c = '\n' := by
  simp [KnowsLine, or_assoc, eq_comm]

theorem isIndentation_concat :
    IsIndentation (line ++ [c]) ↔ IsIndentation line ∧ isSpaceOrTab c = true := by
  simp [IsIndentation, or_imp, forall_and]

theorem isAsciiDigit_eq_false_of_isSpaceOrTab (h : isSpaceOrTab c = true) :
    isAsciiDigit c = false := by
  simp only [isSpaceOrTab, Bool.or_eq_true, beq_iff_eq] at h
  rcases h with rfl | rfl <;> decide

theorem isOrdinal_concat :
    IsOrdinal (line ++ [c]) ↔ (IsIndentation line ∨ IsOrdinal line) ∧ isAsciiDigit c = true := by
  by_cases hline : IsIndentation line
  · have hnil : line.dropWhile isSpaceOrTab = [] := List.dropWhile_eq_nil_iff.2 hline
    by_cases hspace : isSpaceOrTab c = true
    · have hdigit := isAsciiDigit_eq_false_of_isSpaceOrTab hspace
      simp [IsOrdinal, List.dropWhile_append, hnil, hspace, hdigit]
    · simp [IsOrdinal, List.dropWhile_append, hnil, hspace, hline]
  · have hne : line.dropWhile isSpaceOrTab ≠ [] := mt List.dropWhile_eq_nil_iff.1 hline
    simp [IsOrdinal, List.dropWhile_append, hne, hline, or_imp, forall_and]

/-- A character changes the flags as it changes the open line. -/
theorem tells_advance (h : p.Tells lineStart text) (c : Char) :
    (p.advance c).Tells lineStart (text ++ [c]) := by
  by_cases hfeed : c = '\n'
  · subst hfeed
    constructor
    · simp [Position.advance, knowsLine_concat, openLine_concat, IsIndentation]
    · simp [Position.advance, openLine_concat, IsOrdinal, isAsciiDigit]
  · constructor
    · rw [openLine_concat, if_neg hfeed, knowsLine_concat, isIndentation_concat]
      simp [Position.advance, hfeed, h.blank, isSpaceOrTab, and_assoc]
    · rw [openLine_concat, if_neg hfeed, knowsLine_concat, isOrdinal_concat]
      simp [Position.advance, hfeed, h.blank, h.ordinal, ← and_or_left, and_assoc]

theorem tells_foldl_advance (lineStart : Bool) (text : List Char) :
    (text.foldl Position.advance { lineStart }).Tells lineStart text := by
  induction text using List.reverseRecOn with
  | nil =>
    constructor
    · simp [KnowsLine, IsIndentation, openLine, takeEndWhile]
    · simp [IsOrdinal, openLine, takeEndWhile]
  | append_singleton text c ih =>
    rw [List.foldl_append]
    exact tells_advance ih c

/-! ### Escapes in the written text -/

/-- A character behind its backslash leaves the position that it leaves without one. -/
theorem advance_escaped (h : needsEscape p c next = true) :
    (p.advance '\\').advance c = p.advance c := by
  have hall : marks.all (fun d => !(isSpaceOrTab d || isAsciiDigit d)) = true := by decide
  have hc := List.all_eq_true.1 hall c (mem_marks_of_needsEscape h)
  obtain ⟨hspace, hdigit⟩ : isSpaceOrTab c = false ∧ isAsciiDigit c = false := by simpa using hc
  rw [isSpaceOrTab] at hspace
  simp [Position.advance, hspace, hdigit]

/-- Where a backslash escapes a character, the position that the text before it leads to asks for
that. -/
theorem exists_needsEscape_of_escaped (h : escapeFrom p cs = before ++ '\\' :: c :: after)
    (hbefore : escapesNext before = false) :
    ∃ next, needsEscape (before.foldl Position.advance p) c next = true := by
  -- on the text that is escaped: the backslash is the one written for the first character, or it
  -- stands behind all that is written for it
  induction cs generalizing p before with
  | nil => simp [escapeFrom] at h
  | cons d cs ih =>
    rw [escapeFrom] at h
    cases hescape : needsEscape p d cs.head? with
    | true =>
      rw [hescape, if_pos rfl] at h
      rcases before with _ | ⟨b, _ | ⟨b', before⟩⟩
      · obtain ⟨rfl, -⟩ : d = c ∧ _ := by simpa using h
        exact ⟨_, hescape⟩
      · obtain ⟨rfl, -⟩ : '\\' = b ∧ _ := by simpa using h
        cases hbefore
      · obtain ⟨rfl, rfl, hrest⟩ : '\\' = b ∧ d = b' ∧ _ := by simpa using h
        have hwritten : escapesNext ['\\', d] = false := by simp [escapesNext]
        rw [List.foldl_cons, List.foldl_cons, advance_escaped hescape]
        exact ih hrest ((escapesNext_append hwritten before).symm.trans hbefore)
    | false =>
      rw [hescape, if_neg (by decide)] at h
      have hd : d ≠ '\\' := by
        rintro rfl
        simp [needsEscape, isAlwaysEscaped] at hescape
      rcases before with _ | ⟨b, before⟩
      · exact absurd (List.cons.inj h).1 hd
      · obtain ⟨rfl, hrest⟩ := List.cons.inj h
        have hwritten : escapesNext [d] = false := by simp [escapesNext, hd]
        rw [List.foldl_cons]
        exact ih hrest ((escapesNext_append hwritten before).symm.trans hbefore)

theorem lineStart_of_needsEscape (h : needsEscape p c next = true) (hc : isLineMarker c = true) :
    p.lineStart = true := by
  simp only [isLineMarker, Bool.or_eq_true, beq_iff_eq, or_assoc] at hc
  rcases hc with rfl | rfl | rfl | rfl <;>
    simpa [needsEscape, isAlwaysEscaped, isLineMarker] using h

theorem ordinal_of_needsEscape (h : needsEscape p c next = true) (hc : c = '.' ∨ c = ')') :
    p.ordinal = true := by
  rcases hc with rfl | rfl <;> simpa [needsEscape, isAlwaysEscaped, isLineMarker] using h

/-! ### Lines of the written text -/

/-- No line of an escaped text opens a block, where the text begins a line. -/
theorem not_opensBlock_of_mem_escape (cs : List Char) :
    ∀ line ∈ splitWhere (· == '\n') (escape true cs), ¬OpensBlock line := by
  have hcovers : Position.Covers { lineStart := true } .blank := rfl
  obtain ⟨head, hread⟩ := exists_foldlM_escapeFrom hcovers cs
  intro line hline hopens
  have hnone := exists_opensBlock_iff.1 ⟨line, hline, hopens⟩
  cases hread.symm.trans hnone

/-- Behind the first line, no line of an escaped text opens a block, wherever the text stands. -/
theorem not_opensBlock_of_mem_tail (p : Position) (cs : List Char) :
    ∀ line ∈ (splitWhere (· == '\n') (escapeFrom p cs)).tail, ¬OpensBlock line := by
  -- where the first line shows anything already, only a later one could stop the reading
  obtain ⟨head, hread⟩ := exists_foldlM_escapeFrom (covers_shown p) cs
  intro line hline hopens
  have hnone : (escapeFrom p cs).foldlM LineHead.next? .shown = none :=
    foldlM_next?_eq_none_iff.2 (.inr ⟨line, hline, hopens⟩)
  cases hread.symm.trans hnone

/-- An escaped text has no line that opens a block, but for the first one where it does not begin a
line. The marks of headings, list items and underlines are escaped only behind the spaces and tabs
that begin such a line, and what ends an ordinal only behind its digits there. -/
theorem escape_blockMarks (cs : List Char) :
    (∀ line ∈ splitWhere (· == '\n') (escape true cs), ¬OpensBlock line) ∧
      (∀ line ∈ (splitWhere (· == '\n') (escape false cs)).tail, ¬OpensBlock line) ∧
      ∀ lineStart, unescape (escape lineStart cs) = cs ∧
        ∀ before c after, escape lineStart cs = before ++ '\\' :: c :: after →
          escapesNext before = false →
          (isLineMarker c = true →
            KnowsLine lineStart before ∧ IsIndentation (openLine before)) ∧
          (c = '.' ∨ c = ')' → KnowsLine lineStart before ∧ IsOrdinal (openLine before)) := by
  refine ⟨not_opensBlock_of_mem_escape cs, not_opensBlock_of_mem_tail _ cs, fun lineStart => ?_⟩
  refine ⟨(spells_escapeFrom _ cs).reads, fun before c after hescaped hbefore => ?_⟩
  obtain ⟨next, hneeds⟩ := exists_needsEscape_of_escaped hescaped hbefore
  have htells := tells_foldl_advance lineStart before
  constructor
  · exact fun hc => htells.blank.1 (lineStart_of_needsEscape hneeds hc)
  · exact fun hc => htells.ordinal.1 (ordinal_of_needsEscape hneeds hc)

/-- The end of a line, an item and an ordinal, with the same marks again behind each of them. -/
def markedLines : List Char := "# a\n\t- b # c\n 12. d. e".toList

theorem escape_blockMarks_markedLines :
    escape false markedLines = "# a\n\t\\- b # c\n 12\\. d. e".toList ∧
      (∀ line ∈ ["\t\\- b # c".toList, " 12\\. d. e".toList], ¬OpensBlock line) ∧
      KnowsLine false "# a\n\t".toList ∧ IsIndentation (openLine "# a\n\t".toList) ∧
      IsOrdinal (openLine "# a\n\t\\- b # c\n 12".toList) := by
  obtain ⟨-, hlines, hescapes⟩ := escape_blockMarks markedLines
  obtain ⟨-, hescaped⟩ := hescapes false
  have hitem := (hescaped "# a\n\t".toList '-' _ rfl (by decide)).1 (by decide)
  have hordinal := (hescaped "# a\n\t\\- b # c\n 12".toList '.' _ rfl (by decide)).2 (.inl rfl)
  exact ⟨rfl, hlines, hitem.1, hitem.2, hordinal.2⟩

end NoteBridge.Render
