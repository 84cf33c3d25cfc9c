import NoteBridge.Proofs.Markdown.Destination
import NoteBridge.Proofs.Render.Run

/-!
Escapes read back. Where the backslashes that escape are removed from the markup of bare runs, the
text of the runs is left, and no character that is always escaped stands there without a backslash
of its own. No text ends in the middle of an escape, so both hold across the borders of runs.
-/

namespace NoteBridge.Render

open Markdown (unescape unescape_append unescaped)
open Page (Run plainChars)
open Text

variable {context : RunContext} {run : Run} {runs : List Run} {text plain cs : List Char} {c : Char}

/-- The characters that are always escaped. -/
def inlineMarks : List Char := ['\\', '*', '_', '[', ']', tick, '<', '>', '~', '$']

theorem mem_inlineMarks_iff : c ∈ inlineMarks ↔ isAlwaysEscaped c = true := by
  simp [inlineMarks, isAlwaysEscaped, tick, or_assoc]

/-- Whether a text reads as another once its escapes are removed, and no character that is always
escaped stands in it without a backslash of its own. -/
structure Spells (text plain : List Char) : Prop where
  reads : unescape text = plain
  escaped : ∀ c ∈ unescaped text, c ∉ inlineMarks

namespace Spells

theorem nil : Spells [] [] := ⟨rfl, List.forall_mem_nil _⟩

theorem single (h : c ∉ inlineMarks) : Spells [c] [c] :=
  ⟨rfl, List.forall_mem_singleton.2 h⟩

theorem escape (h : isAsciiPunctuation c = true) : Spells ['\\', c] [c] :=
  ⟨if_pos ⟨rfl, h⟩, by simp [unescaped, h]⟩

/-- A text that spells another ends in no escape, for its last backslash has one of its own. -/
theorem append {text' plain' : List Char} (h : Spells text plain) (h' : Spells text' plain') :
    Spells (text ++ text') (plain ++ plain') := by
  have hends : '\\' ∉ unescaped text := fun hmem => h.escaped _ hmem (by decide)
  obtain ⟨hread, hleft⟩ := unescape_append hends text'
  constructor
  · rw [hread, h.reads, h'.reads]
  · rw [hleft]
    exact List.forall_mem_append.2 ⟨h.escaped, h'.escaped⟩

end Spells

/-- Escaping a text spells it, wherever it stands. -/
theorem spells_escapeFrom (p : Position) (cs : List Char) : Spells (escapeFrom p cs) cs := by
  induction cs generalizing p with
  | nil => exact .nil
  | cons c cs ih =>
    have hwritten : Spells (if needsEscape p c cs.head? then ['\\', c] else [c]) [c] := by
      split
      · next hescape => exact .escape (isAsciiPunctuation_of_needsEscape hescape)
      · next hstays =>
        simp only [needsEscape, Bool.or_eq_true, not_or] at hstays
        exact .single (mt mem_inlineMarks_iff.1 hstays.1.1.1)
    exact hwritten.append (ih _)

theorem spells_blanks (h : ∀ c ∈ cs, isBlank c = true) : Spells cs cs := by
  have hspelled := spells_escapeFrom { lineStart := false } cs
  rwa [escapeFrom_eq_self fun c hc => neverEscaped_of_isBlank (h c hc)] at hspelled

/-- A bare run is spelled with the blanks at both ends of it. -/
theorem spells_renderRun (h : IsBare context run) (hplaceholder : isPlaceholder run = false)
    (lineStart : Bool) : Spells (renderRun context lineStart run) run.chars := by
  by_cases hcore : trim run.chars = []
  · rw [renderRun_text h.kind, wrap_of_trim_eq_nil hcore]
    exact spells_blanks (forall_isBlank_of_trim hcore)
  · have hleading := spells_blanks (forall_mem_takeWhile_isBlank run.chars)
    have htrailing : Spells (takeEndWhile isBlank run.chars) _ :=
      spells_blanks forall_mem_takeEndWhile
    rw [renderRun_of_isBare h hplaceholder hcore]
    conv_rhs => rw [← takeWhile_trim_takeEndWhile hcore]
    exact (hleading.append (spells_escapeFrom _ _)).append htrailing

theorem spells_renderRunsFrom (lineStart : Bool)
    (h : ∀ run ∈ runs, IsBare context run ∧ isPlaceholder run = false) :
    Spells (renderRunsFrom context lineStart runs) (plainChars runs) := by
  induction runs generalizing lineStart with
  | nil => exact .nil
  | cons run runs ih =>
    obtain ⟨⟨hbare, hplaceholder⟩, hruns⟩ := List.forall_mem_cons.1 h
    exact (spells_renderRun hbare hplaceholder lineStart).append (ih _ hruns)

/-- Reading the escapes in the markup of bare runs gives their text back, character for character,
and so it does on both sides of every border between runs. What is always escaped stands behind a
backslash of its own. -/
theorem renderRuns_spells (context : RunContext) {runs : List Run}
    (h : ∀ run ∈ runs, IsBare context run ∧ isPlaceholder run = false) :
    unescape (renderRuns context runs) = plainChars runs ∧
      (∀ c ∈ unescaped (renderRuns context runs), c ∉ inlineMarks) ∧
      ∀ before after, runs = before ++ after → ∃ rest,
        renderRuns context runs = renderRuns context before ++ rest ∧
          Spells (renderRuns context before) (plainChars before) ∧
          Spells rest (plainChars after) := by
  obtain ⟨hread, hescaped⟩ := spells_renderRunsFrom true h
  refine ⟨hread, hescaped, ?_⟩
  rintro before after rfl
  obtain ⟨hbefore, hafter⟩ := List.forall_mem_append.1 h
  exact ⟨_, renderRunsFrom_append context true before after, spells_renderRunsFrom true hbefore,
    spells_renderRunsFrom _ hafter⟩

/-- Runs with marks and blanks at their borders, one of them blank altogether. -/
def borderRuns : List Run := [.text "a\\", .text " *b* \n", .text "  ", .text "- c!", .text "[d"]

theorem renderRuns_spells_borderRuns :
    let context : RunContext := ⟨.empty, .default⟩
    (∀ run ∈ borderRuns, IsBare context run ∧ isPlaceholder run = false) ∧
      renderRuns context borderRuns = "a\\\\ \\*b\\* \n  - c!\\[d".toList ∧
      unescape (renderRuns context borderRuns) = "a\\ *b* \n  - c![d".toList ∧
      ∀ c ∈ unescaped (renderRuns context borderRuns), c ∉ inlineMarks := by
  intro context
  have hbare : ∀ run ∈ borderRuns, IsBare context run ∧ isPlaceholder run = false := by
    intro run hrun
    simp only [borderRuns, List.mem_cons, List.not_mem_nil, or_false] at hrun
    rcases hrun with rfl | rfl | rfl | rfl | rfl <;>
      exact ⟨⟨rfl, rfl, rfl, rfl, rfl, rfl, by decide⟩, rfl⟩
  obtain ⟨hread, hmarks, -⟩ := renderRuns_spells context hbare
  exact ⟨hbare, rfl, hread, hmarks⟩

end NoteBridge.Render
