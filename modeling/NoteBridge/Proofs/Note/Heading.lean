import NoteBridge.Compose.Document
import NoteBridge.Proofs.Markdown.Heading
import NoteBridge.Proofs.Text.Search
import NoteBridge.Render.Block

/-!
Headings on their way back. A heading is written on one line, with spaces for the line feeds in its
text, and read again with its level. Its text is read as it was written unless it ends with number
signs behind a space, a tab or nothing: these are not escaped, since they do not begin a line, and
close the heading.
-/

namespace NoteBridge.Render

open Page (Block Color Run)
open Text (replaceChar trim)

variable {level : Nat}

/-- What a heading shows of its runs: their markup on one line, without blanks around it. -/
def headingText (context : Context) (runs : List Run) : List Char :=
  trim (replaceChar '\n' [' '] (renderRuns context.runs runs))

theorem heading_eq (context : Context) (level : Nat) (runs : List Run) :
    heading context level runs = List.replicate level '#' ++ ' ' :: headingText context runs :=
  rfl

theorem trim_headingText (context : Context) (runs : List Run) :
    trim (headingText context runs) = headingText context runs :=
  Text.trim_trim _

theorem lineFeed_not_mem_heading (context : Context) (level : Nat) (runs : List Run) :
    '\n' ∉ heading context level runs := by
  have htext : '\n' ∉ headingText context runs :=
    mt Text.mem_of_mem_trim (Text.not_mem_replaceChar (by decide) _)
  rw [heading_eq, List.mem_append, List.mem_cons, List.mem_replicate]
  simp [htext]

theorem renderBlock_heading (hlevel : 1 ≤ level ∧ level ≤ 3) (context : Context)
    (depth number : Nat) (id : Option String) (runs : List Run) (color : Color)
    (children : List Block) :
    renderBlock context depth number
        ⟨id, .text (Compose.headingForm level) runs color, children⟩ =
      .ok (heading context level runs) := by
  obtain rfl | rfl | rfl : level = 1 ∨ level = 2 ∨ level = 3 := by omega
  all_goals simp [Compose.headingForm, renderBlock]

end NoteBridge.Render

namespace NoteBridge

open Markdown (ClosesHeading heading? headingContent)
open Markdown.Outline (sourceLines length_sourceLines)
open Page (Block Color Run)
open Render (headingText renderBlock)

theorem length_sourceLines_heading (context : Render.Context) (level : Nat) (runs : List Run) :
    (sourceLines (Render.heading context level runs)).length =
      (headingText context runs).count '\r' + 1 := by
  have hlast : (Render.heading context level runs).getLast? ≠ some '\r' := by
    rw [Render.heading_eq, List.getLast?_append, List.getLast?_cons, Option.some_or]
    cases htext : (headingText context runs).getLast? with
    | none => decide
    | some c =>
      rintro ⟨⟩
      exact Text.getLast?_trim htext (by decide)
  rw [length_sourceLines (Render.lineFeed_not_mem_heading context level runs) _ hlast,
    Render.heading_eq, List.count_append, List.count_cons_of_ne (by decide),
    List.count_eq_zero_of_not_mem, Nat.zero_add]
  · exact fun hreturn => absurd (List.eq_of_mem_replicate hreturn) (by decide)
  · rw [Render.heading_eq]
    exact List.append_ne_nil_of_right_ne_nil _ (List.cons_ne_nil _ _)

/-- A heading is one line, which has a line end only where the text has a carriage return, and it is
read with its level. Its text is read as it was written if and only if it does not end with number
signs that close the heading. -/
theorem heading_reread_iff {level : Nat} (hlevel : 1 ≤ level ∧ level ≤ 3)
    (context : Render.Context) (depth number : Nat) (id : Option String) (runs : List Run)
    (color : Color) (children : List Block) :
    ∃ markup,
      renderBlock context depth number
          ⟨id, .text (Compose.headingForm level) runs color, children⟩ = .ok markup ∧
        '\n' ∉ markup ∧
        (sourceLines markup).length = (headingText context runs).count '\r' + 1 ∧
        heading? markup = some (level, headingContent (headingText context runs)) ∧
        (heading? markup = some (level, headingText context runs) ↔
          ¬ClosesHeading (headingText context runs)) := by
  have htrim := Render.trim_headingText context runs
  have hread : heading? (Render.heading context level runs) =
      some (level, headingContent (headingText context runs)) :=
    Markdown.heading?_signs ⟨hlevel.1, by omega⟩ htrim
  refine ⟨Render.heading context level runs, ?_, ?_, ?_, hread, ?_⟩
  · exact Render.renderBlock_heading hlevel context depth number id runs color children
  · exact Render.lineFeed_not_mem_heading context level runs
  · exact length_sourceLines_heading context level runs
  · rw [hread, ← Markdown.headingContent_eq_self_iff htrim]
    simp

/-- A number sign at the end of a text is read as the end of the heading. -/
theorem trailingNumberSign_closes :
    (1 ≤ 1 ∧ 1 ≤ 3) ∧ ∃ markup,
      renderBlock ⟨{}, .empty⟩ 0 0 ⟨none, .text .heading1 [.text "a #"] .default, []⟩ = .ok markup ∧
        heading? markup = some (1, ['a']) ∧
        heading? markup ≠ some (1, headingText ⟨{}, .empty⟩ [.text "a #"]) := by
  have hlevel : 1 ≤ 1 ∧ 1 ≤ 3 := by decide
  have htext : headingText ⟨{}, .empty⟩ [.text "a #"] = ['a', ' ', '#'] := by decide
  have hcloses : ClosesHeading (headingText ⟨{}, .empty⟩ [.text "a #"]) := by
    refine ⟨['a', ' '], 0, htext, ?_⟩
    rintro c ⟨⟩
    rfl
  obtain ⟨markup, hmarkup, -, -, hread, hsame⟩ :=
    heading_reread_iff hlevel ⟨{}, .empty⟩ 0 0 none [.text "a #"] .default []
  refine ⟨hlevel, markup, hmarkup, ?_, fun h => hsame.1 h hcloses⟩
  rw [hread, htext]
  decide

end NoteBridge
