import NoteBridge.Proofs.Markdown.Code
import NoteBridge.Proofs.Note.Code
import NoteBridge.Proofs.Render.Link

/-!
The delimiters of code. Code in a line stands between rows of backticks that are longer than any of
its own, behind spaces where it has one, and fenced code between such rows on lines of their own. So
neither ends before its content does, whatever the content is.
-/

namespace NoteBridge

open Markdown (IsFencedCode codeAt?)
open Page (Block Run plainChars)
open Render (codeSpan fenceFor fenceInfo tick)
open Text (Tight dropEndWhile splitWhere)

variable {content rest : List Char} {language : String}

/-- Code on one line without blanks around it is read as it was written. -/
theorem codeAt?_codeSpan (htight : Tight content) (hline : '\n' ∉ content)
    (hrest : rest.head? ≠ some tick) :
    codeAt? (codeSpan content ++ rest) = some (content, rest) := by
  obtain ⟨n, inner, hn, hcode, hinner, hne, hhead, hlast, hrow⟩ :=
    Render.exists_codeSpan_delimited htight.1
  obtain ⟨c, cs, rfl⟩ := List.exists_cons_of_ne_nil htight.1
  have hc : c ≠ ' ' := by
    rintro rfl
    exact htight.head? ' ' rfl (by decide)
  have htext : Markdown.Verbatim.codeText inner = c :: cs := by
    rcases hinner with rfl | rfl
    · exact Markdown.codeText_of_head? hline (by simpa using hc)
    · exact Markdown.codeText_surround hline (List.mem_cons_self ..) hc
  rw [hcode, ← htext]
  exact Markdown.codeAt?_delimited hn hrow hhead hlast hne hrest

theorem isFencedCode_codeFence (htick : tick ∉ language.toList) (hline : '\n' ∉ language.toList)
    (runs : List Run) :
    IsFencedCode (splitWhere (· == '\n') (Render.codeFence runs language)) (fenceInfo language)
      (dropEndWhile (· == '\n') (plainChars runs)) := by
  have hinfo : ∀ c ∈ fenceInfo language, c ∈ language.toList := by
    intro c hc
    rw [fenceInfo] at hc
    split at hc
    · cases hc
    · exact hc
  rw [Render.codeFence_eq]
  generalize dropEndWhile (· == '\n') (plainChars runs) = content
  have hlong : 3 ≤ max (Render.longestRow tick content) 2 + 1 := by omega
  have hrow : ¬List.replicate (max (Render.longestRow tick content) 2 + 1) tick <:+: content :=
    Render.not_replicate_infix (by omega)
  exact Markdown.isFencedCode_of_not_infix hlong (fun hc => htick (hinfo _ hc))
    (fun hc => hline (hinfo _ hc)) hrow

/-- Content never closes its code. Code in a line is read as it was written, whatever stands behind
its delimiters. Every code block is rendered, and where its language has no backtick and no line
feed, the lines are fenced code with the language behind the opening row and, up to the last line,
the text of the block without the line feeds at its end. -/
theorem codeDelimiters_enclose :
    (∀ content rest : List Char, Tight content → '\n' ∉ content → rest.head? ≠ some tick →
      codeAt? (codeSpan content ++ rest) = some (content, rest)) ∧
    ∀ (context : Render.Context) (depth number : Nat) (id : Option String)
        (runs caption : List Run) (language : String) (children : List Block),
      tick ∉ language.toList → '\n' ∉ language.toList →
      ∃ text,
        Render.renderBlock context depth number ⟨id, .code runs language caption, children⟩ =
          .ok text ∧
        IsFencedCode (splitWhere (· == '\n') text) (fenceInfo language)
          (dropEndWhile (· == '\n') (plainChars runs)) := by
  constructor
  · intro content rest htight hline hrest
    exact codeAt?_codeSpan htight hline hrest
  · intro context depth number id runs caption language children htick hline
    refine ⟨Render.codeFence runs language, ?_, isFencedCode_codeFence htick hline runs⟩
    rw [Render.renderBlock]

/-- Code of a backtick, a letter and two backticks, and a block with a row of four behind three
spaces. -/
theorem backticks_enclosed :
    (Tight "\x60a\x60\x60".toList ∧
      codeAt? (codeSpan "\x60a\x60\x60".toList ++ ['.']) = some ("\x60a\x60\x60".toList, ['.'])) ∧
    ∃ text,
      Render.renderBlock ⟨{}, .empty⟩ 0 0
        (.leaf (.code [.text "a\n   \x60\x60", .text "\x60\x60\n\n"] "markdown" [])) = .ok text ∧
      IsFencedCode (splitWhere (· == '\n') text) "markdown".toList
        "a\n   \x60\x60\x60\x60".toList := by
  have htight : Tight "\x60a\x60\x60".toList := by decide
  refine ⟨⟨htight, codeDelimiters_enclose.1 _ _ htight (by decide) (by decide)⟩, ?_⟩
  exact codeDelimiters_enclose.2 ⟨{}, .empty⟩ 0 0 none
    [.text "a\n   \x60\x60", .text "\x60\x60\n\n"] [] "markdown" [] (by decide) (by decide)

end NoteBridge
