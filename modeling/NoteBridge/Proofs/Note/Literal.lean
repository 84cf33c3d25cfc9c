import NoteBridge.Proofs.Compose.Literal
import NoteBridge.Proofs.Note.RunLength

/-!
Literal text on its way back to a page. Escaping keeps the parser from reading markup in a text, but
the document is searched for references, highlights, formulas and callouts after the escapes are
gone. So the text comes back as it was if and only if it has none of them.
-/

namespace NoteBridge

open Compose (HasHighlight IsFormula OpensCallout ShowsPlainly)
open Markup (Inline)
open Markup.WikiLink (HasLink split)
open Page (Block Run)
open Text (Tight)

variable {cs : List Char}

/-! ### What the parser makes of plain text -/

namespace Markdown

/-- Whether the escaped text is read as one paragraph of nothing but the text, in one or more
pieces. -/
def ReadsAsText (cs : List Char) : Prop :=
  ∃ (content : List Char) (refs : References) (pieces : List (List Char)),
    Outline.read (Render.escape true cs) = ([.paragraph content], refs) ∧
      spans refs content = pieces.map Span.text ∧ pieces.flatten = cs

theorem pushAll_text (s : String) (out : List Inline) (pieces : List (List Char)) :
    Span.pushAll (.text s :: out) (pieces.map Span.text) =
      (.text (s ++ String.ofList pieces.flatten) :: out, []) := by
  induction pieces generalizing s with
  | nil => simp [Span.pushAll]
  | cons piece pieces ih => simp [Span.pushAll, Span.push, pushText, ih, String.append_assoc]

theorem withCrossRefs_text {s : String} (hs : s ≠ "") : withCrossRefs (.text s) = split s := by
  rw [withCrossRefs]
  split
  · rfl
  · next hcut =>
    have hnone : Text.cut? Markup.WikiLink.opening s.toList = none := by
      rw [Markup.WikiLink.opening]
      simpa using hcut
    exact (Compose.split_of_not_hasLink hs (Markup.WikiLink.not_hasLink_of_cut?_opening hnone)).symm

/-- Pieces of plain text are one text, and this text is split at references. -/
theorem inlines_text {pieces : List (List Char)} (h : pieces.flatten ≠ []) :
    (Span.inlines (pieces.map Span.text)).1 = split (String.ofList pieces.flatten) := by
  cases pieces with
  | nil => exact absurd rfl h
  | cons piece pieces =>
    have hpush : (Span.pushAll [] ((piece :: pieces).map Span.text)).1 =
        [.text (String.ofList (piece :: pieces).flatten)] := by
      simp [Span.pushAll, Span.push, pushText, pushAll_text]
    have hfinish : (Span.inlines ((piece :: pieces).map Span.text)).1 =
        (Span.pushAll [] ((piece :: pieces).map Span.text)).1.reverse.flatMap withCrossRefs := by
      rw [Span.inlines]
      rfl
    rw [hfinish, hpush, List.reverse_singleton, List.flatMap_singleton,
      withCrossRefs_text (by simpa using h)]

theorem document_of_readsAsText (h : ReadsAsText cs) (hne : cs ≠ []) :
    (read (String.ofList (Render.escape true cs))).document =
      [.paragraph (split (String.ofList cs))] := by
  obtain ⟨text, refs, pieces, hblocks, hspans, rfl⟩ := h
  have hcontent : (content refs text).1 = split (String.ofList pieces.flatten) := by
    rw [content, hspans, inlines_text hne]
  rw [read, String.toList_ofList, hblocks, ← hcontent]
  rfl

end Markdown

/-! ### What comes back -/

theorem documentBlocks_paragraph (context : Compose.Context) (content : List Inline) :
    Compose.documentBlocks context [.paragraph content] =
      .ok [Compose.paragraphBlock context content] := by
  have hcheck : Page.check [Compose.paragraphBlock context content] = .ok () := by
    unfold Compose.paragraphBlock
    split
    · rfl
    · split
      · unfold Compose.imageBlock
        split <;> rfl
      · rfl
  change (Page.check [Compose.paragraphBlock context content] >>= fun _ => _) = _
  rw [hcheck]
  rfl

/-- A literal text comes back from a paragraph and from a quote as one block that shows the text
plainly, unless the document finds something in it: a reference or a highlight in either, a formula
in a paragraph, and the beginning of a callout in a quote. -/
theorem literal_survives_iff (context : Compose.Context) (htight : Tight cs) (hline : '\n' ∉ cs)
    (hread : Markdown.ReadsAsText cs) :
    let document := (Markdown.read (String.ofList (Render.escape true cs))).document
    let shown := fun runs => ShowsPlainly runs (String.ofList cs)
    ((∃ runs, Compose.documentBlocks context document = .ok [.paragraph runs] ∧ shown runs) ↔
        ¬HasLink cs ∧ ¬HasHighlight cs ∧ ¬IsFormula cs) ∧
      ((∃ runs, Compose.documentBlocks context [.quote document] = .ok [.leaf (.text .quote runs)] ∧
          shown runs) ↔
        ¬HasLink cs ∧ ¬HasHighlight cs ∧ ¬OpensCallout cs) := by
  intro document shown
  have hdocument : document = [.paragraph (split (String.ofList cs))] :=
    Markdown.document_of_readsAsText hread htight.1
  have hparagraph := Compose.paragraphBlock_split_iff (s := String.ofList cs) context
    (by rwa [String.toList_ofList])
  have hquote := Compose.quoteKind_split_iff (s := String.ofList cs) context
    (by rwa [String.toList_ofList]) (by rwa [String.toList_ofList])
  rw [String.toList_ofList] at hparagraph hquote
  rw [hdocument, documentBlocks_paragraph, documentBlocks_quote, ← hparagraph, ← hquote]
  constructor
  · simp only [Except.ok.injEq, List.cons.injEq, and_true]
    rfl
  · simp only [Except.ok.injEq, List.cons.injEq, and_true, Block.leaf, Block.mk.injEq, true_and]
    rfl

def product : List Char := "2 * 3".toList

theorem readsAsText_product : Markdown.ReadsAsText product :=
  ⟨"2 \\* 3\n".toList, ∅, [product], by cbv, by cbv, rfl⟩

def bracketed : List Char := "[[Note]]".toList

theorem readsAsText_bracketed : Markdown.ReadsAsText bracketed :=
  ⟨"\\[\\[Note\\]\\]\n".toList, ∅, [bracketed], by cbv, by cbv, rfl⟩

/-- A product comes back as it was, and a name in brackets does not. -/
theorem product_survives_bracketed_does_not :
    (∃ runs, Compose.documentBlocks ⟨{}, .empty⟩
        (Markdown.read (String.ofList (Render.escape true product))).document =
          .ok [.paragraph runs] ∧ ShowsPlainly runs (String.ofList product)) ∧
      ¬∃ runs, Compose.documentBlocks ⟨{}, .empty⟩
        (Markdown.read (String.ofList (Render.escape true bracketed))).document =
          .ok [.paragraph runs] ∧ ShowsPlainly runs (String.ofList bracketed) := by
  constructor
  · refine (literal_survives_iff _ ?_ (by decide) readsAsText_product).1.2 ⟨?_, ?_, ?_⟩
    · exact ⟨by decide, by decide⟩
    · exact Markup.WikiLink.not_hasLink_of_cut?_opening (by decide)
    · rintro ⟨c, hc⟩
      exact absurd (Compose.length_shownChars_lt hc) (by decide)
    · exact (Compose.dollarMath?_eq_none_iff (by decide)).1 (by decide)
  · rw [(literal_survives_iff _ ⟨by decide, by decide⟩ (by decide) readsAsText_bracketed).1]
    rintro ⟨hlink, -⟩
    exact hlink ⟨[], "Note]]".toList, "Note".toList, [], by decide, by decide, by decide, by decide⟩

end NoteBridge
