import NoteBridge.Proofs.Compose.Document
import NoteBridge.Proofs.Compose.Lines
import NoteBridge.Proofs.Page.RunLength
import NoteBridge.Proofs.Render.Lines
import NoteBridge.Proofs.Render.Outcome

/-!
Nested lists of plain text as markup. Their blocks are written as the lines of their outline, so
two such documents have the same markup if and only if they have the same outline. The outline
does not tell a line of an item from a paragraph that opens what is nested in it, and tells
everything else.
-/

namespace NoteBridge

open Compose (Becomes compose documentBlocks itemKind lineInlines splitLead)
open Markup (Node)
open Page (Block Run nodesOf plainChars)
open Render (IsOutline Outline joinLead joinPieces outlineLines pieceOf renderLevel renderPieces
  textOf)
open Text

variable {origin : Compose.Context} {context : Render.Context} {nodes : List Node}
  {blocks blocks' : List Block} {lines lines' : List Render.Line}

/-! ### Documents of lists -/

def IsLetterLine (line : List Char) : Prop := line ≠ [] ∧ ∀ c ∈ line, isLetter c = true

/-- Paragraphs of lines of letters, and bulleted lists of items that hold the same. -/
inductive IsListed : List Node → Prop
  | nil : IsListed []
  | paragraph {lines : List (List Char)} {rest : List Node} :
      lines ≠ [] → (∀ line ∈ lines, IsLetterLine line) → IsListed rest →
      IsListed (.paragraph (lineInlines lines) :: rest)
  | noItems {start : Nat} {rest : List Node} :
      IsListed rest → IsListed (.list false start [] :: rest)
  | item {start : Nat} {item : List Node} {items : List (List Node)} {rest : List Node} :
      IsListed item → IsListed (.list false start items :: rest) →
      IsListed (.list false start (item :: items) :: rest)

/-- The blocks of such documents. -/
inductive IsListing (origin : Compose.Context) : List Block → Prop
  | nil : IsListing origin []
  | paragraph {lines : List (List Char)} {rest : List Block} :
      lines ≠ [] → (∀ line ∈ lines, IsPlainLine line) → IsListing origin rest →
      IsListing origin (.paragraph (compose origin (lineInlines lines)) :: rest)
  | item {lines : List (List Char)} {children rest : List Block} :
      (∀ line ∈ lines, IsPlainLine line) → IsListing origin children → IsListing origin rest →
      IsListing origin
        ({ kind := .text .bulletedItem (compose origin (lineInlines lines)), children } :: rest)

theorem IsLetterLine.isPlainLine {line : List Char} (h : IsLetterLine line) : IsPlainLine line :=
  ⟨h.1, fun c hc => isPlain_of_isLetter (h.2 c hc)⟩

theorem IsListed.exists_lead (h : IsListed nodes) :
    ∃ lines, (splitLead nodes).1.getD [] = lineInlines lines ∧ (∀ line ∈ lines, IsPlainLine line) ∧
      IsListed (splitLead nodes).2 := by
  cases h with
  | nil => exact ⟨[], rfl, List.forall_mem_nil _, .nil⟩
  | @paragraph lines rest _ hlines hrest =>
    exact ⟨lines, rfl, fun line hline => (hlines line hline).isPlainLine, hrest⟩
  | noItems hrest => exact ⟨[], rfl, List.forall_mem_nil _, .noItems hrest⟩
  | item hitem hrest => exact ⟨[], rfl, List.forall_mem_nil _, .item hitem hrest⟩

theorem IsListed.isListing (hnodes : IsListed nodes) (h : Becomes origin nodes blocks) :
    IsListing origin blocks := by
  induction h with
  | nil => exact .nil
  | leaf hkind _ ih =>
    cases hnodes with
    | noItems | item => cases hkind
    | paragraph hne hlines hrest =>
      have hplain : ∀ line ∈ _, IsPlainLine line := fun line hline =>
        (hlines line hline).isPlainLine
      cases hkind
      rw [Compose.paragraphBlock_lineInlines hplain]
      exact .paragraph hne hplain (ih hrest)
  | table | html | quote => cases hnodes
  | noItems _ ih =>
    cases hnodes with
    | noItems hrest => exact ih hrest
  | item _ _ ihc ihr =>
    cases hnodes with
    | item hitem hrest =>
      obtain ⟨lines, hlead, hplain, hbelow⟩ := hitem.exists_lead
      rw [hlead, Compose.itemKind_lineInlines hplain]
      exact .item hplain (ihc hbelow) (ihr hrest)

/-! ### Outlines of blocks -/

def textLines (runs : List Run) : List Render.Line := splitWhere (· == '\n') (plainChars runs)

mutual

def outlineOf : Block → Outline
  | ⟨_, kind, children⟩ =>
    if kind.isListItem then joinLead (textLines kind.runs) (outlinesOf children)
    else .paragraph (textLines kind.runs)

def outlinesOf : List Block → List Outline
  | [] => []
  | block :: blocks => outlineOf block :: outlinesOf blocks

end

/-- Plain lines are found again in the runs that they compose into. -/
theorem textLines_lineInlines (hne : lines ≠ []) (h : ∀ line ∈ lines, IsPlainLine line) :
    textLines (compose origin (lineInlines lines)) = lines := by
  rw [textLines, (Compose.compose_lineInlines origin h).2]
  refine splitWhere_join rfl hne fun line hline c hc => ?_
  rw [beq_iff_eq]
  rintro rfl
  exact Render.lineFeed_not_mem_plainLine (h line hline) hc

/-- An item has one line at least, which is empty if its text is. -/
theorem exists_textLines (origin : Compose.Context) (h : ∀ line ∈ lines, IsPlainLine line) :
    ∃ first more, textLines (compose origin (lineInlines lines)) = first :: more ∧
      (∀ c ∈ first, IsPlain c) ∧ (∀ line ∈ more, IsPlainLine line) ∧
      textOf (first :: more) = textOf lines := by
  rcases lines with _ | ⟨first, more⟩
  · exact ⟨[], [], rfl, List.forall_mem_nil _, List.forall_mem_nil _, rfl⟩
  · obtain ⟨hfirst, hmore⟩ := List.forall_mem_cons.1 h
    exact ⟨first, more, textLines_lineInlines (List.cons_ne_nil _ _) h, hfirst.2, hmore, rfl⟩

theorem outlinesOf_paragraph (runs : List Run) (rest : List Block) :
    outlinesOf (.paragraph runs :: rest) = .paragraph (textLines runs) :: outlinesOf rest := rfl

theorem outlinesOf_item (runs : List Run) (children rest : List Block) :
    outlinesOf ({ kind := .text .bulletedItem runs, children } :: rest) =
      joinLead (textLines runs) (outlinesOf children) :: outlinesOf rest := rfl

theorem IsListing.isOutline (h : IsListing origin blocks) : IsOutline (outlinesOf blocks) := by
  induction h with
  | nil => exact .nil
  | paragraph hne hplain _ ih =>
    rw [outlinesOf_paragraph, textLines_lineInlines hne hplain]
    exact .paragraph hne hplain ih
  | item hplain _ _ ihc ihr =>
    obtain ⟨first, more, hlines, hfirst, hmore, -⟩ := exists_textLines origin hplain
    rw [outlinesOf_item, hlines]
    exact Render.IsOutline.joinLead hfirst hmore ihc ihr

/-! ### Markup -/

theorem renderRuns_lineInlines (h : ∀ line ∈ lines, IsPlainLine line) :
    Render.renderRuns context.runs (compose origin (lineInlines lines)) = textOf lines := by
  obtain ⟨hruns, hchars⟩ := Compose.compose_lineInlines origin h
  rw [Render.renderRuns_plain hruns, hchars]
  · rfl
  · rw [hchars]
    intro c hc
    apply Render.neverEscaped_of_not_mem_marks
    rcases mem_join hc with hfeed | ⟨line, hline, hc⟩
    · rw [List.mem_singleton.1 hfeed]
      decide
    · exact ((h line hline).2 c hc).2

/-- The pieces of a level are those of its outline. -/
theorem IsListing.renderPieces_eq (h : IsListing origin blocks) {depth number last : Nat}
    {pieces : List Render.Piece}
    (hpieces : renderPieces context depth number blocks = .ok (pieces, last)) :
    pieces = (outlinesOf blocks).map pieceOf := by
  induction h generalizing depth number pieces last with
  | nil =>
    rw [renderPieces] at hpieces
    cases hpieces
    rfl
  | @paragraph lines rest hne hplain hrest ih =>
    obtain ⟨text, others, htext, hothers, rfl⟩ :=
      (Render.renderPieces_shown_eq_ok_iff rfl).1 hpieces
    have hshown : text = textOf lines := by
      rw [Render.renderBlock] at htext
      obtain ⟨nested, hnested, heq⟩ := bind_eq_ok_iff.1 htext
      rw [renderLevel] at hnested
      cases hnested
      cases heq
      exact renderRuns_lineInlines hplain
    have hempty : text.isEmpty = false := by
      have hfirst : ∀ line ∈ lines.head?, line ≠ [] := fun line hline =>
        (hplain line (List.mem_of_mem_head? hline)).1
      simpa [hshown] using Render.textOf_ne_nil hfirst hne
    rw [ih hothers, outlinesOf_paragraph, textLines_lineInlines hne hplain, hempty, hshown]
    rfl
  | @item lines children rest hplain hchildren _ ihc ihr =>
    obtain ⟨text, others, htext, hothers, rfl⟩ :=
      (Render.renderPieces_shown_eq_ok_iff rfl).1 hpieces
    obtain ⟨first, more, hlines, hfirst, hmore, hown⟩ := exists_textLines origin hplain
    have hshown : text = textOf (joinLead (first :: more) (outlinesOf children)).lines := by
      rw [Render.renderBlock] at htext
      obtain ⟨nested, hnested, heq⟩ := bind_eq_ok_iff.1 htext
      cases heq
      obtain ⟨-, inside, after, hinside, rfl⟩ := Render.renderLevel_eq_ok_iff.1 hnested
      rw [ihc hinside, Render.joinPieces_map_pieceOf hchildren.isOutline.lines_ne_nil]
      refine Render.itemText_textOf context hchildren.isOutline (fun hfeed => ?_) hmore ?_
      · exact (hfirst _ hfeed).1 rfl
      · rw [renderRuns_lineInlines hplain, hown]
    have hempty : text.isEmpty = false := by
      simpa [hshown] using Render.textOf_joinLead_ne_nil first more (outlinesOf children)
    rw [ihr hothers, outlinesOf_item, hlines, hempty, hshown, List.map_cons, pieceOf,
      Render.isItem_joinLead]
    rfl

/-- The markup of such blocks is the text of their outline. -/
theorem IsListing.render_eq (h : IsListing origin blocks) {text : List Char}
    (hrender : Render.render context blocks = .ok text) :
    text = if (textOf (outlineLines (outlinesOf blocks))).isEmpty then []
      else textOf (outlineLines (outlinesOf blocks)) ++ ['\n'] := by
  obtain ⟨-, -, hrender⟩ := bind_eq_ok_iff.1 hrender
  obtain ⟨level, hlevel, heq⟩ := bind_eq_ok_iff.1 hrender
  obtain ⟨-, pieces, last, hpieces, rfl⟩ := Render.renderLevel_eq_ok_iff.1 hlevel
  rw [h.renderPieces_eq hpieces, Render.joinPieces_map_pieceOf h.isOutline.lines_ne_nil] at heq
  exact (Except.ok.inj heq).symm

/-- Blocks with the same markup have the same outline. -/
theorem IsListing.outlinesOf_eq (h : IsListing origin blocks) (h' : IsListing origin blocks')
    {text : List Char} (hrender : Render.render context blocks = .ok text)
    (hrender' : Render.render context blocks' = .ok text) :
    outlinesOf blocks = outlinesOf blocks' := by
  apply h.isOutline.eq_of_textOf h'.isOutline
  have hsame := (h.render_eq hrender).symm.trans (h'.render_eq hrender')
  split at hsame <;> split at hsame
  · next hnil hnil' => rw [List.isEmpty_iff.1 hnil, List.isEmpty_iff.1 hnil']
  · exact absurd hsame.symm (by simp)
  · exact absurd hsame (by simp)
  · exact List.append_cancel_right hsame

/-! ### Blocks of an outline -/

/-- Whether what is nested in a block begins with a paragraph. -/
def OpensWithText (block : Block) : Prop :=
  ∃ child ∈ block.children.head?, child.kind.isListItem = false

theorem lines_eq_of_textLines (h : ∀ line ∈ lines, IsPlainLine line)
    (h' : ∀ line ∈ lines', IsPlainLine line)
    (heq : textLines (compose origin (lineInlines lines)) =
      textLines (compose origin (lineInlines lines'))) : lines = lines' := by
  have hempty : ∀ {all : List Render.Line}, (∀ line ∈ all, IsPlainLine line) →
      textLines (compose origin (lineInlines all)) = textLines (compose origin (lineInlines [])) →
      all = [] := by
    intro all hall hsame
    by_contra hne
    rw [textLines_lineInlines hne hall] at hsame
    exact (hall [] (hsame ▸ List.mem_singleton_self [])).1 rfl
  rcases eq_or_ne lines [] with rfl | hne
  · exact (hempty h' heq.symm).symm
  · rcases eq_or_ne lines' [] with rfl | hne'
    · exact hempty h heq
    · rwa [textLines_lineInlines hne h, textLines_lineInlines hne' h'] at heq

theorem IsListing.opensWithText_eq_false (h : IsListing origin blocks) {block : Block}
    (hblock : block.children = blocks) (hopens : ¬OpensWithText block) :
    Render.opensWithText (outlinesOf blocks) = false := by
  cases h with
  | nil => rfl
  | paragraph => exact absurd ⟨_, by rw [hblock]; rfl, rfl⟩ hopens
  | item => rw [outlinesOf_item, Render.opensWithText_cons, Render.isItem_joinLead]; rfl

/-- Without paragraphs that open what is nested, the outline determines the blocks. -/
theorem IsListing.eq_of_outlinesOf (h : IsListing origin blocks) (h' : IsListing origin blocks')
    (hopens : ∀ node ∈ nodesOf blocks, ¬OpensWithText node)
    (hopens' : ∀ node ∈ nodesOf blocks', ¬OpensWithText node)
    (heq : outlinesOf blocks = outlinesOf blocks') : blocks = blocks' := by
  have hkind : ∀ lines more parts, Outline.paragraph lines ≠ joinLead more parts := by
    intro lines more parts hsame
    have hitem := congrArg Outline.isItem hsame
    rw [Render.isItem_joinLead] at hitem
    cases hitem
  induction h generalizing blocks' with
  | nil =>
    cases h' with
    | nil => rfl
    | paragraph => cases heq
    | item => cases heq
  | @paragraph lines rest hne hplain hrest ih =>
    cases h' with
    | nil => cases heq
    | item => exact absurd (List.head_eq_of_cons_eq heq) (hkind _ _ _)
    | @paragraph lines' rest' hne' hplain' hrest' =>
      rw [Page.nodesOf_cons, List.forall_mem_cons, List.forall_mem_append] at hopens hopens'
      obtain ⟨hfirst, hothers⟩ := List.cons_eq_cons.1 heq
      rw [lines_eq_of_textLines hplain hplain' (Outline.paragraph.inj hfirst),
        ih hrest' hopens.2.2 hopens'.2.2 hothers]
  | @item lines children rest hplain hchildren hrest ihc ihr =>
    cases h' with
    | nil => cases heq
    | paragraph => exact absurd (List.head_eq_of_cons_eq heq).symm (hkind _ _ _)
    | @item lines' children' rest' hplain' hchildren' hrest' =>
      rw [Page.nodesOf_cons, List.forall_mem_cons, List.forall_mem_append] at hopens hopens'
      have hlead := hchildren.opensWithText_eq_false rfl hopens.1
      have hlead' := hchildren'.opensWithText_eq_false rfl hopens'.1
      rw [outlinesOf_item, outlinesOf_item, Render.joinLead_of_not_opensWithText hlead,
        Render.joinLead_of_not_opensWithText hlead'] at heq
      obtain ⟨hfirst, hothers⟩ := List.cons_eq_cons.1 heq
      obtain ⟨hown, -, hinside⟩ := Outline.item.inj hfirst
      rw [lines_eq_of_textLines hplain hplain' hown,
        ihc hchildren' hopens.2.1 hopens'.2.1 hinside, ihr hrest' hopens.2.2 hopens'.2.2 hothers]

/-! ### Documents with the same markup -/

/-- Two documents of lists are written alike if and only if their blocks have the same outline. So
they have the same blocks, unless a paragraph opens what is nested in an item. -/
theorem render_lists_eq_iff {document document' : Markup.Document} (h : IsListed document)
    (h' : IsListed document') (hblocks : documentBlocks origin document = .ok blocks)
    (hblocks' : documentBlocks origin document' = .ok blocks') :
    let target : Render.Context := ⟨origin.options, origin.resolver⟩
    ∃ text text', Render.render target blocks = .ok text ∧
      Render.render target blocks' = .ok text' ∧
      (text = text' ↔ outlinesOf blocks = outlinesOf blocks') ∧
      ((∀ node ∈ nodesOf blocks ++ nodesOf blocks', ¬OpensWithText node) → text = text' →
        blocks = blocks') := by
  intro target
  obtain ⟨text, hrender⟩ : ∃ text, Render.render target blocks = .ok text :=
    Render.exists_render_of_documentBlocks hblocks
  obtain ⟨text', hrender'⟩ : ∃ text, Render.render target blocks' = .ok text :=
    Render.exists_render_of_documentBlocks hblocks'
  have hlists := h.isListing (Compose.becomes_of_documentBlocks hblocks).1
  have hlists' := h'.isListing (Compose.becomes_of_documentBlocks hblocks').1
  have houtlines : text = text' → outlinesOf blocks = outlinesOf blocks' := by
    rintro rfl
    exact hlists.outlinesOf_eq hlists' hrender hrender'
  refine ⟨text, text', hrender, hrender', ⟨houtlines, fun hsame => ?_⟩, fun hopens hsame => ?_⟩
  · rw [hlists.render_eq hrender, hlists'.render_eq hrender', hsame]
  · rw [List.forall_mem_append] at hopens
    exact hlists.eq_of_outlinesOf hlists' hopens.1 hopens.2 (houtlines hsame)

/-- An item with a second paragraph. -/
def twoParagraphs : Markup.Document :=
  [.list false 1 [[.paragraph (lineInlines [['a']]), .paragraph (lineInlines [['b']])]]]

/-- An item with a second line. -/
def twoLines : Markup.Document := [.list false 1 [[.paragraph (lineInlines [['a'], ['b']])]]]

theorem isLetterLine_single {c : Char} (h : isLetter c = true) : IsLetterLine [c] :=
  ⟨List.cons_ne_nil _ _, by simpa using h⟩

theorem isListed_twoParagraphs : IsListed twoParagraphs := by
  have ha : IsLetterLine ['a'] := isLetterLine_single (by decide +kernel)
  have hb : IsLetterLine ['b'] := isLetterLine_single (by decide +kernel)
  exact .item (.paragraph (by simp) (by simpa using ha)
    (.paragraph (by simp) (by simpa using hb) .nil)) (.noItems .nil)

theorem isListed_twoLines : IsListed twoLines := by
  have ha : IsLetterLine ['a'] := isLetterLine_single (by decide +kernel)
  have hb : IsLetterLine ['b'] := isLetterLine_single (by decide +kernel)
  exact .item (.paragraph (by simp) (by simpa using ⟨ha, hb⟩) .nil) (.noItems .nil)

/-- A second paragraph and a second line of an item are different blocks with the same markup. -/
theorem twoParagraphs_twoLines_render_alike :
    ∃ blocks blocks', documentBlocks ⟨{}, .empty⟩ twoParagraphs = .ok blocks ∧
      documentBlocks ⟨{}, .empty⟩ twoLines = .ok blocks' ∧ blocks ≠ blocks' ∧
      ∃ text, Render.render ⟨{}, .empty⟩ blocks = .ok text ∧
        Render.render ⟨{}, .empty⟩ blocks' = .ok text := by
  have hblocks : documentBlocks ⟨{}, .empty⟩ twoParagraphs =
      .ok [{ kind := .text .bulletedItem [.text "a"], children := [.paragraph [.text "b"]] }] := by
    cbv
  have hblocks' : documentBlocks ⟨{}, .empty⟩ twoLines =
      .ok [{ kind := .text .bulletedItem [.text "a\nb"] }] := by
    cbv
  obtain ⟨text, text', hrender, hrender', hsame, -⟩ :=
    render_lists_eq_iff isListed_twoParagraphs isListed_twoLines hblocks hblocks'
  have htext : text = text' := hsame.2 (by cbv)
  exact ⟨_, _, hblocks, hblocks', by decide, text, hrender, htext ▸ hrender'⟩

end NoteBridge
