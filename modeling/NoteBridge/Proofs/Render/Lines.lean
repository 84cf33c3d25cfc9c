import NoteBridge.Proofs.Render.Outline

/-!
The text of an outline. An item and a level of pieces are written as the lines of their outline
with line feeds in between, and this text determines the outline.
-/

namespace NoteBridge.Render

open Text

variable {part : Outline} {parts parts' rest : List Outline} {line first : Line}
  {lines more nested : List Line}

def textOf (lines : List Line) : List Char := join ['\n'] lines

theorem textOf_cons (line : Line) (h : lines ≠ []) :
    textOf (line :: lines) = line ++ '\n' :: textOf lines := by
  rw [textOf, join_cons line h, List.append_assoc]
  rfl

theorem textOf_append {others : List Line} (h : lines ≠ []) (hothers : others ≠ []) :
    textOf (lines ++ others) = textOf lines ++ '\n' :: textOf others := by
  rw [textOf, join_append h hothers, List.append_assoc]
  rfl

theorem textOf_append_cons (start line : Line) (lines : List Line) :
    textOf ((start ++ line) :: lines) = start ++ textOf (line :: lines) :=
  join_append_cons start line lines

/-! ### Characters of lines -/

/-- A character of a line of an outline. -/
def IsLineChar (c : Char) : Prop := IsPlain c ∨ c = ' ' ∨ c = '-'

theorem IsLineChar.ne {c d : Char} (h : IsLineChar c) (hd : isBlank d) (hspace : d ≠ ' ') :
    c ≠ d := by
  rintro rfl
  rcases h with hplain | rfl | rfl
  · exact hplain.1 hd
  · exact hspace rfl
  · cases hd

theorem isLineChar_of_isPlainLine (h : ∀ line ∈ lines, IsPlainLine line) :
    ∀ line ∈ lines, ∀ c ∈ line, IsLineChar c :=
  fun line hline c hc => .inl ((h line hline).2 c hc)

theorem isLineChar_parting (parted : Bool) : ∀ line ∈ parting parted, ∀ c ∈ line, IsLineChar c := by
  cases parted <;> simp [parting]

theorem isLineChar_map_indentLine (h : ∀ line ∈ lines, ∀ c ∈ line, IsLineChar c) :
    ∀ line ∈ lines.map indentLine, ∀ c ∈ line, IsLineChar c := by
  rw [List.forall_mem_map]
  intro line hline c hc
  unfold indentLine at hc
  split at hc
  · cases hc
  · rcases List.mem_append.1 hc with hspace | hc
    · simp only [indentation, List.mem_cons, List.not_mem_nil, or_false, or_self] at hspace
      exact .inr (.inl hspace)
    · exact h line hline c hc

theorem IsOutline.isLineChar (h : IsOutline parts) :
    ∀ line ∈ outlineLines parts, ∀ c ∈ line, IsLineChar c := by
  induction h with
  | nil => exact List.forall_mem_nil _
  | paragraph _ hplain _ ih =>
    rw [outlineLines, List.forall_mem_append, List.forall_mem_append]
    exact ⟨isLineChar_of_isPlainLine hplain, isLineChar_parting _, ih⟩
  | item hfirst hplain _ _ _ _ ihi ihr =>
    rw [outlineLines, Outline.lines, List.cons_append, itemLines, List.forall_mem_append,
      List.forall_mem_append, List.forall_mem_cons]
    refine ⟨⟨fun c hc => ?_, isLineChar_map_indentLine ?_⟩, isLineChar_parting _, ihr⟩
    · rcases List.mem_append.1 hc with hmarker | hc
      · exact .inr (by simpa [or_comm] using hmarker)
      · exact .inl (hfirst c hc)
    · rw [List.forall_mem_append, List.forall_mem_append]
      exact ⟨isLineChar_of_isPlainLine hplain, isLineChar_parting _, ihi⟩

/-! ### Text of lines -/

theorem IsOutline.splitWhere_textOf (h : IsOutline parts) (hne : parts ≠ []) :
    splitWhere (· == '\n') (textOf (outlineLines parts)) = outlineLines parts := by
  refine splitWhere_join rfl (mt h.eq_nil_of_outlineLines hne) fun line hline c hc => ?_
  simpa using (h.isLineChar line hline c hc).ne (d := '\n') rfl (by decide)

theorem IsOutline.lines_textOf (h : IsOutline parts) :
    Text.lines (textOf (outlineLines parts)) = outlineLines parts := by
  refine lines_join (fun line hline => ⟨fun hc => ?_, fun hc => ?_⟩) h.guarded.getLast?_ne
  · exact (h.isLineChar line hline _ hc).ne (d := '\n') rfl (by decide) rfl
  · exact (h.isLineChar line hline _ hc).ne (d := '\r') rfl (by decide) rfl

theorem textOf_ne_nil (h : ∀ line ∈ lines.head?, line ≠ []) (hne : lines ≠ []) :
    textOf lines ≠ [] := by
  obtain ⟨line, rest, rfl⟩ := List.exists_cons_of_ne_nil hne
  have hline := h line rfl
  cases rest with
  | nil => exact hline
  | cons next rest => simp [textOf, join, hline]

theorem IsOutline.textOf_eq_nil_iff (h : IsOutline parts) :
    textOf (outlineLines parts) = [] ↔ parts = [] := by
  refine ⟨fun hnil => ?_, fun hnil => hnil ▸ rfl⟩
  by_contra hne
  obtain ⟨line, lines, hlines, hfirst, -⟩ := h.exists_first_line hne
  rw [hlines] at hnil
  refine textOf_ne_nil ?_ (List.cons_ne_nil _ _) hnil
  rintro _ ⟨⟩
  exact hfirst []

/-- Outlines with the same text are the same. -/
theorem IsOutline.eq_of_textOf (h : IsOutline parts) (h' : IsOutline parts')
    (heq : textOf (outlineLines parts) = textOf (outlineLines parts')) : parts = parts' := by
  by_cases hnil : parts = []
  · have hempty := h.textOf_eq_nil_iff.2 hnil
    rw [heq, h'.textOf_eq_nil_iff] at hempty
    rw [hnil, hempty]
  · have hnil' : parts' ≠ [] := by
      rwa [Ne, ← h'.textOf_eq_nil_iff, ← heq, h.textOf_eq_nil_iff]
    apply h.eq_of_outlineLines h'
    rw [← h.splitWhere_textOf hnil, ← h'.splitWhere_textOf hnil', heq]

/-! ### Pieces -/

def pieceOf (part : Outline) : Piece := ⟨part.isItem, textOf part.lines⟩

/-- A level is written as the lines of its outline. -/
theorem joinPieces_map_pieceOf (h : ∀ part ∈ parts, part.lines ≠ []) :
    joinPieces (parts.map pieceOf) = textOf (outlineLines parts) := by
  induction parts with
  | nil => rfl
  | cons part rest ih =>
    obtain ⟨hpart, hrest⟩ := List.forall_mem_cons.1 h
    cases rest with
    | nil => simp [joinPieces, pieceOf, outlineLines, isParted, parting]
    | cons next rest =>
      have hne : outlineLines (next :: rest) ≠ [] :=
        List.append_ne_nil_of_left_ne_nil (hrest next (List.mem_cons_self ..)) _
      have hjoined : joinPieces ((part :: next :: rest).map pieceOf) =
          textOf part.lines ++ (if part.isItem && next.isItem then ['\n'] else ['\n', '\n']) ++
            joinPieces ((next :: rest).map pieceOf) := rfl
      have hparted : isParted part (next :: rest) = !(part.isItem && next.isItem) := rfl
      rw [hjoined, ih hrest, outlineLines.eq_2 part, hparted,
        textOf_append hpart (List.append_ne_nil_of_right_ne_nil _ hne)]
      cases part.isItem && next.isItem with
      | true => simp [parting]
      | false => simp [parting, textOf_cons [] hne]

/-! ### Items -/

theorem lineFeed_not_mem_plainLine (h : IsPlainLine line) : '\n' ∉ line :=
  fun hmem => (h.2 _ hmem).1 rfl

theorem replaceChar_textOf (hfirst : '\n' ∉ first) (hmore : ∀ line ∈ more, IsPlainLine line) :
    replaceChar '\n' ('\n' :: indentation) (textOf (first :: more)) =
      textOf (first :: more.map indentLine) := by
  induction more generalizing first with
  | nil => exact replaceChar_of_not_mem hfirst
  | cons next more ih =>
    obtain ⟨hnext, hmore⟩ := List.forall_mem_cons.1 hmore
    have hindent : indentLine next = indentation ++ next := if_neg (mt List.isEmpty_iff.1 hnext.1)
    rw [List.map_cons, hindent, textOf_cons first (List.cons_ne_nil _ _),
      textOf_cons first (List.cons_ne_nil _ _), textOf_append_cons, replaceChar_append,
      replaceChar_of_not_mem hfirst, replaceChar_cons_self,
      ih (lineFeed_not_mem_plainLine hnext) hmore]
    rfl

/-- An item is written as the lines of its text and of what is nested in it. -/
theorem itemText_textOf (context : Context) {runs : List Page.Run} (hparts : IsOutline parts)
    (hfirst : '\n' ∉ first) (hmore : ∀ line ∈ more, IsPlainLine line)
    (hruns : renderRuns context.runs runs = textOf (first :: more)) :
    itemText context "- ".toList runs (textOf (outlineLines parts)) =
      textOf (joinLead (first :: more) parts).lines := by
  have hindent : indentLines (textOf (outlineLines parts)) =
      textOf ((outlineLines parts).map indentLine) := by
    rw [indentLines, mapLines, hparts.lines_textOf]
    rfl
  rw [itemText, hruns, replaceChar_textOf hfirst hmore, hindent, lines_joinLead, List.cons_append,
    itemLines, List.map_append]
  by_cases hnil : parts = []
  · subst hnil
    rw [textOf_append_cons]
    simp [outlineLines, textOf, join]
  · have hempty : (textOf (outlineLines parts)).isEmpty = false := by
      simpa using mt hparts.textOf_eq_nil_iff.1 hnil
    have hne : (outlineLines parts).map indentLine ≠ [] := by
      simpa using mt hparts.eq_nil_of_outlineLines hnil
    rw [hempty, ← List.cons_append, textOf_append (List.cons_ne_nil _ _) hne, textOf_append_cons]
    rfl

theorem textOf_joinLead_ne_nil (first : Line) (more : List Line) (parts : List Outline) :
    textOf (joinLead (first :: more) parts).lines ≠ [] := by
  rw [lines_joinLead, List.cons_append, itemLines, textOf_append_cons]
  exact List.cons_ne_nil _ _

end NoteBridge.Render
