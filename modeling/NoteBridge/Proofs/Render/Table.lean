import NoteBridge.Proofs.Markdown.TableRow
import NoteBridge.Proofs.Render.Depth
import NoteBridge.Proofs.Text.Search

/-!
Tables in the markup. Whatever the cells of a table hold, it is a grid: a line for every row and one
for the rule under the first, each parted by the same number of bars. A bar in a cell stands behind
a backslash and a line end is written out, so that nothing in a cell reads as an end of it, and the
reader of rows finds the texts of the cells again.
-/

namespace NoteBridge.Render

open Markdown.TableRow (bars barsFrom barsFrom_append_space cellAt_append_space cellsFrom
  cellsFrom_append fit freeBars freeBars_append freeBars_cons isLineSpace isRule)
open Page (Block Run)
open Text

variable {width : Nat} {rest : List Char} {texts : List (List Char)} {children : List Block}

/-! ### Cells -/

theorem escapeCell_cons (c : Char) (cs : List Char) :
    escapeCell (c :: cs) =
      (if c = '|' then ['\\', '|'] else if c = '\n' then "<br>".toList else [c]) ++
        escapeCell cs := by
  rw [escapeCell, replaceChar_cons, replaceChar_append]
  refine congrArg (· ++ escapeCell cs) ?_
  split
  · rfl
  · exact (replaceChar_cons ..).trans (List.append_nil _)

theorem barsFrom_escapeCell (place : Nat) (escaped : Bool) (cs : List Char) :
    barsFrom place escaped (escapeCell cs) = [] := by
  induction cs generalizing place escaped with
  | nil => rfl
  | cons c cs ih =>
    rw [escapeCell_cons]
    split
    · simp [barsFrom, ih]
    · next hbar =>
      split
      · simp [barsFrom, ih]
      · simp [barsFrom, ih, hbar]

theorem lineFeed_not_mem_escapeCell (cs : List Char) : '\n' ∉ escapeCell cs :=
  not_mem_replaceChar (by decide) _

/-! ### Lines -/

/-- A cell with the space on both sides of it and the bar behind it. -/
def closedCell (cell : List Char) : List Char := ' ' :: (cell ++ [' ', '|'])

theorem tableLine_eq {cells : List (List Char)} (hne : cells ≠ []) :
    tableLine cells = '|' :: cells.flatMap closedCell := by
  induction cells with
  | nil => exact absurd rfl hne
  | cons cell cells ih =>
    cases cells with
    | nil => simp [tableLine, join, closedCell]
    | cons next cells =>
      have hnext := ih (List.cons_ne_nil _ _)
      rw [List.flatMap_cons, closedCell, List.cons_append, List.append_assoc, List.cons_append,
        List.singleton_append, ← hnext]
      simp [tableLine, join]

/-- The line of a row whose cells show the given texts. -/
def rowLine (texts : List (List Char)) : List Char := tableLine (texts.map escapeCell)

theorem rowLine_eq (hne : texts ≠ []) :
    rowLine texts = '|' :: texts.flatMap fun cs => closedCell (escapeCell cs) := by
  rw [rowLine, tableLine_eq (mt List.map_eq_nil_iff.1 hne), List.flatMap_map]

theorem lineFeed_not_mem_rowLine (texts : List (List Char)) : '\n' ∉ rowLine texts := by
  intro h
  rcases List.mem_append.1 h with h | h
  · rcases List.mem_append.1 h with h | h
    · exact absurd h (by decide)
    · rcases mem_join h with h | ⟨cell, hcell, h⟩
      · exact absurd h (by decide)
      · obtain ⟨cs, -, rfl⟩ := List.mem_map.1 hcell
        exact lineFeed_not_mem_escapeCell cs h
  · exact absurd h (by decide)

theorem length_barsFrom_cells (place : Nat) (texts : List (List Char)) :
    (barsFrom place false (texts.flatMap fun cs => closedCell (escapeCell cs))).length =
      texts.length := by
  induction texts generalizing place with
  | nil => rfl
  | cons cs texts ih =>
    rw [List.flatMap_cons, closedCell, List.cons_append, List.append_assoc, List.cons_append,
      List.singleton_append, barsFrom, if_neg (by decide), barsFrom_append_space,
      barsFrom_escapeCell, List.nil_append, barsFrom, if_pos (by decide), List.length_cons,
      List.length_cons]
    exact congrArg (· + 1) (ih _)

/-- Whatever its cells show, a row has a bar on both sides of each of them, the first at the start
of the line and the last at its end. -/
theorem bars_rowLine (hne : texts ≠ []) :
    (bars (rowLine texts)).length = texts.length + 1 ∧
      (bars (rowLine texts)).head? = some 0 ∧
      (bars (rowLine texts)).getLast? = some ((rowLine texts).length - 1) := by
  have hstart : bars (rowLine texts) =
      0 :: barsFrom 1 false (texts.flatMap fun cs => closedCell (escapeCell cs)) := by
    rw [rowLine_eq hne]
    rfl
  refine ⟨?_, ?_, ?_⟩
  · rw [hstart, List.length_cons, length_barsFrom_cells]
  · rw [hstart]
    rfl
  · have hend : bars (rowLine texts) = _ :=
      barsFrom_append_space 0 false ("| ".toList ++ join " | ".toList (texts.map escapeCell)) ['|']
    rw [hend, barsFrom, if_pos (by decide), barsFrom, List.getLast?_concat, rowLine, tableLine]
    simp

/-- The rule under the header is a row of hyphens. -/
theorem rowLine_rule (hwidth : 0 < width) :
    rowLine (List.replicate width "---".toList) =
      '|' :: (List.replicate width " --- |".toList).flatten := by
  have hne : List.replicate width "---".toList ≠ [] := by
    simpa using hwidth.ne'
  rw [rowLine_eq hne, List.flatMap_def, List.map_replicate]
  rfl

/-! ### Lines read back -/

/-- What the reader of rows finds in a cell that shows a text. -/
def readText (cs : List Char) : List Char :=
  trimSpacing (replaceChar '\n' "<br>".toList (cs.dropWhile isLineSpace))

/-- No cell begins with a bar. -/
theorem head?_escapeCell_append (cs : List Char) (hrest : rest.head? ≠ some '|') :
    (escapeCell cs ++ rest).head? ≠ some '|' := by
  cases cs with
  | nil => exact hrest
  | cons c cs =>
    rw [escapeCell_cons]
    split
    · simp
    · next hbar => split <;> simp [hbar]

theorem freeBars_escapeCell (cs : List Char) :
    freeBars (escapeCell cs ++ [' ']) = replaceChar '\n' "<br>".toList cs ++ [' '] := by
  induction cs with
  | nil => rfl
  | cons c cs ih =>
    have hhead : (escapeCell cs ++ [' ']).head? ≠ some '|' :=
      head?_escapeCell_append cs (by decide)
    rw [escapeCell_cons, replaceChar_cons]
    by_cases hbar : c = '|'
    · subst hbar
      have hfree : freeBars ('\\' :: '|' :: (escapeCell cs ++ [' '])) =
          freeBars (['|'] ++ (escapeCell cs ++ [' '])) := if_pos (by decide)
      rw [freeBars_append (by decide), ih] at hfree
      exact hfree
    · rw [if_neg hbar, List.append_assoc, List.append_assoc, ← ih]
      split
      · exact freeBars_append (by decide) _
      · exact freeBars_cons fun _ => hhead

theorem dropWhile_escapeCell_append (cs rest : List Char) :
    (escapeCell cs ++ rest).dropWhile isLineSpace =
      if cs.dropWhile isLineSpace = [] then rest.dropWhile isLineSpace
      else escapeCell (cs.dropWhile isLineSpace) ++ rest := by
  induction cs with
  | nil => rfl
  | cons c cs ih =>
    by_cases hspace : isLineSpace c = true
    · have hbar : c ≠ '|' := by
        rintro rfl
        exact absurd hspace (by decide)
      have hfeed : c ≠ '\n' := by
        rintro rfl
        exact absurd hspace (by decide)
      rw [escapeCell_cons, if_neg hbar, if_neg hfeed, List.dropWhile_cons_of_pos hspace, ← ih]
      exact List.dropWhile_cons_of_pos hspace
    · rw [List.dropWhile_cons_of_neg hspace, if_neg (List.cons_ne_nil _ _), escapeCell_cons]
      split
      · rfl
      · split
        · rfl
        · exact List.dropWhile_cons_of_neg hspace

/-- A cell is read up to its bar. -/
theorem cellsFrom_closedCell (cs rest : List Char) :
    cellsFrom ((closedCell (escapeCell cs) ++ rest).dropWhile isLineSpace) =
      readText cs :: cellsFrom (rest.dropWhile isLineSpace) := by
  have hspace : isLineSpace ' ' = true := by decide
  have hbar : ¬isLineSpace '|' = true := by decide
  have hstart : (closedCell (escapeCell cs) ++ rest).dropWhile isLineSpace =
      (escapeCell cs ++ ' ' :: '|' :: rest).dropWhile isLineSpace := by
    rw [closedCell, List.cons_append, List.append_assoc]
    exact List.dropWhile_cons_of_pos hspace
  rw [hstart, dropWhile_escapeCell_append, readText]
  split
  · next hnone =>
    have hempty : cellsFrom ([] ++ '|' :: rest) = _ := cellsFrom_append rfl
    rw [hnone, List.dropWhile_cons_of_pos hspace, List.dropWhile_cons_of_neg hbar]
    exact hempty
  · have hcell := cellAt_append_space
      (barsFrom_escapeCell 0 false (cs.dropWhile isLineSpace)) rest
    rw [List.append_cons] at hcell ⊢
    rw [cellsFrom_append hcell, freeBars_escapeCell, trimSpacing_append_space]

/-- The cells of a row are read back. -/
theorem cells_rowLine (hne : texts ≠ []) :
    Markdown.TableRow.cells (rowLine texts) = texts.map readText := by
  rw [rowLine_eq hne]
  change cellsFrom _ = _
  clear hne
  induction texts with
  | nil =>
    show cellsFrom [] = []
    rw [cellsFrom]
    rfl
  | cons cs texts ih => rw [List.flatMap_cons, cellsFrom_closedCell, ih, List.map_cons]

/-- The reader takes the line under the header for a rule. -/
theorem isRule_rowLine (hwidth : 0 < width) :
    isRule (rowLine (List.replicate width "---".toList)) = true := by
  have hpieces : splitWhere (· == '|') (List.replicate width " --- |".toList).flatten =
      List.replicate width " --- ".toList ++ [[]] := by
    clear hwidth
    induction width with
    | zero => rfl
    | succ width ih =>
      have hbar : ∀ c ∈ " --- ".toList, ¬(c == '|') = true := by simp
      rw [List.replicate_succ, List.replicate_succ, List.cons_append, ← ih]
      exact splitWhere_append hbar (by decide) _
  obtain ⟨width, rfl⟩ := Nat.exists_eq_succ_of_ne_zero hwidth.ne'
  rw [rowLine_rule hwidth, isRule, hpieces, List.reverse_append, List.reverse_replicate,
    List.replicate_succ]
  refine Bool.and_eq_true_iff.2 ⟨List.all_eq_true.2 fun piece hpiece => ?_, by decide⟩
  rw [← List.replicate_succ] at hpiece
  rw [List.eq_of_mem_replicate hpiece]
  decide

/-! ### Rows -/

/-- What the cells of a row show, in a table of the given width. -/
def cellTexts (context : Context) (width : Nat) (row : List (List Run)) : List (List Char) :=
  fit width (row.map (renderRuns context.runs))

theorem length_cellTexts (context : Context) (width : Nat) (row : List (List Run)) :
    (cellTexts context width row).length = width := by
  simp only [cellTexts, fit, List.length_append, List.length_take, List.length_map,
    List.length_replicate]
  omega

theorem rowCells_eq (context : Context) (width : Nat) (row : List (List Run)) :
    rowCells context width row = (cellTexts context width row).map escapeCell := by
  have hempty : escapeCell [] = [] := rfl
  have hmissing : width - min width row.length = width - row.length := by omega
  simp only [rowCells, cellTexts, fit, List.map_append, List.map_take, List.map_map,
    List.map_replicate, List.length_map, List.length_take, hempty, hmissing]
  rfl

theorem isSome_rowOf? {block : Block} (h : block.kind.isTableRow = true) :
    (rowOf? block).isSome = true := by
  obtain ⟨id, kind, children⟩ := block
  cases kind with
  | tableRow cells => rfl
  | _ => cases h

/-- The lines of a table that has rows: the header, the rule and the other rows. -/
theorem exists_lines_tableText (context : Context) (width : Nat)
    (hrows : children.filterMap rowOf? ≠ []) :
    ∃ header others,
      (children.filterMap rowOf?).map (cellTexts context (max width 1)) = header :: others ∧
      splitWhere (· == '\n') (tableText context width children) =
        (header :: List.replicate (max width 1) "---".toList :: others).map rowLine := by
  obtain ⟨row, rows, hsplit⟩ := List.exists_cons_of_ne_nil hrows
  refine ⟨cellTexts context (max width 1) row, rows.map (cellTexts context (max width 1)), ?_, ?_⟩
  · rw [hsplit, List.map_cons]
  · have hrule : tableLine (List.replicate (max width 1) "---".toList) =
        rowLine (List.replicate (max width 1) "---".toList) := by
      rw [rowLine, List.map_replicate]
      rfl
    have htext : tableText context width children = join ['\n']
        ((cellTexts context (max width 1) row :: List.replicate (max width 1) "---".toList ::
          rows.map (cellTexts context (max width 1))).map rowLine) := by
      unfold tableText
      dsimp only
      rw [hsplit, List.map_cons, hrule]
      simp [rowCells_eq, rowLine, Function.comp_def]
    rw [htext]
    refine splitWhere_join (by decide) (by simp) fun line hline c hc hfeed => ?_
    obtain ⟨texts, -, rfl⟩ := List.mem_map.1 hline
    exact lineFeed_not_mem_rowLine texts (beq_iff_eq.1 hfeed ▸ hc)

/-! ### Tables -/

/-- A line for every row and one for the rule, each with a bar on both sides of every cell. -/
theorem tableText_grid (context : Context) (width : Nat) (hrows : children.filterMap rowOf? ≠ []) :
    let lines := splitWhere (· == '\n') (tableText context width children)
    lines.length = (children.filterMap rowOf?).length + 1 ∧
      lines[1]? = some ('|' :: (List.replicate (max width 1) " --- |".toList).flatten) ∧
      ∀ line ∈ lines, (bars line).length = max width 1 + 1 ∧ (bars line).head? = some 0 ∧
        (bars line).getLast? = some (line.length - 1) := by
  obtain ⟨header, others, hmap, hlines⟩ := exists_lines_tableText context width hrows
  have hrow : ∀ texts ∈ header :: others, texts.length = max width 1 := by
    rw [← hmap, List.forall_mem_map]
    exact fun row _ => length_cellTexts ..
  have hrule : (List.replicate (max width 1) "---".toList).length = max width 1 :=
    List.length_replicate
  dsimp only
  rw [hlines]
  refine ⟨?_, ?_, ?_⟩
  · rw [← List.length_map (cellTexts context (max width 1)), hmap]
    simp
  · rw [List.map_cons, List.map_cons, List.getElem?_cons_succ, List.getElem?_cons_zero,
      rowLine_rule (by omega)]
  · intro line hline
    obtain ⟨texts, htexts, rfl⟩ := List.mem_map.1 hline
    have hlength : texts.length = max width 1 := by
      simp only [List.forall_mem_cons] at hrow
      rcases List.mem_cons.1 htexts with rfl | htexts
      · exact hrow.1
      · rcases List.mem_cons.1 htexts with rfl | htexts
        · exact hrule
        · exact hrow.2 texts htexts
    rw [← hlength]
    exact bars_rowLine (List.ne_nil_of_length_pos (by omega))

/-- Each line but the second is read as the texts of the cells of a row, and the second as a
rule. -/
theorem tableText_readsBack (context : Context) (width : Nat)
    (hrows : children.filterMap rowOf? ≠ []) :
    ∃ top rule others,
      splitWhere (· == '\n') (tableText context width children) = top :: rule :: others ∧
      isRule rule = true ∧
      (top :: others).map Markdown.TableRow.cells = (children.filterMap rowOf?).map fun row =>
        (cellTexts context (max width 1) row).map readText := by
  obtain ⟨header, others, hmap, hlines⟩ := exists_lines_tableText context width hrows
  refine ⟨_, _, _, hlines, isRule_rowLine (by omega), ?_⟩
  have hread : ∀ row ∈ children.filterMap rowOf?,
      Markdown.TableRow.cells (rowLine (cellTexts context (max width 1) row)) =
        (cellTexts context (max width 1) row).map readText := fun row _ =>
    cells_rowLine (List.ne_nil_of_length_pos (by rw [length_cellTexts]; omega))
  rw [← List.map_congr_left hread, ← List.map_cons, ← hmap, List.map_map, List.map_map]
  rfl

/-- All children of a valid table are rows. -/
theorem length_filterMap_rowOf? (hvalid : Page.checkAll true children = .ok ()) :
    (children.filterMap rowOf?).length = children.length :=
  List.filterMap_length_eq_length.2 fun _ hchild =>
    isSome_rowOf? (Page.checkAll_of_mem hvalid hchild).1

/-- A valid table with rows is a grid of one line for each of them and one for the rule, whatever
the cells hold and however many a row has. The reader of rows finds the texts of the cells again. -/
theorem table_grid (context : Context) {id : Option String} {width : Nat} {header first : Bool}
    {children : List Block}
    (hvalid : Page.check [⟨id, .table width header first, children⟩] = .ok ())
    (hrows : children ≠ []) :
    ∃ text,
      (∀ depth number, renderBlock context depth number
        ⟨id, .table width header first, children⟩ = .ok text) ∧
      render context [⟨id, .table width header first, children⟩] = .ok (text ++ ['\n']) ∧
      let lines := splitWhere (· == '\n') text
      (lines.length = children.length + 1 ∧
        lines[1]? = some ('|' :: (List.replicate (max width 1) " --- |".toList).flatten) ∧
        ∀ line ∈ lines, (bars line).length = max width 1 + 1 ∧ (bars line).head? = some 0 ∧
          (bars line).getLast? = some (line.length - 1)) ∧
      ∃ top rule others, lines = top :: rule :: others ∧ isRule rule = true ∧
        (top :: others).map Markdown.TableRow.cells = (children.filterMap rowOf?).map fun row =>
          (cellTexts context (max width 1) row).map readText := by
  obtain ⟨-, -, hchildren, -⟩ := Page.checkAll_cons_eq_ok hvalid
  have hlength := length_filterMap_rowOf? hchildren
  have hsome : children.filterMap rowOf? ≠ [] := by
    rw [← List.length_pos_iff, hlength]
    exact List.length_pos_iff.2 hrows
  have hgrid := tableText_grid context width hsome
  have hblock : ∀ depth number, renderBlock context depth number
      ⟨id, .table width header first, children⟩ = .ok (tableText context width children) :=
    fun _ _ => by rw [renderBlock]
  have hne : tableText context width children ≠ [] := by
    intro hnil
    rw [hnil] at hgrid
    exact absurd hgrid.1 (by simpa [splitWhere] using hsome)
  exact ⟨_, hblock, render_single hvalid rfl hne (hblock _ _), hlength ▸ hgrid,
    tableText_readsBack context width hsome⟩

/-- A table whose cells hold bars, a backslash at the end and a line end. The first row is too long
for it and the second too short. -/
def raggedTable : Block where
  kind := .table 2 true false
  children := [
    .leaf (.tableRow [[.text "a|b\\"], [.text "x|y" { code := true }], [.text "c"]]),
    .leaf (.tableRow [[.text "two\nlines"]])]

theorem table_grid_ragged :
    Page.check [raggedTable] = .ok () ∧ raggedTable.children ≠ [] ∧ ∃ text,
      render ⟨{}, .empty⟩ [raggedTable] = .ok (text ++ ['\n']) ∧
        text = "| a\\|b\\\\ | `x\\|y` |\n| --- | --- |\n| two<br>lines |  |".toList ∧
        ((splitWhere (· == '\n') text).length = 3 ∧
          ∀ line ∈ splitWhere (· == '\n') text, (bars line).length = 3 ∧
            (bars line).head? = some 0 ∧ (bars line).getLast? = some (line.length - 1)) ∧
        ∃ top rule others, splitWhere (· == '\n') text = top :: rule :: others ∧
          isRule rule = true ∧ (top :: others).map Markdown.TableRow.cells =
            [["a|b\\\\".toList, "`x|y`".toList], ["two<br>lines".toList, []]] := by
  have hvalid : Page.check [raggedTable] = .ok () := rfl
  have hrows : raggedTable.children ≠ [] := nofun
  obtain ⟨text, hblock, hrender, ⟨hlength, -, hbars⟩, top, rule, others, hlines, hrule, hcells⟩ :=
    table_grid ⟨{}, .empty⟩ hvalid hrows
  have htext : tableText ⟨{}, .empty⟩ 2 raggedTable.children = text := by
    have hown := hblock 0 0
    rw [renderBlock] at hown
    exact Except.ok.inj hown
  have hshown : tableText ⟨{}, .empty⟩ 2 raggedTable.children =
      "| a\\|b\\\\ | `x\\|y` |\n| --- | --- |\n| two<br>lines |  |".toList := rfl
  exact ⟨hvalid, hrows, text, hrender, htext.symm.trans hshown, ⟨hlength, hbars⟩,
    top, rule, others, hlines, hrule, hcells⟩

end NoteBridge.Render
