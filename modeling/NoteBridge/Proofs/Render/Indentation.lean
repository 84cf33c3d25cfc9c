import NoteBridge.Markdown.Cursor
import NoteBridge.Proofs.Render.Outcome
import NoteBridge.Proofs.Render.Outline
import NoteBridge.Proofs.Text.Lines

/-!
Indentation of what is nested in list items. Each level indents by two columns, whatever the marker
of the item. This is as far as the marker of a bullet reaches, so all that is nested there belongs
to the item. The marker of a numbered item is wider by the digits of its number: a nested line
belongs to such an item only as far as it is indented by so many columns itself.
-/

namespace NoteBridge.Render

open Markdown (Cursor)
open Page (Block BlockKind Run checkAll within within_eq_ok_iff within_ok)
open Text

variable {context : Context} {blocks level : List Block} {block : Block} {kind : BlockKind}
  {depth number : Nat} {markup line cs : List Char}

/-- The marker that makes a line begin a list item, without the box of a task. -/
def listMarker (number : Nat) (kind : BlockKind) : List Char :=
  if kind.isNumbered then (toString number).toList ++ ['.', ' '] else ['-', ' ']

/-- The columns that a line is indented by, when it begins at a column. -/
def indentFrom (column : Nat) (line : List Char) : Nat :=
  Cursor.indent { column, rest := line }

/-! ### Indented lines -/

theorem le_passBlanks (column : Nat) (cs : List Char) :
    column ≤ (Cursor.passBlanks column cs).1 := by
  fun_induction Cursor.passBlanks column cs with
  | case1 column cs ih => omega
  | case2 column cs ih => omega
  | case3 => exact Nat.le_refl _

/-- Indentation moves a line by two columns, and its tabs with it. -/
theorem indentFrom_indentLine (h : line ≠ []) :
    indentFrom 0 (indentLine line) = indentation.length + indentFrom indentation.length line := by
  have hline : indentLine line = ' ' :: ' ' :: line := if_neg (by simpa using h)
  have hle := le_passBlanks 2 line
  have hpass : Cursor.passBlanks 0 (' ' :: ' ' :: line) = Cursor.passBlanks 2 line := by
    rw [Cursor.passBlanks, Cursor.passBlanks]
  rw [hline]
  simp only [indentFrom, Cursor.indent, Cursor.skipBlanks, Nat.add_zero, hpass, indentation,
    List.length_cons, List.length_nil]
  omega

/-- What an item shows itself. -/
def ownText (context : Context) (marker : List Char) (runs : List Run) : List Char :=
  marker ++ replaceChar '\n' ('\n' :: indentation) (renderRuns context.runs runs)

theorem itemText_eq_join (context : Context) (marker : List Char) (runs : List Run)
    (nested : List Char) :
    itemText context marker runs nested =
      join ['\n'] (ownText context marker runs :: (lines nested).map indentLine) := by
  rw [itemText]
  by_cases hnil : nested = []
  · rw [hnil]
    exact List.append_nil _
  · have hlines : (lines nested).map indentLine ≠ [] := by
      simpa [lines] using linesKept_ne_nil hnil
    rw [join_cons _ hlines, List.isEmpty_eq_false_iff.2 hnil, List.append_assoc _ ['\n']]
    rfl

/-! ### Items -/

/-- An item is its own text and the lines of what is nested in it. -/
theorem renderBlock_item (context : Context) (hitem : kind.isListItem = true) (number : Nat) :
    ∃ own, listMarker number kind <+: own ∧ ∀ depth id children,
      renderBlock context depth number ⟨id, kind, children⟩ = (do
        let nested ← renderLevel context (depth + 1) children
        pure (join ['\n'] (own :: (lines nested).map indentLine))) := by
  cases kind with
  | text form runs color =>
    cases form with
    | bulletedItem | toggle =>
      refine ⟨ownText context "- ".toList runs, List.prefix_append _ _, fun _ _ _ => ?_⟩
      simp only [renderBlock, itemText_eq_join]
    | numberedItem =>
      refine ⟨ownText context ((toString number).toList ++ ['.', ' ']) runs,
        List.prefix_append _ _, fun _ _ _ => ?_⟩
      simp only [renderBlock, itemText_eq_join]
    | _ => cases hitem
  | toDo runs checked =>
    let marker := if checked then "- [x] ".toList else "- [ ] ".toList
    have hmarker : listMarker number (.toDo runs checked) <+: marker := by
      cases checked
      · exact ⟨"[ ] ".toList, rfl⟩
      · exact ⟨"[x] ".toList, rfl⟩
    refine ⟨ownText context marker runs, hmarker.trans (List.prefix_append _ _), fun _ _ _ => ?_⟩
    simp only [renderBlock, itemText_eq_join]
    rfl
  | _ => cases hitem

theorem nests_of_isListItem (h : kind.isListItem = true) : nests context kind = true := by
  cases kind with
  | text form runs color =>
    cases form with
    | bulletedItem | numberedItem | toggle => rfl
    | _ => cases h
  | toDo runs checked => rfl
  | _ => cases h

/-! ### Levels of a forest that is rendered -/

/-- With a forest, each level of it that is shown is rendered. -/
theorem exists_renderLevel (h : render context blocks = .ok markup)
    (hlevel : LevelAt (Shows context) blocks depth level) :
    ∃ text, renderLevel context depth level = .ok text := by
  obtain ⟨⟨⟩, hvalid, -⟩ := bind_eq_ok_iff.1 h
  obtain ⟨text, htext⟩ := exists_render context hvalid
  have hown : render context blocks =
      within context.options.maxDepth (shownLevels context blocks) text :=
    htext context.options.maxDepth
  have hfits : shownLevels context blocks ≤ context.options.maxDepth + 1 :=
    (within_eq_ok_iff.1 (hown.symm.trans h)).1
  have hle := (countsLevels_shownLevels context).depth_add_le hlevel
  have hdepth : depth ≤ context.options.maxDepth + 1 := by omega
  obtain ⟨pieces, hpieces⟩ := exists_renderPieces (checkAll_of_levelAt hvalid hlevel) 0
  have hrendered : renderLevel context depth level =
      within context.options.maxDepth (depth + shownLevels context level) (joinPieces pieces.1) :=
    renderLevel_within hdepth (hpieces context.options.maxDepth)
  exact ⟨joinPieces pieces.1, hrendered.trans (within_ok (by omega) _)⟩

/-- What an item of a forest shows, and how far what is nested in it is indented. Every line that
the children of an item contribute, unless it is empty, is their own line behind two spaces. So it
is indented by the marker of a bullet, a toggle or a task, and by that of a numbered item just where
their own line is indented by as many columns as the number has digits. -/
theorem nested_indentation (h : render context blocks = .ok markup)
    (hlevel : LevelAt (Shows context) blocks depth level) (hblock : block ∈ level)
    (hitem : block.kind.isListItem = true) (number : Nat) :
    ∃ own nested, listMarker number block.kind <+: own ∧
      renderBlock context depth number { block with children := [] } = .ok own ∧
      renderLevel context (depth + 1) block.children = .ok nested ∧
      renderBlock context depth number block =
        .ok (join ['\n'] (own :: (lines nested).map indentLine)) ∧
      ∀ line ∈ lines nested, '\n' ∉ line ∧ (line ≠ [] →
        2 ≤ indentFrom 0 (indentLine line) ∧
        ((listMarker number block.kind).length ≤ indentFrom 0 (indentLine line) ↔
          block.kind.isNumbered = true →
            (toString number).toList.length ≤ indentFrom 2 line)) := by
  obtain ⟨id, kind, children⟩ := block
  obtain ⟨own, hmarker, hrender⟩ := renderBlock_item context hitem number
  obtain ⟨nested, hnested⟩ :=
    exists_renderLevel h (hlevel.descend (.nested hblock (nests_of_isListItem hitem)))
  refine ⟨own, nested, hmarker, ?_, hnested, ?_, fun line hline => ?_⟩
  · rw [hrender, renderLevel]
    rfl
  · rw [hrender, hnested]
    rfl
  · refine ⟨lineFeed_not_mem_of_mem_lines hline, fun hne => ?_⟩
    have hindent := indentFrom_indentLine hne
    have htwo : indentation.length = 2 := rfl
    rw [htwo] at hindent
    refine ⟨by omega, ?_⟩
    rw [hindent, listMarker]
    cases kind.isNumbered with
    | false => simp
    | true =>
      simp only [if_true, List.length_append, List.length_cons, List.length_nil, forall_const]
      omega

def nestedBullet : Block := .leaf (.text .bulletedItem [.text "b"] .default)

/-- A numbered item with a bullet inside. -/
def itemWithBullet : Block :=
  { kind := .text .numberedItem [.text "a"] .default, children := [nestedBullet] }

theorem renderLevel_nestedBullet :
    renderLevel ⟨{}, .empty⟩ 1 [nestedBullet] = .ok "- b".toList := by
  refine renderLevel_single rfl (by decide) (by decide) ?_
  rw [renderBlock, renderLevel]
  rfl

theorem render_itemWithBullet :
    render ⟨{}, .empty⟩ [itemWithBullet] = .ok "1. a\n  - b\n".toList := by
  have hnumber : (toString 1).toList = ['1'] := by decide
  have hitem : renderBlock ⟨{}, .empty⟩ 0 1 itemWithBullet = .ok "1. a\n  - b".toList := by
    rw [itemWithBullet, renderBlock, renderLevel_nestedBullet, hnumber]
    rfl
  have hshown : "1. a\n  - b".toList ≠ [] := by decide
  exact (render_single rfl rfl hshown hitem).trans (congrArg _ (by decide))

/-- The bullet is indented by two columns, one less than the marker of the item takes. -/
theorem itemWithBullet_indented :
    ∃ own nested, listMarker 1 itemWithBullet.kind <+: own ∧
      renderLevel ⟨{}, .empty⟩ 1 [nestedBullet] = .ok nested ∧
      renderBlock ⟨{}, .empty⟩ 0 1 itemWithBullet =
        .ok (join ['\n'] (own :: (lines nested).map indentLine)) ∧
      ∀ line ∈ lines nested, line ≠ [] → 2 ≤ indentFrom 0 (indentLine line) := by
  obtain ⟨own, nested, hmarker, -, hnested, hblock, hlines⟩ := nested_indentation
    render_itemWithBullet .top (List.mem_singleton_self itemWithBullet) rfl 1
  exact ⟨own, nested, hmarker, hnested, hblock, fun line hline hne => ((hlines line hline).2 hne).1⟩

theorem itemWithBullet_too_little_indented :
    render ⟨{}, .empty⟩ [itemWithBullet] = .ok "1. a\n  - b\n".toList ∧
      renderLevel ⟨{}, .empty⟩ 1 itemWithBullet.children = .ok "- b".toList ∧
      indentLine "- b".toList = "  - b".toList ∧
      indentFrom 0 "  - b".toList < (listMarker 1 itemWithBullet.kind).length :=
  ⟨render_itemWithBullet, renderLevel_nestedBullet, by decide, by decide⟩

end NoteBridge.Render
