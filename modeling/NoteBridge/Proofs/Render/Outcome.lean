import NoteBridge.Proofs.Compose.Document
import NoteBridge.Proofs.Render.Depth

/-!
How rendering ends. An invalid forest is refused, a valid one is rendered unless a level that is
shown and not empty lies too deep, and no table row is ever met outside of its table. What a
document becomes is never too deep, since its blocks show no more levels than the document has.
-/

namespace NoteBridge.Render

open Markup (Node)
open Page (Block checkAll checkAll_of_mem isTable_of_isTransparent sizeOf_children_lt within
  within_eq_error_iff within_eq_ok_iff within_ok)

/-- The children that are rendered below the blocks of a level: one level deeper where a block nests
them, at the same depth where it only groups them. -/
inductive Shows (context : Context) : Nat → List Block → List Block → Prop
  | nested {level : List Block} {block : Block} : block ∈ level →
      nests context block.kind = true → Shows context 1 level block.children
  | grouped {level : List Block} {block : Block} : block ∈ level →
      block.kind.isTransparent = true → Shows context 0 level block.children

variable {context : Context} {level below blocks : List Block} {block : Block} {n depth : Nat}

/-! ### Counting the levels that are shown -/

theorem Shows.le_one (h : Shows context n level below) : n ≤ 1 := by
  cases h with
  | nested => exact Nat.le_refl 1
  | grouped => exact Nat.zero_le 1

theorem shownLevelsOf_of_nests (h : nests context block.kind = true) :
    shownLevelsOf context block = shownLevels context block.children + 1 := by
  obtain ⟨id, kind, children⟩ := block
  dsimp only at h
  rw [shownLevelsOf, if_neg (by rw [isTransparent_of_nests h]; decide), if_pos h]

theorem shownLevelsOf_of_isTransparent (h : block.kind.isTransparent = true) :
    shownLevelsOf context block = max 1 (shownLevels context block.children) := by
  obtain ⟨id, kind, children⟩ := block
  rw [shownLevelsOf, if_pos h]

theorem shownLevelsOf_le (context : Context) (block : Block) :
    shownLevelsOf context block ≤ shownLevels context block.children + 1 := by
  obtain ⟨id, kind, children⟩ := block
  rw [shownLevelsOf]
  dsimp only
  split_ifs <;> omega

theorem shownLevelsOf_le_of_mem (context : Context) (h : block ∈ level) :
    shownLevelsOf context block ≤ shownLevels context level := by
  induction level with
  | nil => cases h
  | cons first rest ih =>
    rw [shownLevels]
    rcases List.mem_cons.1 h with rfl | h
    · omega
    · have hrest := ih h
      omega

theorem exists_shownLevelsOf (context : Context) (h : level ≠ []) :
    ∃ block ∈ level, shownLevels context level = shownLevelsOf context block := by
  induction level with
  | nil => exact absurd rfl h
  | cons first rest ih =>
    rw [shownLevels]
    by_cases hfirst : shownLevels context rest ≤ shownLevelsOf context first
    · exact ⟨first, List.mem_cons_self .., by omega⟩
    · have hrest : rest ≠ [] := by
        rintro rfl
        rw [shownLevels] at hfirst
        omega
      obtain ⟨block, hblock, hcount⟩ := ih hrest
      exact ⟨block, List.mem_cons_of_mem first hblock, by omega⟩

/-- A block that shows more than its own level shows what is below it by one step. -/
theorem exists_shows (hmem : block ∈ level) (h : 1 < shownLevelsOf context block) :
    ∃ n, Shows context n level block.children ∧
      shownLevelsOf context block = n + shownLevels context block.children := by
  by_cases hseen : block.kind.isTransparent = true
  · rw [shownLevelsOf_of_isTransparent hseen] at h ⊢
    exact ⟨0, .grouped hmem hseen, by omega⟩
  · by_cases hnests : nests context block.kind = true
    · rw [shownLevelsOf_of_nests hnests]
      exact ⟨1, .nested hmem hnests, by omega⟩
    · obtain ⟨id, kind, children⟩ := block
      rw [shownLevelsOf, if_neg hseen, if_neg hnests] at h
      omega

theorem countsLevels_shownLevels (context : Context) :
    CountsLevels (Shows context) (shownLevels context) where
  nil := rfl
  pos := shownLevels_pos context
  le := by
    intro n level below h
    cases h with
    | nested hmem hnests =>
      have hle := shownLevelsOf_le_of_mem context hmem
      rw [shownLevelsOf_of_nests hnests] at hle
      omega
    | grouped hmem hseen =>
      have hle := shownLevelsOf_le_of_mem context hmem
      rw [shownLevelsOf_of_isTransparent hseen] at hle
      omega
  attained := by
    intro level h
    have hlevel : level ≠ [] := by
      rintro rfl
      rw [shownLevels] at h
      omega
    obtain ⟨block, hmem, hcount⟩ := exists_shownLevelsOf context hlevel
    rw [hcount] at h ⊢
    obtain ⟨n, hshows, hsum⟩ := exists_shows hmem h
    refine ⟨n, block.children, hshows, ?_, hsum⟩
    intro hempty
    have hone := hshows.le_one
    rw [hempty, shownLevels] at hsum
    omega
  smaller := by
    intro n level below h
    cases h with
    | nested hmem _ | grouped hmem _ => exact sizeOf_children_lt hmem

/-! ### Table rows -/

theorem Shows.valid (h : Shows context n level below) (hvalid : checkAll false level = .ok ()) :
    checkAll false below = .ok () := by
  cases h with
  | nested hmem hnests =>
    have hchildren := (checkAll_of_mem hvalid hmem).2
    rw [isTable_of_nests hnests] at hchildren
    exact hchildren
  | grouped hmem hseen =>
    have hchildren := (checkAll_of_mem hvalid hmem).2
    rw [isTable_of_isTransparent hseen] at hchildren
    exact hchildren

theorem checkAll_of_levelAt (hvalid : checkAll false blocks = .ok ())
    (hlevel : LevelAt (Shows context) blocks depth level) : checkAll false level = .ok () := by
  induction hlevel with
  | top => exact hvalid
  | descend _ hshows ih => exact hshows.valid ih

/-- No level of a valid forest that is shown holds a table row. -/
theorem isTableRow_of_levelAt (hvalid : checkAll false blocks = .ok ())
    (hlevel : LevelAt (Shows context) blocks depth level) :
    ∀ block ∈ level, block.kind.isTableRow = false := fun _ hmem =>
  (checkAll_of_mem (checkAll_of_levelAt hvalid hlevel) hmem).1

/-! ### What documents become -/

theorem shownLevels_le_treeLevels {origin : Compose.Context} {nodes : List Node}
    (context : Context) (h : Compose.Becomes origin nodes blocks) :
    shownLevels context blocks ≤ Compose.treeLevels nodes := by
  induction h with
  | nil => exact Nat.le_refl 0
  | @leaf node kind rest blocks hkind _ ih =>
    have hblock := shownLevelsOf_le context (.leaf kind)
    have hempty : shownLevels context (Block.leaf kind).children = 0 := rfl
    rw [shownLevels, Compose.treeLevels_leaf (Compose.isLeaf_of_leafKind? hkind)]
    omega
  | @table header rows rest blocks _ ih =>
    have hblock : shownLevelsOf context (Compose.tableBlock origin header rows) = 1 := rfl
    rw [shownLevels, Compose.treeLevels_leaf rfl]
    omega
  | html _ ih =>
    rw [Compose.treeLevels]
    omega
  | noItems _ ih =>
    rw [Compose.treeLevels]
    omega
  | @item ordered start item items rest children blocks _ _ ihc ihr =>
    have hblock := shownLevelsOf_le context
      { kind := Compose.itemKind origin ordered ((Compose.splitLead item).1.getD []), children }
    rw [shownLevels, Compose.treeLevels_item]
    dsimp only at hblock
    omega
  | @quote content rest children blocks _ _ ihc ihr =>
    have hblock := shownLevelsOf_le context
      { kind := Compose.quoteKind origin (Compose.splitLead content).1, children }
    rw [shownLevels, Compose.treeLevels_quote]
    dsimp only at hblock
    omega

/-! ### Outcomes -/

/-- What a document becomes under a limit is rendered under it. -/
theorem exists_render_of_documentBlocks {document : Markup.Document}
    (h : Compose.documentBlocks ⟨context.options, context.resolver⟩ document = .ok blocks) :
    ∃ text, render context blocks = .ok text := by
  obtain ⟨hblocks, hfits⟩ := Compose.becomes_of_documentBlocks h
  have hshown := shownLevels_le_treeLevels context hblocks
  dsimp only at hfits
  exact (render_limited hblocks.valid).1 (by omega)

/-- An invalid forest is refused with what is wrong about it. A valid one is rendered, and to the
same text under every higher limit, unless a level that is shown and not empty lies deeper than the
limit; this is the only fault, since no level that is shown holds a table row. What a document
becomes is always rendered. -/
theorem render_outcome (context : Context) (blocks : List Block) :
    (∀ fault, Page.check blocks = .error fault → render context blocks = .error fault) ∧
    (Page.check blocks = .ok () →
      (∀ fault, render context blocks = .error fault ↔
        fault = .depthExceeded context.options.maxDepth ∧
          DeeperThan (Shows context) context.options.maxDepth blocks) ∧
      (∀ text, render context blocks = .ok text →
        ∀ limit, context.options.maxDepth ≤ limit →
          render (context.withLimit limit) blocks = .ok text) ∧
      ∀ depth level, LevelAt (Shows context) blocks depth level →
        ∀ block ∈ level, block.kind.isTableRow = false) ∧
    ∀ document, Compose.documentBlocks ⟨context.options, context.resolver⟩ document = .ok blocks →
      ∃ text, render context blocks = .ok text := by
  refine ⟨?_, ?_, fun document => exists_render_of_documentBlocks⟩
  · intro fault hinvalid
    unfold render
    rw [hinvalid]
    rfl
  · intro hvalid
    obtain ⟨text, hresult⟩ := exists_render context hvalid
    have hown : render context blocks =
        within context.options.maxDepth (shownLevels context blocks) text :=
      hresult context.options.maxDepth
    rw [hown]
    refine ⟨fun fault => ?_, fun shown h limit hlimit => ?_,
      fun depth level => isTableRow_of_levelAt hvalid⟩
    · rw [within_eq_error_iff, (countsLevels_shownLevels context).deeperThan_iff]
    · obtain ⟨hfits, rfl⟩ := within_eq_ok_iff.1 h
      rw [hresult limit, within_ok (by omega)]

end NoteBridge.Render
