import NoteBridge.Proofs.Page.Forest

/-!
Forests without groups. Some kinds only group their children; the same forest without them has these
children in their place, at every depth. It holds the other blocks in the same order, and it is valid
with the forest, since no group stands directly under a table and no row directly under a group.
-/

namespace NoteBridge.Page

mutual

/-- What stands in place of a block: the blocks below it, if it only groups them. -/
def Block.ungrouped : Block → List Block
  | ⟨id, kind, children⟩ =>
    if kind.isTransparent then ungrouped children else [⟨id, kind, ungrouped children⟩]

def ungrouped : List Block → List Block
  | [] => []
  | block :: blocks => block.ungrouped ++ ungrouped blocks

end

variable {id : Option String} {kind : BlockKind} {children rest blocks : List Block}
  {insideTable : Bool}

theorem ungrouped_group (h : kind.isTransparent = true) :
    ungrouped (⟨id, kind, children⟩ :: rest) = ungrouped children ++ ungrouped rest := by
  rw [ungrouped, Block.ungrouped, if_pos h]

theorem ungrouped_shown (h : kind.isTransparent = false) :
    ungrouped (⟨id, kind, children⟩ :: rest) =
      ⟨id, kind, ungrouped children⟩ :: ungrouped rest := by
  rw [ungrouped, Block.ungrouped, if_neg (by simp [h]), List.singleton_append]

/-! ### Blocks -/

/-- What a block is by itself, apart from its children. -/
def Block.own (block : Block) : Option String × BlockKind := (block.id, block.kind)

/-- The blocks that are left are the others in their order. -/
theorem map_own_nodesOf_ungrouped (blocks : List Block) :
    (nodesOf (ungrouped blocks)).map Block.own =
      ((nodesOf blocks).filter fun node => !node.kind.isTransparent).map Block.own := by
  induction blocks using forest_induct with
  | nil => rfl
  | cons id kind children rest ihc ihr =>
    cases hseen : kind.isTransparent with
    | true =>
      rw [ungrouped_group hseen, nodesOf_append, nodesOf_cons]
      simp [hseen, ihc, ihr]
    | false =>
      rw [ungrouped_shown hseen, nodesOf_cons, nodesOf_cons]
      simp [hseen, ihc, ihr, Block.own]

/-- No group is left at any depth. -/
theorem isTransparent_of_mem_nodesOf_ungrouped (blocks : List Block) :
    ∀ node ∈ nodesOf (ungrouped blocks), node.kind.isTransparent = false := by
  intro node hnode
  have hown : node.own ∈ (nodesOf (ungrouped blocks)).map Block.own := List.mem_map_of_mem hnode
  rw [map_own_nodesOf_ungrouped] at hown
  obtain ⟨shown, hshown, hsame⟩ := List.mem_map.1 hown
  have hkind : shown.kind = node.kind := congrArg Prod.snd hsame
  simpa [hkind] using (List.mem_filter.1 hshown).2

/-! ### Validity -/

/-- Without its groups a valid forest is valid. -/
theorem checkAll_ungrouped (h : checkAll insideTable blocks = .ok ()) :
    checkAll insideTable (ungrouped blocks) = .ok () := by
  induction blocks using forest_induct generalizing insideTable with
  | nil => exact h
  | cons id kind children rest ihc ihr =>
    obtain ⟨hrow, hbears, hchildren, hrest⟩ := checkAll_cons_eq_ok h
    dsimp only at hrow hbears hchildren
    cases hseen : kind.isTransparent with
    | true =>
      rw [isTableRow_of_isTransparent hseen] at hrow
      rw [isTable_of_isTransparent hseen, hrow] at hchildren
      rw [ungrouped_group hseen]
      exact checkAll_append (ihc hchildren) (ihr hrest)
    | false =>
      rw [ungrouped_shown hseen]
      refine checkAll_cons_of_ok hrow ?_ (ihc hchildren) (ihr hrest)
      cases hkind : kind.bearsChildren with
      | true => exact .inr rfl
      | false => exact .inl (by rw [hbears hkind]; rfl)

/-- The rows of a table are no groups and hold none. -/
theorem ungrouped_rows (h : checkAll true blocks = .ok ()) : ungrouped blocks = blocks := by
  induction blocks with
  | nil => rfl
  | cons block rest ih =>
    obtain ⟨id, kind, children⟩ := block
    obtain ⟨hrow, hbears, -, hrest⟩ := checkAll_cons_eq_ok h
    dsimp only at hrow hbears
    cases kind with
    | tableRow cells => rw [ungrouped_shown rfl, ih hrest, hbears rfl, ungrouped]
    | _ => cases hrow

end NoteBridge.Page
