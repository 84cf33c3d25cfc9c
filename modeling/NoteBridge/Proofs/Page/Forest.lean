import Mathlib.Tactic.SplitIfs
import NoteBridge.Page.Validity

/-!
Forests of blocks, seen as a whole: their blocks at every depth, their levels, and what they hold
apart from the ids that a service gives to blocks. Induction goes into the children of the first
block and on to the blocks behind it.
-/

namespace NoteBridge.Page

/-- Induction over a forest: the children of the first block, and the blocks behind it. -/
@[elab_as_elim]
theorem forest_induct {P : List Block → Prop} (nil : P [])
    (cons : ∀ id kind children rest, P children → P rest → P (⟨id, kind, children⟩ :: rest)) :
    ∀ blocks, P blocks
  | [] => nil
  | ⟨id, kind, children⟩ :: rest =>
    cons id kind children rest (forest_induct nil cons children) (forest_induct nil cons rest)

mutual

/-- A block and all blocks below it. -/
def Block.nodes : Block → List Block
  | ⟨id, kind, children⟩ => ⟨id, kind, children⟩ :: nodesOf children

def nodesOf : List Block → List Block
  | [] => []
  | block :: blocks => block.nodes ++ nodesOf blocks

end

@[simp] theorem Block.forall_mem_nodes {p : Block → Prop} {block : Block} :
    (∀ node ∈ block.nodes, p node) ↔ p block ∧ ∀ node ∈ nodesOf block.children, p node := by
  obtain ⟨id, kind, children⟩ := block
  rw [Block.nodes, List.forall_mem_cons]

@[simp] theorem forall_mem_nodesOf_cons {p : Block → Prop} {block : Block} {blocks : List Block} :
    (∀ node ∈ nodesOf (block :: blocks), p node) ↔
      (∀ node ∈ block.nodes, p node) ∧ ∀ node ∈ nodesOf blocks, p node := by
  rw [nodesOf, List.forall_mem_append]

theorem nodesOf_cons (block : Block) (blocks : List Block) :
    nodesOf (block :: blocks) = block :: (nodesOf block.children ++ nodesOf blocks) := by
  obtain ⟨id, kind, children⟩ := block
  rw [nodesOf, Block.nodes, List.cons_append]

theorem nodesOf_append (as bs : List Block) : nodesOf (as ++ bs) = nodesOf as ++ nodesOf bs := by
  induction as with
  | nil => rfl
  | cons a as ih => rw [List.cons_append, nodesOf, nodesOf, ih, List.append_assoc]

theorem sizeOf_children_lt {block : Block} {blocks : List Block} (h : block ∈ blocks) :
    sizeOf block.children < sizeOf blocks := by
  have hblock := List.sizeOf_lt_of_mem h
  obtain ⟨id, kind, children⟩ := block
  simp at hblock ⊢
  omega

theorem mem_nodesOf_of_mem {block : Block} {blocks : List Block} (h : block ∈ blocks) :
    block ∈ nodesOf blocks := by
  induction blocks with
  | nil => cases h
  | cons first rest ih =>
    rw [nodesOf, List.mem_append]
    rcases List.mem_cons.1 h with rfl | h
    · obtain ⟨id, kind, children⟩ := block
      exact .inl (List.mem_cons_self ..)
    · exact .inr (ih h)

theorem children_subset_nodesOf {node : Block} {blocks : List Block} (h : node ∈ nodesOf blocks) :
    node.children ⊆ nodesOf blocks := by
  induction blocks using forest_induct with
  | nil => cases h
  | cons id kind children rest ihc ihr =>
    intro child hchild
    rw [nodesOf, Block.nodes, List.cons_append, List.mem_cons, List.mem_append] at h ⊢
    rcases h with rfl | h | h
    · exact .inr (.inl (mem_nodesOf_of_mem hchild))
    · exact .inr (.inl (ihc h hchild))
    · exact .inr (.inr (ihr h hchild))

/-! ### Levels -/

mutual

def Block.levels : Block → Nat
  | ⟨_, _, children⟩ => levels children + 1

/-- How many levels a forest has; an empty one has none. -/
def levels : List Block → Nat
  | [] => 0
  | block :: blocks => max block.levels (levels blocks)

end

theorem levels_cons (block : Block) (blocks : List Block) :
    levels (block :: blocks) = max (levels block.children + 1) (levels blocks) := by
  obtain ⟨id, kind, children⟩ := block
  rw [levels, Block.levels]

theorem levels_append (as bs : List Block) : levels (as ++ bs) = max (levels as) (levels bs) := by
  induction as with
  | nil => simp [levels]
  | cons a as ih => rw [List.cons_append, levels, levels, ih, Nat.max_assoc]

theorem levels_take_le (count : Nat) (blocks : List Block) :
    levels (blocks.take count) ≤ levels blocks := by
  have h := levels_append (blocks.take count) (blocks.drop count)
  rw [List.take_append_drop] at h
  omega

theorem levels_drop_le (count : Nat) (blocks : List Block) :
    levels (blocks.drop count) ≤ levels blocks := by
  have h := levels_append (blocks.take count) (blocks.drop count)
  rw [List.take_append_drop] at h
  omega

/-! ### Ids -/

mutual

/-- The block as if no service had given it an id, nor the blocks below it. -/
def Block.withoutIds : Block → Block
  | ⟨_, kind, children⟩ => ⟨none, kind, withoutIds children⟩

def withoutIds : List Block → List Block
  | [] => []
  | block :: blocks => block.withoutIds :: withoutIds blocks

end

/-- The ids that blocks of a forest have, at every depth. -/
def idsIn (blocks : List Block) : List String := (nodesOf blocks).filterMap Block.id

theorem idsIn_cons (block : Block) (blocks : List Block) :
    idsIn (block :: blocks) = block.id.toList ++ idsIn block.children ++ idsIn blocks := by
  obtain ⟨id, kind, children⟩ := block
  rw [idsIn, nodesOf, Block.nodes, List.filterMap_append, List.filterMap_cons]
  cases id <;> rfl

theorem idsIn_append (as bs : List Block) : idsIn (as ++ bs) = idsIn as ++ idsIn bs := by
  induction as with
  | nil => rfl
  | cons a as ih => simp only [List.cons_append, idsIn_cons, ih, List.append_assoc]

theorem withoutIds_append (as bs : List Block) :
    withoutIds (as ++ bs) = withoutIds as ++ withoutIds bs := by
  induction as with
  | nil => rfl
  | cons a as ih => rw [List.cons_append, withoutIds, withoutIds, ih, List.cons_append]

theorem levels_withoutIds (blocks : List Block) : levels (withoutIds blocks) = levels blocks := by
  induction blocks using forest_induct with
  | nil => rfl
  | cons id kind children rest ihc ihr =>
    rw [withoutIds, Block.withoutIds, levels_cons, levels_cons, ihc, ihr]

theorem checkAll_withoutIds (insideTable : Bool) (blocks : List Block) :
    checkAll insideTable (withoutIds blocks) = checkAll insideTable blocks := by
  induction blocks using forest_induct generalizing insideTable with
  | nil => rfl
  | cons id kind children rest ihc ihr =>
    have hempty : (withoutIds children).isEmpty = children.isEmpty := by
      cases children <;> rfl
    rw [withoutIds, Block.withoutIds, checkAll, checkAll, Block.check, Block.check, hempty, ihc,
      ihr]

/-! ### Validity -/

theorem isTable_of_isTransparent {kind : BlockKind} (h : kind.isTransparent = true) :
    kind.isTable = false := by
  cases kind with
  | table => cases h
  | _ => rfl

theorem isTableRow_of_isTransparent {kind : BlockKind} (h : kind.isTransparent = true) :
    kind.isTableRow = false := by
  cases kind with
  | tableRow => cases h
  | _ => rfl

/-- In a valid forest only kinds that bear children have some, and the rows of a table stand in it
alone. -/
theorem checkAll_cons_eq_ok {insideTable : Bool} {block : Block} {blocks : List Block}
    (h : checkAll insideTable (block :: blocks) = .ok ()) :
    block.kind.isTableRow = insideTable ∧
      (block.kind.bearsChildren = false → block.children = []) ∧
      checkAll block.kind.isTable block.children = .ok () ∧
      checkAll insideTable blocks = .ok () := by
  obtain ⟨id, kind, children⟩ := block
  rw [checkAll] at h
  split at h
  · next hblock =>
    rw [Block.check] at hblock
    split_ifs at hblock with h₁ h₂ h₃
    refine ⟨?_, fun hbears => ?_, hblock, h⟩
    · cases hrow : kind.isTableRow <;> cases insideTable <;> simp_all
    cases children with
    | nil => rfl
    | cons child children => simp [hbears] at h₃
  · cases h

theorem checkAll_of_mem {insideTable : Bool} {block : Block} {blocks : List Block}
    (h : checkAll insideTable blocks = .ok ()) (hmem : block ∈ blocks) :
    block.kind.isTableRow = insideTable ∧ checkAll block.kind.isTable block.children = .ok () := by
  induction blocks with
  | nil => cases hmem
  | cons first rest ih =>
    obtain ⟨hrow, -, hchildren, hrest⟩ := checkAll_cons_eq_ok h
    rcases List.mem_cons.1 hmem with rfl | hmem
    · exact ⟨hrow, hchildren⟩
    · exact ih hrest hmem

theorem checkAll_cons_of_ok {insideTable : Bool} {block : Block} {blocks : List Block}
    (hrow : block.kind.isTableRow = insideTable)
    (hbears : block.children = [] ∨ block.kind.bearsChildren = true)
    (hchildren : checkAll block.kind.isTable block.children = .ok ())
    (hrest : checkAll insideTable blocks = .ok ()) :
    checkAll insideTable (block :: blocks) = .ok () := by
  obtain ⟨id, kind, children⟩ := block
  have hblock : Block.check insideTable ⟨id, kind, children⟩ = .ok () := by
    rw [Block.check]
    subst hrow
    rw [if_neg (by simp), if_neg (by simp), if_neg ?_]
    · exact hchildren
    · rcases hbears with rfl | hbears
      · simp
      · simp [hbears]
  rw [checkAll, hblock]
  exact hrest

theorem checkAll_append {insideTable : Bool} {as bs : List Block}
    (has : checkAll insideTable as = .ok ()) (hbs : checkAll insideTable bs = .ok ()) :
    checkAll insideTable (as ++ bs) = .ok () := by
  induction as with
  | nil => exact hbs
  | cons block rest ih =>
    obtain ⟨hrow, hbears, hchildren, hrest⟩ := checkAll_cons_eq_ok has
    refine checkAll_cons_of_ok hrow ?_ hchildren (ih hrest)
    cases hkind : block.kind.bearsChildren with
    | true => exact .inr rfl
    | false => exact .inl (hbears hkind)

theorem checkAll_take {insideTable : Bool} {blocks : List Block}
    (h : checkAll insideTable blocks = .ok ()) (count : Nat) :
    checkAll insideTable (blocks.take count) = .ok () := by
  induction blocks generalizing count with
  | nil => rw [List.take_nil, checkAll]
  | cons block blocks ih =>
    cases count with
    | zero => rw [List.take_zero, checkAll]
    | succ count =>
      rw [checkAll] at h
      rw [List.take_succ_cons, checkAll]
      split at h
      · exact ih h count
      · cases h

/-! ### Leaves -/

/-- Kinds that bear no children have none, at any depth. -/
def LeavesBare (blocks : List Block) : Prop :=
  ∀ node ∈ nodesOf blocks, node.kind.bearsChildren = false → node.children = []

@[simp] theorem leavesBare_nil : LeavesBare [] := List.forall_mem_nil _

theorem leavesBare_cons {block : Block} {blocks : List Block} :
    LeavesBare (block :: blocks) ↔ (block.kind.bearsChildren = false → block.children = []) ∧
      LeavesBare block.children ∧ LeavesBare blocks := by
  rw [LeavesBare, forall_mem_nodesOf_cons, Block.forall_mem_nodes, and_assoc]
  rfl

/-- A valid forest has bare leaves. -/
theorem leavesBare_of_checkAll {insideTable : Bool} {blocks : List Block}
    (h : checkAll insideTable blocks = .ok ()) : LeavesBare blocks := by
  induction blocks using forest_induct generalizing insideTable with
  | nil => exact leavesBare_nil
  | cons id kind children rest ihc ihr =>
    obtain ⟨-, hbare, hchildren, hrest⟩ := checkAll_cons_eq_ok h
    exact leavesBare_cons.2 ⟨hbare, ihc hchildren, ihr hrest⟩

/-- Children where none may be are found only where some are. -/
theorem checkAll_ne_childrenNotAllowed {insideTable : Bool} {blocks : List Block}
    (h : LeavesBare blocks) (name : String) :
    checkAll insideTable blocks ≠ .error (.childrenNotAllowed name) := by
  induction blocks using forest_induct generalizing insideTable with
  | nil => exact nofun
  | cons id kind children rest ihc ihr =>
    obtain ⟨hbare, hchildren, hrest⟩ := leavesBare_cons.1 h
    dsimp only at hbare hchildren
    rw [checkAll]
    split
    · exact ihr hrest
    · next fault hfault =>
      rintro hname
      cases hname
      rw [Block.check] at hfault
      split_ifs at hfault with hrow hother hchild
      · cases hfault
      · cases hfault
      · simp only [Bool.and_eq_true, Bool.not_eq_true', List.isEmpty_eq_false_iff] at hchild
        exact hchild.1 (hbare hchild.2)
      · exact ihc hchildren hfault

end NoteBridge.Page
