import NoteBridge.Proofs.Page.Forest

/-!
What the check of a forest reports. The blocks are looked at in document order, each in its place:
at the top, or directly under some block. A forest passes when none of them offends in its place.
Otherwise the first one that does is reported, and of several things that are wrong about it a
misplaced row comes before anything in a table that is no row, and this before children where none
may be.
-/

namespace NoteBridge.Page

/-- A block, and the kind of the block that it stands directly under. -/
structure Placement where
  parent : Option BlockKind
  block : Block

mutual

def Block.placements (parent : Option BlockKind) : Block → List Placement
  | ⟨id, kind, children⟩ => ⟨parent, id, kind, children⟩ :: placements (some kind) children

/-- The blocks of a forest at every depth, in document order. -/
def placements (parent : Option BlockKind) : List Block → List Placement
  | [] => []
  | block :: blocks => block.placements parent ++ placements parent blocks

end

def Placement.inTable (place : Placement) : Bool := place.parent.any BlockKind.isTable

/-- What is wrong about a block in its place. -/
inductive Offends : Placement → Fault → Prop
  | row {place : Placement} : place.block.kind.isTableRow = true → place.inTable = false →
      Offends place .misplacedTableRow
  | tableChild {place : Placement} : place.inTable = true → place.block.kind.isTableRow = false →
      Offends place (.tableChildNotRow place.block.kind.name)
  | children {place : Placement} : place.block.children ≠ [] →
      place.block.kind.bearsChildren = false →
      Offends place (.childrenNotAllowed place.block.kind.name)

/-- Of several faults of one block the one of least rank is reported. -/
def Fault.rank : Fault → Nat
  | .misplacedTableRow => 0
  | .tableChildNotRow _ => 1
  | .childrenNotAllowed _ => 2
  | .depthExceeded _ | .multipleTitles _ | .invalidWire _ => 3

/-- The fault that is reported of a block in its place. -/
def Placement.fault? (place : Placement) : Option Fault :=
  if place.block.kind.isTableRow = true ∧ place.inTable = false then some .misplacedTableRow
  else if place.inTable = true ∧ place.block.kind.isTableRow = false then
    some (.tableChildNotRow place.block.kind.name)
  else if place.block.children ≠ [] ∧ place.block.kind.bearsChildren = false then
    some (.childrenNotAllowed place.block.kind.name)
  else none

variable {place : Placement} {fault other : Fault} {blocks : List Block}
  {parent : Option BlockKind}

/-! ### One block -/

theorem Offends.eq_of_rank_eq (h : Offends place fault) (h' : Offends place other)
    (hrank : fault.rank = other.rank) : fault = other := by
  cases h <;> cases h' <;> first | rfl | cases hrank

/-- Nothing is wrong about a block that is a row just where it stands in a table, and has children
only if its kind bears some. -/
theorem forall_not_offends_iff :
    (∀ fault, ¬Offends place fault) ↔ place.block.kind.isTableRow = place.inTable ∧
      (place.block.children ≠ [] → place.block.kind.bearsChildren = true) := by
  constructor
  · intro hsound
    have hrow := fun hkind hplace => hsound _ (.row hkind hplace)
    have htable := fun hplace hkind => hsound _ (.tableChild hplace hkind)
    refine ⟨?_, fun hne => Bool.not_eq_false _ ▸ fun hbears => hsound _ (.children hne hbears)⟩
    cases hkind : place.block.kind.isTableRow <;> cases hplace : place.inTable <;> simp_all
  · rintro ⟨hrow, hbears⟩ fault hoffends
    cases hoffends with
    | row hkind hplace => simp [hkind, hplace] at hrow
    | tableChild hplace hkind => simp [hkind, hplace] at hrow
    | children hne hkind => simp [hbears hne] at hkind

theorem Placement.fault?_eq_none_iff : place.fault? = none ↔ ∀ fault, ¬Offends place fault := by
  rw [Placement.fault?]
  split_ifs with hrow htable hchildren
  · exact iff_of_false nofun fun hsound => hsound _ (.row hrow.1 hrow.2)
  · exact iff_of_false nofun fun hsound => hsound _ (.tableChild htable.1 htable.2)
  · exact iff_of_false nofun fun hsound => hsound _ (.children hchildren.1 hchildren.2)
  · refine iff_of_true rfl fun fault hoffends => ?_
    cases hoffends with
    | row hkind hplace => exact hrow ⟨hkind, hplace⟩
    | tableChild hplace hkind => exact htable ⟨hplace, hkind⟩
    | children hne hkind => exact hchildren ⟨hne, hkind⟩

theorem Placement.offends_of_fault? (h : place.fault? = some fault) :
    Offends place fault ∧ ∀ other, Offends place other → fault.rank ≤ other.rank := by
  rw [Placement.fault?] at h
  split_ifs at h with hrow htable hchildren
  · cases h
    exact ⟨.row hrow.1 hrow.2, fun other _ => Nat.zero_le _⟩
  · cases h
    refine ⟨.tableChild htable.1 htable.2, fun other hother => ?_⟩
    cases hother with
    | row hkind hplace => exact absurd ⟨hkind, hplace⟩ hrow
    | tableChild | children => simp [Fault.rank]
  · cases h
    refine ⟨.children hchildren.1 hchildren.2, fun other hother => ?_⟩
    cases hother with
    | row hkind hplace => exact absurd ⟨hkind, hplace⟩ hrow
    | tableChild hplace hkind => exact absurd ⟨hplace, hkind⟩ htable
    | children => exact Nat.le_refl _

/-- What is reported of a block is its fault of least rank. -/
theorem Placement.fault?_eq_some_iff :
    place.fault? = some fault ↔
      Offends place fault ∧ ∀ other, Offends place other → fault.rank ≤ other.rank := by
  refine ⟨offends_of_fault?, fun ⟨hoffends, hleast⟩ => ?_⟩
  cases hfault : place.fault? with
  | none => exact absurd hoffends (fault?_eq_none_iff.1 hfault fault)
  | some reported =>
    obtain ⟨hreported, hfirst⟩ := offends_of_fault? hfault
    have hrank := Nat.le_antisymm (hfirst fault hoffends) (hleast reported hreported)
    rw [hreported.eq_of_rank_eq hoffends hrank]

/-- A check stops at a block that offends, and goes on to the children of any other one. -/
theorem Placement.check_eq (place : Placement) :
    place.block.check place.inTable =
      match place.fault? with
      | some fault => .error fault
      | none => checkAll place.block.kind.isTable place.block.children := by
  obtain ⟨parent, id, kind, children⟩ := place
  rw [Block.check, Placement.fault?]
  simp only [Bool.and_eq_true, Bool.not_eq_true', List.isEmpty_eq_false_iff]
  split_ifs <;> rfl

/-! ### Places of a forest -/

theorem map_block_placements (parent : Option BlockKind) (blocks : List Block) :
    (placements parent blocks).map Placement.block = nodesOf blocks := by
  induction blocks using forest_induct generalizing parent with
  | nil => rfl
  | cons id kind children rest ihc ihr =>
    rw [placements, Block.placements, nodesOf, Block.nodes, List.cons_append, List.cons_append,
      List.map_cons, List.map_append, ihc, ihr]

/-- A block stands at the top, or among the children of a block of the forest. -/
theorem mem_placements_iff :
    place ∈ placements parent blocks ↔
      place.parent = parent ∧ place.block ∈ blocks ∨
        ∃ node ∈ nodesOf blocks, place.parent = some node.kind ∧ place.block ∈ node.children := by
  obtain ⟨above, block⟩ := place
  induction blocks using forest_induct generalizing parent with
  | nil => simp [placements, nodesOf]
  | cons id kind children rest ihc ihr =>
    simp only [placements, Block.placements, nodesOf_cons, List.cons_append, List.mem_cons,
      List.mem_append, Placement.mk.injEq, ihc, ihr, or_and_right, exists_or, exists_eq_left,
      and_or_left]
    simp only [or_assoc, or_left_comm]

/-- Rows stand in tables alone, and nothing else does, as seen from the blocks above them. -/
theorem forall_isTableRow_eq_inTable_iff :
    (∀ place ∈ placements none blocks, place.block.kind.isTableRow = place.inTable) ↔
      (∀ block ∈ blocks, block.kind.isTableRow = false) ∧
        ∀ node ∈ nodesOf blocks, ∀ child ∈ node.children,
          child.kind.isTableRow = node.kind.isTable := by
  constructor
  · intro h
    refine ⟨fun block hblock => ?_, fun node hnode child hchild => ?_⟩
    · exact h ⟨none, block⟩ (mem_placements_iff.2 (.inl ⟨rfl, hblock⟩))
    · exact h ⟨some node.kind, child⟩ (mem_placements_iff.2 (.inr ⟨node, hnode, rfl, hchild⟩))
  · rintro ⟨htop, hbelow⟩ ⟨parent, block⟩ hplace
    obtain ⟨rfl, hblock⟩ | ⟨node, hnode, rfl, hchild⟩ := mem_placements_iff.1 hplace
    · exact htop block hblock
    · exact hbelow node hnode block hchild

/-! ### Forests -/

/-- A check finds the first fault in document order. -/
theorem checkAll_eq_findSome? (parent : Option BlockKind) (blocks : List Block) :
    checkAll (parent.any BlockKind.isTable) blocks =
      ((placements parent blocks).findSome? Placement.fault?).elim (.ok ()) .error := by
  induction blocks using forest_induct generalizing parent with
  | nil => rfl
  | cons id kind children rest ihc ihr =>
    have hblock := Placement.check_eq ⟨parent, id, kind, children⟩
    have hchildren : checkAll kind.isTable children =
        ((placements (some kind) children).findSome? Placement.fault?).elim (.ok ()) .error :=
      ihc (some kind)
    dsimp only [Placement.inTable] at hblock
    rw [checkAll, hblock, hchildren, ihr, placements, Block.placements, List.cons_append,
      List.findSome?_cons, List.findSome?_append]
    cases Placement.fault? ⟨parent, id, kind, children⟩ with
    | some fault => rfl
    | none => cases (placements (some kind) children).findSome? Placement.fault? <;> rfl

theorem check_eq (blocks : List Block) :
    check blocks =
      ((placements none blocks).findSome? Placement.fault?).elim (.ok ()) .error :=
  checkAll_eq_findSome? none blocks

theorem check_eq_ok_iff :
    check blocks = .ok () ↔
      (∀ node ∈ nodesOf blocks, node.children ≠ [] → node.kind.bearsChildren = true) ∧
      (∀ block ∈ blocks, block.kind.isTableRow = false) ∧
      ∀ node ∈ nodesOf blocks, ∀ child ∈ node.children,
        child.kind.isTableRow = node.kind.isTable := by
  have hcheck : check blocks = .ok () ↔
      ∀ place ∈ placements none blocks, ∀ fault, ¬Offends place fault := by
    simp only [check_eq, ← Placement.fault?_eq_none_iff, ← List.findSome?_eq_none_iff]
    cases (placements none blocks).findSome? Placement.fault? <;> simp
  rw [hcheck, ← forall_isTableRow_eq_inTable_iff, ← map_block_placements none blocks,
    List.forall_mem_map, and_comm]
  simp only [forall_not_offends_iff, imp_and, forall_and]

theorem check_eq_error_iff :
    check blocks = .error fault ↔
      ∃ before place after, placements none blocks = before ++ place :: after ∧
        (∀ earlier ∈ before, ∀ other, ¬Offends earlier other) ∧ Offends place fault ∧
        ∀ other, Offends place other → fault.rank ≤ other.rank := by
  have hcheck : check blocks = .error fault ↔
      (placements none blocks).findSome? Placement.fault? = some fault := by
    rw [check_eq]
    cases (placements none blocks).findSome? Placement.fault? <;> simp
  rw [hcheck, List.findSome?_eq_some_iff]
  simp only [Placement.fault?_eq_some_iff, Placement.fault?_eq_none_iff]
  constructor
  · rintro ⟨before, place, after, hplaces, hplace, hbefore⟩
    exact ⟨before, place, after, hplaces, hbefore, hplace⟩
  · rintro ⟨before, place, after, hplaces, hbefore, hplace⟩
    exact ⟨before, place, after, hplaces, hplace, hbefore⟩

/-- A forest passes exactly when only kinds that bear children have some, every row of a table
stands directly under one, and nothing else does. Otherwise the fault is that of the first block in
document order that offends, and of its faults the one of least rank. -/
theorem check_outcome (blocks : List Block) :
    (check blocks = .ok () ↔
      (∀ node ∈ nodesOf blocks, node.children ≠ [] → node.kind.bearsChildren = true) ∧
      ((∀ block ∈ blocks, block.kind.isTableRow = false) ∧
        ∀ node ∈ nodesOf blocks, ∀ child ∈ node.children,
          child.kind.isTableRow = true → node.kind.isTable = true) ∧
      ∀ node ∈ nodesOf blocks, node.kind.isTable = true →
        ∀ child ∈ node.children, child.kind.isTableRow = true) ∧
    (placements none blocks).map Placement.block = nodesOf blocks ∧
    ∀ fault, check blocks = .error fault ↔
      ∃ before place after, placements none blocks = before ++ place :: after ∧
        (∀ earlier ∈ before, ∀ other, ¬Offends earlier other) ∧ Offends place fault ∧
        ∀ other, Offends place other → fault.rank ≤ other.rank := by
  refine ⟨?_, map_block_placements none blocks, fun fault => check_eq_error_iff⟩
  rw [check_eq_ok_iff]
  constructor
  · rintro ⟨hbears, htop, hbelow⟩
    refine ⟨hbears, ⟨htop, fun node hnode child hchild hrow => ?_⟩,
      fun node hnode htable child hchild => ?_⟩
    · rw [← hbelow node hnode child hchild, hrow]
    · rw [hbelow node hnode child hchild, htable]
  · rintro ⟨hbears, ⟨htop, hrows⟩, htables⟩
    refine ⟨hbears, htop, fun node hnode child hchild => Bool.eq_iff_iff.2 ⟨?_, fun htable => ?_⟩⟩
    · exact hrows node hnode child hchild
    · exact htables node hnode htable child hchild

/-- A heading with children is first of all no row, where it stands in a table. -/
example : check [{
    kind := .table 1 false false
    children := [{ kind := .text .heading1 [], children := [.paragraph []] }] }] =
      .error (.tableChildNotRow "heading_1") :=
  rfl

end NoteBridge.Page
