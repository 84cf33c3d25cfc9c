import Mathlib.Data.List.Nodup
import NoteBridge.Proofs.Sync.Keeping

/-!
A shelf is a service in memory that keeps what it is given. The ids it gives to blocks are rows of
strokes, each longer than all ids it has seen before, and its cursors are as long as the number of
blocks in front of them. It refuses the requests that a plan names by their number. A shelf keeps,
whatever the plan, and lists without failing under a plan that names none.
-/

namespace NoteBridge.Sync

open Page (Block PropertySet forest_induct nodesOf idsIn withoutIds mem_nodesOf_of_mem
  children_subset_nodesOf)

/-! ### Labels -/

def label (n : Nat) : String := String.ofList (List.replicate n '|')

@[simp] theorem length_label (n : Nat) : (label n).length = n := by simp [label]

theorem label_injective : Function.Injective label := by
  intro m n h
  rw [← length_label m, h, length_label]

mutual

def labelledBlock (n : Nat) : Block → Block
  | ⟨_, kind, children⟩ => ⟨some (label n), kind, labelled (n + 1) children⟩

/-- The forest with labels from a number on, in the order of its blocks. -/
def labelled (n : Nat) : List Block → List Block
  | [] => []
  | block :: blocks => labelledBlock n block :: labelled (n + block.nodes.length) blocks

end

theorem withoutIds_labelled (n : Nat) (blocks : List Block) :
    withoutIds (labelled n blocks) = withoutIds blocks := by
  induction blocks using forest_induct generalizing n with
  | nil => rfl
  | cons id kind children rest ihc ihr =>
    simp only [labelled, labelledBlock, withoutIds, Block.withoutIds, ihc, ihr]

theorem map_id_nodesOf_labelled (n : Nat) (blocks : List Block) :
    (nodesOf (labelled n blocks)).map Block.id =
      (List.range' n (nodesOf blocks).length).map fun k => some (label k) := by
  induction blocks using forest_induct generalizing n with
  | nil => rfl
  | cons id kind children rest ihc ihr =>
    simp only [labelled, labelledBlock, nodesOf, Block.nodes, List.map_append, List.map_cons,
      List.length_append, List.length_cons, ihc, ihr]
    rw [← List.range'_append_1, List.range'_succ, List.map_append, List.map_cons]

theorem idsIn_labelled (n : Nat) (blocks : List Block) :
    idsIn (labelled n blocks) = (List.range' n (nodesOf blocks).length).map label := by
  have h := congrArg (List.filterMap id) (map_id_nodesOf_labelled n blocks)
  rw [List.filterMap_map, List.filterMap_map] at h
  exact h.trans (congrFun List.filterMap_eq_map _)

theorem length_of_mem_idsIn_labelled {n : Nat} {blocks : List Block} {id : String}
    (h : id ∈ idsIn (labelled n blocks)) :
    n ≤ id.length ∧ id.length < n + (nodesOf blocks).length := by
  rw [idsIn_labelled] at h
  obtain ⟨k, hk, rfl⟩ := List.mem_map.1 h
  rw [length_label]
  exact List.mem_range'_1.1 hk

/-! ### Putting a forest into a store -/

/-- The row of a forest's first level. -/
def rowOf (blocks : List Block) : List Entry :=
  blocks.filterMap fun block => block.id.map fun id => ⟨id, block.kind⟩

theorem id_mem_of_mem_rowOf {blocks : List Block} {e : Entry} (h : e ∈ rowOf blocks) :
    ∃ block ∈ blocks, block.id = some e.id := by
  obtain ⟨block, hblock, he⟩ := List.mem_filterMap.1 h
  obtain ⟨id, hid, rfl⟩ := Option.map_eq_some_iff.1 he
  exact ⟨block, hblock, hid⟩

namespace Store

variable {store : Store} {parent : String} {stored : List Block}

/-- The store with a forest at the end of a row, and what is below its blocks in rows of their
own. -/
def put (store : Store) (parent : String) (stored : List Block) : Store where
  under id :=
    if id = parent then store.under parent ++ rowOf stored
    else
      match (nodesOf stored).find? fun node => node.id = some id with
      | some node => rowOf node.children
      | none => store.under id

theorem put_under_self : (store.put parent stored).under parent =
    store.under parent ++ rowOf stored := if_pos rfl

theorem put_under_node (hids : ((nodesOf stored).map Block.id).Nodup) {node : Block} {id : String}
    (hnode : node ∈ nodesOf stored) (hid : node.id = some id) (hne : id ≠ parent) :
    (store.put parent stored).under id = rowOf node.children := by
  simp only [put, if_neg hne]
  split
  · next found hfound =>
    -- The search finds some block with this id, and only one has it.
    have hsame : found.id = some id := by simpa using List.find?_some hfound
    have hmem : found ∈ nodesOf stored := List.mem_of_find?_eq_some hfound
    rw [List.inj_on_of_nodup_map hids hmem hnode (hsame.trans hid.symm)]
  · next hnone => exact absurd (decide_eq_true hid) (List.find?_eq_none.1 hnone node hnode)

theorem put_under_other {other : String} (hne : other ≠ parent) (hother : other ∉ idsIn stored) :
    (store.put parent stored).under other = store.under other := by
  simp only [put, if_neg hne]
  split
  · next found hfound =>
    have hsame : found.id = some other := by simpa using List.find?_some hfound
    exact absurd (List.mem_filterMap.2 ⟨found, List.mem_of_find?_eq_some hfound, hsame⟩) hother
  · rfl

/-- Rows that are those of a forest's blocks hold the forest. -/
theorem holds_rowOf (h : ∀ node ∈ nodesOf stored,
    ∃ id, node.id = some id ∧ store.under id = rowOf node.children) :
    store.Holds (rowOf stored) stored := by
  induction stored using forest_induct with
  | nil => exact .nil
  | cons id kind children rest ihc ihr =>
    rw [Page.forall_mem_nodesOf_cons, Page.Block.forall_mem_nodes] at h
    obtain ⟨⟨⟨id', hid, hrow⟩, hchildren⟩, hrest⟩ := h
    cases hid
    refine Holds.cons (e := ⟨id', kind⟩) ?_ (ihr hrest)
    rw [hrow]
    exact ihc hchildren

theorem uses_of_put {id : String} (h : (store.put parent stored).Uses id) :
    id = parent ∨ id ∈ idsIn stored ∨ store.Uses id := by
  have hnode {blocks : List Block} {e : Entry} (hsub : blocks ⊆ nodesOf stored)
      (he : e ∈ rowOf blocks) : e.id ∈ idsIn stored := by
    obtain ⟨block, hblock, hid⟩ := id_mem_of_mem_rowOf he
    exact List.mem_filterMap.2 ⟨block, hsub hblock, hid⟩
  rcases h with h | ⟨above, e, he, rfl⟩
  · by_cases hid : id = parent
    · exact .inl hid
    · by_cases hmem : id ∈ idsIn stored
      · exact .inr (.inl hmem)
      · rw [put_under_other hid hmem] at h
        exact .inr (.inr (.inl h))
  · simp only [put] at he
    split at he
    · rcases List.mem_append.1 he with he | he
      · exact .inr (.inr (.inr ⟨parent, e, he, rfl⟩))
      · exact .inr (.inl (hnode (fun _ => mem_nodesOf_of_mem) he))
    · split at he
      · next found hfound =>
        have hmem : found ∈ nodesOf stored := List.mem_of_find?_eq_some hfound
        exact .inr (.inl (hnode (children_subset_nodesOf hmem) he))
      · exact .inr (.inr (.inr ⟨above, e, he, rfl⟩))

theorem uses_of_without {ids : List String} {id : String} (h : (store.without ids).Uses id) :
    store.Uses id := by
  rcases h with h | ⟨above, e, he, hid⟩
  · refine .inl fun hempty => h ?_
    rw [without]
    simp only [hempty, List.filter_nil]
  · exact .inr ⟨above, e, List.mem_of_mem_filter he, hid⟩

/-- Labels that are longer than all ids in use are fresh. -/
theorem adds_put {n : Nat} (blocks : List Block) (hparent : parent.length < n)
    (hfits : ∀ id, store.Uses id → id.length < n) :
    store.Adds parent blocks (store.put parent (labelled n blocks)) := by
  have hfresh : ∀ id ∈ idsIn (labelled n blocks), id ≠ parent ∧ ¬store.Uses id := by
    intro id hid
    have hlong := (length_of_mem_idsIn_labelled hid).1
    refine ⟨?_, fun huses => ?_⟩
    · rintro rfl
      omega
    · have := hfits id huses
      omega
  have hids : ((nodesOf (labelled n blocks)).map Block.id).Nodup := by
    rw [map_id_nodesOf_labelled]
    exact (List.nodup_range' 1).map fun i j h => label_injective (Option.some.inj h)
  refine ⟨rowOf (labelled n blocks), labelled n blocks, withoutIds_labelled n blocks, ?_,
    put_under_self, ?_, hfresh, fun other => put_under_other⟩
  · refine holds_rowOf fun node hnode => ?_
    have hmem : node.id ∈ (nodesOf (labelled n blocks)).map Block.id := List.mem_map_of_mem hnode
    rw [map_id_nodesOf_labelled] at hmem
    obtain ⟨k, -, hk⟩ := List.mem_map.1 hmem
    have hid : label k ∈ idsIn (labelled n blocks) :=
      List.mem_filterMap.2 ⟨node, hnode, hk.symm⟩
    exact ⟨label k, hk.symm, put_under_node hids hnode hk.symm (hfresh _ hid).1⟩
  · rw [idsIn_labelled]
    exact (List.nodup_range' 1).map label_injective

end Store

/-! ### The service -/

structure Shelf where
  /-- A page of a listing has one block more than this. -/
  pageSize : Nat
  requests : Nat := 0
  /-- All ids in use are shorter. -/
  used : Nat
  store : Store
  fits : ∀ id, store.Uses id → id.length < used

namespace Shelf

/-- Puts blocks at the end of the parent's row. -/
def shelve (shelf : Shelf) (parent : String) (blocks : List Block) : Shelf where
  pageSize := shelf.pageSize
  requests := shelf.requests
  used := max shelf.used (parent.length + 1) + (nodesOf blocks).length
  store := shelf.store.put parent (labelled (max shelf.used (parent.length + 1)) blocks)
  fits id h := by
    rcases Store.uses_of_put h with rfl | hnew | hold
    · omega
    · exact (length_of_mem_idsIn_labelled hnew).2
    · have := shelf.fits id hold
      omega

def remove (shelf : Shelf) (id : String) : Shelf where
  pageSize := shelf.pageSize
  requests := shelf.requests
  used := shelf.used
  store := shelf.store.without [id]
  fits id h := shelf.fits id (Store.uses_of_without h)

def listing (shelf : Shelf) (parent : String) (cursor : Option String) : Listing :=
  let row := shelf.store.listing parent
  let start := (cursor.map String.length).getD 0
  let reached := start + (shelf.pageSize + 1)
  { results := (row.drop start).take (shelf.pageSize + 1)
    next := if reached < row.length then some (label reached) else none }

def answer {α : Type} (refuses : Nat → Bool) (r : Shelf → α × Shelf) : Request Shelf α :=
  fun shelf =>
    let asked := { shelf with requests := shelf.requests + 1 }
    if refuses shelf.requests then .error "refused" asked
    else .ok (r asked).1 (r asked).2

/-- The service, which refuses the requests of some numbers. -/
def client (refuses : Nat → Bool) : Client Shelf where
  create _ _ blocks := answer refuses fun shelf =>
    (label shelf.used, shelf.shelve (label shelf.used) blocks)
  update _ _ := answer refuses fun shelf => ((), shelf)
  append parent blocks := answer refuses fun shelf => ((), shelf.shelve parent blocks)
  delete id := answer refuses fun shelf => ((), shelf.remove id)
  list parent cursor := answer refuses fun shelf => (shelf.listing parent cursor, shelf)

theorem changes_answer {α : Type} {refuses : Nat → Bool} {r : Shelf → α × Shelf} {shelf : Shelf}
    {becomes : α → Store → Prop}
    (h : ∀ asked : Shelf, asked.store = shelf.store → becomes (r asked).1 (r asked).2.store) :
    Changes store shelf becomes (answer refuses r shelf) := by
  unfold answer
  split
  · exact rfl
  · exact h _ rfl

theorem adds_shelve (shelf : Shelf) (parent : String) (blocks : List Block) :
    shelf.store.Adds parent blocks (shelf.shelve parent blocks).store := by
  refine Store.adds_put blocks (by omega) fun id huses => ?_
  have := shelf.fits id huses
  omega

def paging (refuses : Nat → Bool) : Paging (client refuses) store where
  At _ _ cursor n := n = (cursor.map String.length).getD 0
  start _ _ := rfl
  page {shelf shelf' parent cursor n page} hat h := by
    subst hat
    simp only [client, answer] at h
    split at h
    · cases h
    · cases h
      refine ⟨rfl, shelf.pageSize + 1, by omega, rfl, ?_⟩
      simp only [Shelf.listing]
      split
      · next hnone =>
        split at hnone
        · cases hnone
        · next hlast => exact Nat.le_of_not_lt hlast
      · next next hsome =>
        split at hsome
        · next hmore =>
          cases hsome
          exact ⟨hmore, by simp⟩
        · cases hsome
  failed {shelf shelf' parent cursor message} h := by
    simp only [client, answer] at h
    split at h
    · cases h
      rfl
    · cases h

def keeping (refuses : Nat → Bool) : Keeping (client refuses) store where
  toPaging := paging refuses
  create _ _ blocks shelf := by
    simp only [client]
    refine changes_answer fun asked hasked => ?_
    rw [← hasked]
    refine ⟨fun huses => ?_, asked.adds_shelve _ blocks⟩
    have := asked.fits _ huses
    rw [length_label] at this
    exact Nat.lt_irrefl _ this
  update _ _ shelf := by
    simp only [client]
    exact changes_answer fun _ hasked => hasked
  append parent blocks shelf := by
    simp only [client]
    refine changes_answer fun asked hasked => ?_
    rw [← hasked]
    exact asked.adds_shelve parent blocks
  delete id shelf := by
    simp only [client]
    refine changes_answer fun asked hasked => ?_
    rw [← hasked]
    rfl

theorem paging_not_fails : ¬(paging fun _ => false).Fails := by
  rintro ⟨shelf, parent, cursor, n, message, shelf', -, h⟩
  cases h

end Shelf

/-! ### Shelves with given rows -/

/-- The rows of a list, each under the id beside it. -/
def Store.ofRows (rows : List (String × List Entry)) : Store where
  under id := ((rows.find? fun row => row.1 = id).map Prod.snd).getD []

def idsOfRows (rows : List (String × List Entry)) : List String :=
  rows.flatMap fun row => row.1 :: row.2.map Entry.id

theorem Store.mem_of_mem_under_ofRows {rows : List (String × List Entry)} {id : String} {e : Entry}
    (h : e ∈ (Store.ofRows rows).under id) : id ∈ idsOfRows rows ∧ e.id ∈ idsOfRows rows := by
  simp only [ofRows] at h
  cases hfound : rows.find? fun row => row.1 = id with
  | none =>
    rw [hfound] at h
    exact absurd h List.not_mem_nil
  | some row =>
    rw [hfound] at h
    have hrow : row ∈ rows := List.mem_of_find?_eq_some hfound
    have hid : row.1 = id := by simpa using List.find?_some hfound
    rw [idsOfRows, List.mem_flatMap, List.mem_flatMap]
    refine ⟨⟨row, hrow, ?_⟩, row, hrow, ?_⟩
    · rw [hid]
      exact List.mem_cons_self ..
    · exact List.mem_cons_of_mem _ (List.mem_map_of_mem h)

theorem Store.mem_of_uses_ofRows {rows : List (String × List Entry)} {id : String}
    (h : (Store.ofRows rows).Uses id) : id ∈ idsOfRows rows := by
  rcases h with hrow | ⟨parent, e, he, rfl⟩
  · obtain ⟨e, rest, hunder⟩ := List.exists_cons_of_ne_nil hrow
    exact (mem_of_mem_under_ofRows (e := e) (by rw [hunder]; exact List.mem_cons_self ..)).1
  · exact (mem_of_mem_under_ofRows he).2

def longest (ids : List String) : Nat := (ids.map String.length).foldr max 0

theorem length_le_longest {ids : List String} {id : String} (h : id ∈ ids) :
    id.length ≤ longest ids := by
  induction ids with
  | nil => cases h
  | cons first rest ih =>
    rw [longest, List.map_cons, List.foldr_cons]
    rcases List.mem_cons.1 h with rfl | h
    · exact Nat.le_max_left _ _
    · exact Nat.le_trans (ih h) (Nat.le_max_right _ _)

def Shelf.ofRows (pageSize : Nat) (rows : List (String × List Entry)) : Shelf where
  pageSize := pageSize
  used := longest (idsOfRows rows) + 1
  store := .ofRows rows
  fits _ h := Nat.lt_succ_of_le (length_le_longest (Store.mem_of_uses_ofRows h))

end NoteBridge.Sync
