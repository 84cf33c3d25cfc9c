import NoteBridge.Compose.Document
import NoteBridge.Proofs.Level

/-!
Levels of a document. The top level is the document; the nodes of a list item or quote behind its
leading paragraph are one level deeper than the list or the quote. Induction over a document takes
the items of a list one by one, each with the level below it.
-/

namespace NoteBridge.Compose

open Markup (Node)

/-- The lists of nodes that a node holds: each item of a list, the content of a quote. -/
def childLists : Node → List (List Node)
  | .list _ _ items => items
  | .quote children => [children]
  | .heading .. | .paragraph _ | .fencedCode .. | .thematicBreak | .table .. | .html _ => []

/-- What stands behind the leading paragraph of a list of nodes within a level is one level
deeper. -/
inductive Below : Nat → List Node → List Node → Prop
  | rest {nodes children : List Node} : children ∈ nodes.flatMap childLists →
      Below 1 nodes (splitLead children).2

mutual

def nodeLevels : Node → Nat
  | .list _ _ items => itemLevels items
  | .quote children => restLevels children + 1
  | .heading .. | .paragraph _ | .fencedCode .. | .thematicBreak | .table .. | .html _ => 1

/-- The levels from that of the list down, which is there without items too. -/
def itemLevels : List (List Node) → Nat
  | [] => 1
  | item :: items => max (restLevels item + 1) (itemLevels items)

def restLevels : List Node → Nat
  | [] => 0
  | .paragraph _ :: rest => treeLevels rest
  | node :: rest => max (nodeLevels node) (treeLevels rest)

/-- How many levels a list of nodes has; an empty one has none. -/
def treeLevels : List Node → Nat
  | [] => 0
  | node :: nodes => max (nodeLevels node) (treeLevels nodes)

end

variable {nodes children rest : List Node} {node : Node}

/-! ### Leading paragraphs -/

theorem sizeOf_splitLead_le (nodes : List Node) : sizeOf (splitLead nodes).2 ≤ sizeOf nodes := by
  unfold splitLead
  split
  · simp
  · exact Nat.le_refl _

theorem restLevels_eq (nodes : List Node) : restLevels nodes = treeLevels (splitLead nodes).2 := by
  cases nodes with
  | nil => rfl
  | cons node rest =>
    cases node with
    | paragraph content => rfl
    | _ => rfl

/-! ### Induction -/

/-- Whether a node holds no nodes. -/
def isLeaf : Node → Bool
  | .list .. | .quote _ => false
  | .heading .. | .paragraph _ | .fencedCode .. | .thematicBreak | .table .. | .html _ => true

theorem childLists_of_isLeaf (h : isLeaf node = true) : childLists node = [] := by
  cases node with
  | list | quote => cases h
  | _ => rfl

theorem nodeLevels_of_isLeaf (h : isLeaf node = true) : nodeLevels node = 1 := by
  cases node with
  | list | quote => cases h
  | _ => rfl

@[elab_as_elim]
theorem document_induct {P : List Node → Prop} (nil : P [])
    (leaf : ∀ node rest, isLeaf node = true → P rest → P (node :: rest))
    (noItems : ∀ ordered start rest, P rest → P (.list ordered start [] :: rest))
    (item : ∀ ordered start item items rest, P (splitLead item).2 →
      P (.list ordered start items :: rest) → P (.list ordered start (item :: items) :: rest))
    (quote : ∀ children rest, P (splitLead children).2 → P rest → P (.quote children :: rest))
    (nodes : List Node) : P nodes := by
  have smaller : ∀ others : List Node, sizeOf others < sizeOf nodes → P others :=
    fun others _ => document_induct nil leaf noItems item quote others
  cases nodes with
  | nil => exact nil
  | cons node rest =>
    have hrest : P rest := smaller rest (by simp only [List.cons.sizeOf_spec]; omega)
    cases node with
    | list ordered start items =>
      cases items with
      | nil => exact noItems ordered start rest hrest
      | cons first items =>
        have hfirst := sizeOf_splitLead_le first
        have hbelow : P (splitLead first).2 := smaller _ (by simp; omega)
        have hitems : P (.list ordered start items :: rest) :=
          smaller _ (by simp only [List.cons.sizeOf_spec, Node.list.sizeOf_spec]; omega)
        exact item ordered start first items rest hbelow hitems
    | quote children =>
      have hchildren := sizeOf_splitLead_le children
      exact quote children rest (smaller _ (by simp; omega)) hrest
    | heading | paragraph | fencedCode | thematicBreak | table | html =>
      exact leaf _ rest rfl hrest
termination_by sizeOf nodes

/-! ### Counting levels -/

theorem treeLevels_leaf (h : isLeaf node = true) :
    treeLevels (node :: rest) = max 1 (treeLevels rest) := by
  rw [treeLevels, nodeLevels_of_isLeaf h]

theorem treeLevels_item (ordered : Bool) (start : Nat) (item : List Node)
    (items : List (List Node)) (rest : List Node) :
    treeLevels (.list ordered start (item :: items) :: rest) =
      max (treeLevels (splitLead item).2 + 1) (treeLevels (.list ordered start items :: rest)) := by
  rw [treeLevels, treeLevels, nodeLevels, nodeLevels, itemLevels, restLevels_eq, Nat.max_assoc]

theorem treeLevels_quote (children rest : List Node) :
    treeLevels (.quote children :: rest) =
      max (treeLevels (splitLead children).2 + 1) (treeLevels rest) := by
  rw [treeLevels, nodeLevels, restLevels_eq]

theorem treeLevels_pos (h : nodes ≠ []) : 0 < treeLevels nodes := by
  induction nodes using document_induct with
  | nil => exact absurd rfl h
  | leaf node rest hleaf _ =>
    rw [treeLevels_leaf hleaf]
    omega
  | noItems ordered start rest _ =>
    rw [treeLevels, nodeLevels, itemLevels]
    omega
  | item ordered start item items rest _ _ =>
    rw [treeLevels_item]
    omega
  | quote children rest _ _ =>
    rw [treeLevels_quote]
    omega

/-- Behind the lead of a list of nodes in a level there is one level less, at most. -/
theorem treeLevels_splitLead_lt (h : children ∈ nodes.flatMap childLists) :
    treeLevels (splitLead children).2 < treeLevels nodes := by
  induction nodes using document_induct with
  | nil => cases h
  | leaf node rest hleaf ih =>
    rw [List.flatMap_cons, childLists_of_isLeaf hleaf] at h
    have hrest := ih h
    rw [treeLevels_leaf hleaf]
    omega
  | noItems ordered start rest ih =>
    have hrest := ih h
    rw [treeLevels]
    omega
  | item ordered start item items rest _ ih =>
    rw [treeLevels_item]
    rcases List.mem_cons.1 h with rfl | h
    · omega
    · have hrest := ih h
      omega
  | quote children rest _ ih =>
    rw [treeLevels_quote]
    rcases List.mem_cons.1 h with rfl | h
    · omega
    · have hrest := ih h
      omega

/-- Where there is more than one level, it is just one less behind some lead. -/
theorem exists_treeLevels_splitLead (h : 1 < treeLevels nodes) :
    ∃ children ∈ nodes.flatMap childLists,
      treeLevels nodes = 1 + treeLevels (splitLead children).2 := by
  induction nodes using document_induct with
  | nil =>
    rw [treeLevels] at h
    omega
  | leaf node rest hleaf ih =>
    rw [treeLevels_leaf hleaf] at h ⊢
    obtain ⟨children, hmem, hcount⟩ := ih (by omega)
    exact ⟨children, List.mem_append_right _ hmem, by omega⟩
  | noItems ordered start rest ih =>
    rw [treeLevels, nodeLevels, itemLevels] at h ⊢
    obtain ⟨children, hmem, hcount⟩ := ih (by omega)
    exact ⟨children, hmem, by omega⟩
  | item ordered start item items rest _ ih =>
    rw [treeLevels_item] at h ⊢
    by_cases hfirst : treeLevels (.list ordered start items :: rest) ≤
        treeLevels (splitLead item).2 + 1
    · exact ⟨item, List.mem_cons_self .., by omega⟩
    · obtain ⟨children, hmem, hcount⟩ := ih (by omega)
      exact ⟨children, List.mem_cons_of_mem item hmem, by omega⟩
  | quote children rest _ ih =>
    rw [treeLevels_quote] at h ⊢
    by_cases hfirst : treeLevels rest ≤ treeLevels (splitLead children).2 + 1
    · exact ⟨children, List.mem_cons_self .., by omega⟩
    · obtain ⟨others, hmem, hcount⟩ := ih (by omega)
      exact ⟨others, List.mem_cons_of_mem children hmem, by omega⟩

theorem sizeOf_lt_of_mem_childLists (h : children ∈ nodes.flatMap childLists) :
    sizeOf children < sizeOf nodes := by
  obtain ⟨node, hnode, hchildren⟩ := List.mem_flatMap.1 h
  have hmem := List.sizeOf_lt_of_mem hnode
  cases node with
  | list ordered start items =>
    have hitem : sizeOf children < sizeOf items := List.sizeOf_lt_of_mem hchildren
    simp at hmem
    omega
  | quote content =>
    rw [List.mem_singleton.1 hchildren]
    simp at hmem
    omega
  | heading | paragraph | fencedCode | thematicBreak | table | html => cases hchildren

theorem countsLevels_treeLevels : CountsLevels Below treeLevels where
  nil := rfl
  pos := treeLevels_pos
  le := by
    rintro _ nodes _ ⟨hmem⟩
    have hlt := treeLevels_splitLead_lt hmem
    omega
  attained := by
    intro nodes h
    obtain ⟨children, hmem, hcount⟩ := exists_treeLevels_splitLead h
    refine ⟨1, _, .rest hmem, ?_, hcount⟩
    intro hnil
    rw [hnil, treeLevels] at hcount
    omega
  smaller := by
    rintro _ nodes _ ⟨hmem⟩
    exact Nat.lt_of_le_of_lt (sizeOf_splitLead_le _) (sizeOf_lt_of_mem_childLists hmem)

end NoteBridge.Compose
