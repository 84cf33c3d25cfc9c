import Mathlib.Data.List.Forall2
import NoteBridge.Proofs.Compose.Rules
import NoteBridge.Proofs.Page.Forest

/-!
Tables among the blocks of a document. They are those of the document, in the same order, and each
has a row for each row of its table, cut or filled up to one width.
-/

namespace NoteBridge.Compose

open Markup (Node Row)
open Page (Block BlockKind Run nodesOf)

variable {context : Context} {nodes : List Node} {node : Node} {blocks : List Block}

mutual

def nodeTables : Node → List (Option Row × List Row)
  | .table header rows => [(header, rows)]
  | .list _ _ items => itemTables items
  | .quote children => tablesOf children
  | .heading .. | .paragraph _ | .fencedCode .. | .thematicBreak | .html _ => []

def itemTables : List (List Node) → List (Option Row × List Row)
  | [] => []
  | item :: items => tablesOf item ++ itemTables items

/-- The tables of a document at every depth, in order, each as its header and its rows. -/
def tablesOf : List Node → List (Option Row × List Row)
  | [] => []
  | node :: nodes => nodeTables node ++ tablesOf nodes

end

theorem tablesOf_splitLead (nodes : List Node) : tablesOf (splitLead nodes).2 = tablesOf nodes := by
  cases nodes with
  | nil => rfl
  | cons node rest =>
    cases node with
    | paragraph content => rfl
    | _ => rfl

theorem nodeTables_of_leafKind? {kind : BlockKind} (h : leafKind? context node = some kind) :
    nodeTables node = [] := by
  cases node with
  | list | quote | table | html => cases h
  | _ => rfl

theorem nodesOf_tableRows (context : Context) (width : Nat) (rows : List Row) :
    nodesOf (rows.map (tableRow context width)) = rows.map (tableRow context width) := by
  induction rows with
  | nil => rfl
  | cons row rows ih =>
    rw [List.map_cons, Page.nodesOf_cons, ih]
    rfl

theorem filter_nodesOf_cons {block : Block} (h : block.kind.isTable = false) :
    (nodesOf (block :: blocks)).filter (·.kind.isTable) =
      (nodesOf block.children).filter (·.kind.isTable) ++
        (nodesOf blocks).filter (·.kind.isTable) := by
  rw [Page.nodesOf_cons, List.filter_cons, if_neg (by rw [h]; decide), List.filter_append]

/-- The tables among the blocks are the blocks of the tables, in the same order. -/
theorem Becomes.tables (h : Becomes context nodes blocks) :
    (nodesOf blocks).filter (·.kind.isTable) =
      (tablesOf nodes).map fun table => tableBlock context table.1 table.2 := by
  induction h with
  | nil => rfl
  | @leaf node kind rest blocks hkind _ ih =>
    have hself : (Block.leaf kind).kind.isTable = false := (isPlain_of_leafKind? hkind).1
    rw [filter_nodesOf_cons hself, tablesOf, nodeTables_of_leafKind? hkind]
    exact ih
  | @table header rows rest blocks _ ih =>
    have hrows : (nodesOf (tableBlock context header rows).children).filter (·.kind.isTable) =
        [] := by
      rw [tableBlock, nodesOf_tableRows, List.filter_eq_nil_iff]
      intro node hnode
      obtain ⟨row, -, rfl⟩ := List.mem_map.1 hnode
      exact Bool.false_ne_true
    rw [Page.nodesOf_cons, List.filter_cons_of_pos rfl, List.filter_append, hrows, ih]
    rfl
  | html _ ih => exact ih
  | noItems _ ih => exact ih
  | item _ _ ihc ihr =>
    rw [filter_nodesOf_cons (itemKind_isNesting ..).2.1, ihc, ihr, tablesOf_splitLead,
      ← List.map_append]
    simp only [tablesOf, nodeTables, itemTables, List.append_assoc]
  | quote _ _ ihc ihr =>
    rw [filter_nodesOf_cons (quoteKind_isNesting ..).2.1, ihc, ihr, tablesOf_splitLead,
      ← List.map_append]
    rfl

/-- The cells of a row that is to be of some width: those of the row as far as there are some, and
empty ones behind them. -/
def rowCells (context : Context) (width : Nat) (row : Row) : List (List Run) :=
  (List.range width).map fun i => (row[i]?.map (compose context ·)).getD []

/-- The block of a table: as wide as the first row and at least one cell wide, and with one row of
that width for each row of the table, its header first. -/
def Tabulates (context : Context) (table : Option Row × List Row) (block : Block) : Prop :=
  ∃ width, 1 ≤ width ∧ (∀ first ∈ (table.1.toList ++ table.2).head?, width = max first.length 1) ∧
    block.kind = .table width table.1.isSome false ∧
    block.children = (table.1.toList ++ table.2).map fun row =>
      .leaf (.tableRow (rowCells context width row))

theorem tableRow_eq (context : Context) (width : Nat) (row : Row) :
    tableRow context width row = .leaf (.tableRow (rowCells context width row)) := by
  rw [tableRow]
  congr 2
  apply List.ext_getElem
  · simp only [rowCells, List.length_append, List.length_map, List.length_take,
      List.length_replicate, List.length_range]
    omega
  · intro i hi hi'
    simp [rowCells] at hi'
    by_cases h : i < row.length
    · rw [List.getElem_append_left (by simp; omega)]
      simp [rowCells, h]
    · rw [List.getElem_append_right (by simp; omega)]
      simp [rowCells, Nat.le_of_not_lt h]

theorem tableBlock_tabulates (context : Context) (header : Option Row) (rows : List Row) :
    Tabulates context (header, rows) (tableBlock context header rows) := by
  refine ⟨_, Nat.le_max_right _ 1, ?_, rfl, ?_⟩
  · intro first hfirst
    rw [Option.mem_def.1 hfirst]
    rfl
  · rw [tableBlock]
    apply List.map_congr_left
    intro row _
    exact tableRow_eq context _ row

end NoteBridge.Compose
