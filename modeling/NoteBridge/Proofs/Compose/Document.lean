import NoteBridge.Proofs.Compose.Table

/-!
What a document becomes. It becomes blocks as long as its levels fit the limit, and no other fault
can arise: the blocks are valid whatever the document, and no service has given them ids.
-/

namespace NoteBridge.Compose

open Markup (Document Node Row)
open Page (Block BlockKind nodesOf within within_eq_error_iff within_eq_ok_iff within_ok)

variable {context : Context} {nodes : List Node} {blocks : List Block}

/-! ### Validity and ids -/

theorem check_cons_of_isNesting {kind : BlockKind} {children : List Block} (hkind : IsNesting kind)
    (hchildren : Page.check children = .ok ()) (hrest : Page.check blocks = .ok ()) :
    Page.check ({ kind, children } :: blocks) = .ok () := by
  refine Page.checkAll_cons_of_ok hkind.2.2 (.inr hkind.1) ?_ hrest
  rw [hkind.2.1]
  exact hchildren

theorem checkAll_tableRows (context : Context) (width : Nat) (rows : List Row) :
    Page.checkAll true (rows.map (tableRow context width)) = .ok () := by
  induction rows with
  | nil => rfl
  | cons row rows ih => exact Page.checkAll_cons_of_ok rfl (.inl rfl) rfl ih

theorem Becomes.valid (h : Becomes context nodes blocks) : Page.check blocks = .ok () := by
  induction h with
  | nil => rfl
  | leaf hkind _ ih =>
    have hplain := isPlain_of_leafKind? hkind
    refine Page.checkAll_cons_of_ok hplain.2 (.inl rfl) ?_ ih
    rw [Block.leaf, hplain.1]
    rfl
  | table _ ih => exact Page.checkAll_cons_of_ok rfl (.inr rfl) (checkAll_tableRows ..) ih
  | html _ ih => exact ih
  | noItems _ ih => exact ih
  | item _ _ ihc ihr => exact check_cons_of_isNesting (itemKind_isNesting ..) ihc ihr
  | quote _ _ ihc ihr => exact check_cons_of_isNesting (quoteKind_isNesting ..) ihc ihr

theorem Becomes.withoutIds (h : Becomes context nodes blocks) :
    ∀ node ∈ nodesOf blocks, node.id = none := by
  induction h with
  | nil => exact List.forall_mem_nil _
  | leaf _ _ ih =>
    rw [Page.nodesOf_cons, List.forall_mem_cons]
    exact ⟨rfl, ih⟩
  | table _ ih =>
    rw [Page.nodesOf_cons, List.forall_mem_cons, List.forall_mem_append, tableBlock,
      nodesOf_tableRows]
    refine ⟨rfl, ?_, ih⟩
    intro node hnode
    obtain ⟨row, -, rfl⟩ := List.mem_map.1 hnode
    rfl
  | html _ ih => exact ih
  | noItems _ ih => exact ih
  | item _ _ ihc ihr | quote _ _ ihc ihr =>
    rw [Page.nodesOf_cons, List.forall_mem_cons, List.forall_mem_append]
    exact ⟨rfl, ihc, ihr⟩

/-! ### Documents -/

theorem exists_documentBlocks (context : Context) (document : Document) :
    ∃ blocks, Becomes context document blocks ∧ ∀ limit,
      documentBlocks (context.withLimit limit) document =
        within limit (treeLevels document) blocks := by
  obtain ⟨blocks, hblocks, hlevel⟩ := exists_becomes context document
  refine ⟨blocks, hblocks, fun limit => ?_⟩
  have htop := hlevel limit 0 (Nat.zero_le limit)
  rw [Nat.zero_add] at htop
  rw [documentBlocks, htop, within]
  split
  · change (Page.check blocks >>= fun _ => pure blocks) = _
    rw [hblocks.valid]
    rfl
  · rfl

theorem becomes_of_documentBlocks {document : Document}
    (h : documentBlocks context document = .ok blocks) :
    Becomes context document blocks ∧ treeLevels document ≤ context.options.maxDepth + 1 := by
  obtain ⟨all, hall, hresult⟩ := exists_documentBlocks context document
  have hown : documentBlocks context document =
      within context.options.maxDepth (treeLevels document) all :=
    hresult context.options.maxDepth
  rw [hown] at h
  obtain ⟨hfits, rfl⟩ := within_eq_ok_iff.1 h
  exact ⟨hall, hfits⟩

/-- A document becomes blocks unless one of its levels that is not empty lies deeper than the limit,
and this is the only fault there can be. The blocks are a valid forest without ids, their tables
are those of the document in order, and a higher limit changes nothing. -/
theorem documentBlocks_outcome (context : Context) (document : Document) :
    (∀ fault, documentBlocks context document = .error fault ↔
      fault = .depthExceeded context.options.maxDepth ∧
        DeeperThan Below context.options.maxDepth document) ∧
    ∀ blocks, documentBlocks context document = .ok blocks →
      Page.check blocks = .ok () ∧ (∀ node ∈ nodesOf blocks, node.id = none) ∧
      List.Forall₂ (Tabulates context) (tablesOf document)
        ((nodesOf blocks).filter (·.kind.isTable)) ∧
      ∀ limit, context.options.maxDepth ≤ limit →
        documentBlocks (context.withLimit limit) document = .ok blocks := by
  obtain ⟨all, hall, hresult⟩ := exists_documentBlocks context document
  have hown : documentBlocks context document =
      within context.options.maxDepth (treeLevels document) all :=
    hresult context.options.maxDepth
  rw [hown]
  refine ⟨fun fault => ?_, fun blocks h => ?_⟩
  · rw [within_eq_error_iff, countsLevels_treeLevels.deeperThan_iff]
  · obtain ⟨hfits, rfl⟩ := within_eq_ok_iff.1 h
    refine ⟨hall.valid, hall.withoutIds, ?_, fun limit hlimit => ?_⟩
    · rw [hall.tables, List.forall₂_map_right_iff, List.forall₂_same]
      intro table _
      exact tableBlock_tabulates context table.1 table.2
    · rw [hresult limit, within_ok (by omega)]

end NoteBridge.Compose
