import NoteBridge.Proofs.Page.Grouping
import NoteBridge.Proofs.Render.Depth

/-!
Groups are looked through. A forest without its groups is rendered to the same text: what parts its
blocks and how they are numbered runs across the borders of groups, wherever these stand. Only a
level of empty groups is no level any more, so that such a forest may also be rendered where the
groups lie too deep.
-/

namespace NoteBridge.Render

open Page (Block BlockKind checkAll checkAll_cons_eq_ok checkAll_ungrouped forest_induct
  isTable_of_isTransparent nodesOf ungrouped ungrouped_group ungrouped_rows ungrouped_shown)

variable {context : Context} {id : Option String} {kind : BlockKind}
  {children others blocks : List Block} {depth number last : Nat} {pieces : List Piece}
  {text : List Char}

/-! ### Blocks with other children -/

/-- A block that nests its children shows no more of them than the text of their level. -/
theorem renderBlock_of_renderLevel (hnests : nests context kind = true)
    (hlevel : ∀ nested, renderLevel context (depth + 1) children = .ok nested →
      renderLevel context (depth + 1) others = .ok nested)
    (h : renderBlock context depth number ⟨id, kind, children⟩ = .ok text) :
    renderBlock context depth number ⟨id, kind, others⟩ = .ok text := by
  obtain ⟨f, hf⟩ := renderBlock_of_nests hnests number
  have hown : ∀ children, renderBlock context depth number ⟨id, kind, children⟩ = (do
      let nested ← renderLevel context (depth + 1) children
      pure (f nested)) := hf context.options.maxDepth depth id
  rw [hown] at h ⊢
  obtain ⟨nested, hnested, heq⟩ := bind_eq_ok_iff.1 h
  exact bind_eq_ok_iff.2 ⟨nested, hlevel nested hnested, heq⟩

/-- Any other block shows no more of its children than the rows that are among them. -/
theorem renderBlock_of_rows (hnests : nests context kind = false)
    (hseen : kind.isTransparent = false)
    (hrows : kind.isTable = true → children.filterMap rowOf? = others.filterMap rowOf?)
    (h : renderBlock context depth number ⟨id, kind, children⟩ = .ok text) :
    renderBlock context depth number ⟨id, kind, others⟩ = .ok text := by
  cases kind with
  | text form runs color =>
    cases form with
    | heading1 | heading2 | heading3 => rwa [renderBlock] at h ⊢
    | _ => cases hnests
  | toDo => cases hnests
  | columnList | column | syncedBlock => cases hseen
  | callout runs icon color =>
    rw [renderBlock] at h ⊢
    rw [nests, Bool.and_eq_false_iff] at hnests
    cases hfence : queryFence? context runs icon color with
    | some fence => rwa [hfence] at h
    | none =>
      cases hpath : localImagePath? runs icon with
      | some path => rwa [hfence, hpath] at h
      | none => simp [hfence, hpath] at hnests
  | table width columnHeader rowHeader =>
    rw [renderBlock, tableText] at h ⊢
    rwa [hrows rfl] at h
  | _ => rwa [renderBlock] at h ⊢

/-! ### Pieces -/

theorem renderPieces_append {as bs : List Block} {more : List Piece} {next : Nat}
    (has : renderPieces context depth number as = .ok (pieces, next))
    (hbs : renderPieces context depth next bs = .ok (more, last)) :
    renderPieces context depth number (as ++ bs) = .ok (pieces ++ more, last) := by
  induction as generalizing number pieces next with
  | nil =>
    rw [renderPieces] at has
    cases has
    exact hbs
  | cons block rest ih =>
    obtain ⟨id, kind, children⟩ := block
    rw [List.cons_append]
    cases hseen : kind.isTransparent with
    | true =>
      obtain ⟨inside, between, others, hinside, hothers, rfl⟩ :=
        (renderPieces_group_eq_ok_iff hseen).1 has
      exact (renderPieces_group_eq_ok_iff hseen).2
        ⟨inside, between, others ++ more, hinside, ih hothers hbs, List.append_assoc ..⟩
    | false =>
      obtain ⟨text, others, htext, hothers, rfl⟩ := (renderPieces_shown_eq_ok_iff hseen).1 has
      refine (renderPieces_shown_eq_ok_iff hseen).2
        ⟨text, others ++ more, htext, ih hothers hbs, ?_⟩
      cases text.isEmpty <;> rfl

/-- With the pieces of a level, its text is there without the groups. -/
theorem renderLevel_ungrouped
    (hpieces : ∀ pieces last, renderPieces context depth 0 blocks = .ok (pieces, last) →
      renderPieces context depth 0 (ungrouped blocks) = .ok (pieces, last))
    (h : renderLevel context depth blocks = .ok text) :
    renderLevel context depth (ungrouped blocks) = .ok text := by
  obtain ⟨hdepth, pieces, last, hrun, rfl⟩ := renderLevel_eq_ok_iff.1 h
  refine renderLevel_eq_ok_iff.2 ⟨fun hne => hdepth ?_, pieces, last, hpieces pieces last hrun, rfl⟩
  rintro rfl
  exact hne rfl

theorem renderPieces_ungrouped (hvalid : checkAll false blocks = .ok ())
    (h : renderPieces context depth number blocks = .ok (pieces, last)) :
    renderPieces context depth number (ungrouped blocks) = .ok (pieces, last) := by
  induction blocks using forest_induct generalizing depth number pieces last with
  | nil => exact h
  | cons id kind children rest ihc ihr =>
    obtain ⟨-, -, hchildren, hrest⟩ := checkAll_cons_eq_ok hvalid
    dsimp only at hchildren
    cases hseen : kind.isTransparent with
    | true =>
      rw [isTable_of_isTransparent hseen] at hchildren
      obtain ⟨inside, next, others, hinside, hothers, rfl⟩ :=
        (renderPieces_group_eq_ok_iff hseen).1 h
      rw [ungrouped_group hseen]
      exact renderPieces_append (ihc hchildren hinside) (ihr hrest hothers)
    | false =>
      obtain ⟨text, others, htext, hothers, rfl⟩ := (renderPieces_shown_eq_ok_iff hseen).1 h
      rw [ungrouped_shown hseen]
      refine (renderPieces_shown_eq_ok_iff hseen).2 ⟨text, others, ?_, ihr hrest hothers, rfl⟩
      cases hnests : nests context kind with
      | true =>
        rw [isTable_of_nests hnests] at hchildren
        refine renderBlock_of_renderLevel hnests (fun nested hnested => ?_) htext
        exact renderLevel_ungrouped (fun _ _ => ihc hchildren) hnested
      | false =>
        refine renderBlock_of_rows hnests hseen (fun htable => ?_) htext
        rw [htable] at hchildren
        rw [ungrouped_rows hchildren]

/-! ### Forests -/

/-- A forest that is rendered gives the same text without its groups: what is left are its other
blocks, in their order. -/
theorem render_ungrouped (h : render context blocks = .ok text) :
    render context (ungrouped blocks) = .ok text ∧
      (∀ node ∈ nodesOf (ungrouped blocks), node.kind.isTransparent = false) ∧
      (nodesOf (ungrouped blocks)).map Block.own =
        ((nodesOf blocks).filter fun node => !node.kind.isTransparent).map Block.own := by
  refine ⟨?_, Page.isTransparent_of_mem_nodesOf_ungrouped blocks,
    Page.map_own_nodesOf_ungrouped blocks⟩
  obtain ⟨⟨⟩, hvalid, h⟩ := bind_eq_ok_iff.1 h
  obtain ⟨level, hlevel, heq⟩ := bind_eq_ok_iff.1 h
  refine bind_eq_ok_iff.2 ⟨(), checkAll_ungrouped hvalid, bind_eq_ok_iff.2 ⟨level, ?_, heq⟩⟩
  exact renderLevel_ungrouped (fun _ _ => renderPieces_ungrouped hvalid) hlevel

/-- Two columns with a numbered item each, and a paragraph in a group inside the second one. -/
def numberedColumns : List Block :=
  [{ kind := .columnList
     children := [
      { kind := .column, children := [.leaf (.text .numberedItem [.text "a"])] },
      { kind := .column
        children := [{
          kind := .text .numberedItem [.text "b"]
          children := [{ kind := .syncedBlock, children := [.paragraph [.text "c"]] }] }] }] }]

/-- The same items without columns. -/
def numberedItems : List Block :=
  [.leaf (.text .numberedItem [.text "a"]),
    { kind := .text .numberedItem [.text "b"], children := [.paragraph [.text "c"]] }]

/-- Numbers run on across the border of the columns. -/
theorem render_numberedColumns :
    render ⟨{}, .empty⟩ numberedColumns = .ok "1. a\n2. b\n  c\n".toList ∧
      ungrouped numberedColumns = numberedItems ∧
      render ⟨{}, .empty⟩ numberedItems = .ok "1. a\n2. b\n  c\n".toList := by
  have hcheck : Page.check numberedColumns = .ok () := rfl
  have hgrouped : render ⟨{}, .empty⟩ numberedColumns = .ok "1. a\n2. b\n  c\n".toList := by
    rw [render, hcheck]
    simp only [numberedColumns, renderLevel, renderPieces, renderBlock, Block.leaf,
      Block.paragraph]
    rfl
  have hitems : ungrouped numberedColumns = numberedItems := rfl
  exact ⟨hgrouped, hitems, hitems ▸ (render_ungrouped hgrouped).1⟩

end NoteBridge.Render
