import NoteBridge.Proofs.Page.Fault
import NoteBridge.Proofs.Page.Forest
import NoteBridge.Render.Block

/-!
How deep rendering descends. A level of the page counts as one for rendering only below a block
whose text its children are nested in: blocks that only group others are looked through, the rows of
a table belong to its text, and a callout that stands in for something else does not show its
children. A valid forest shows the same text under every limit that its shown levels fit, and
exceeds every other one; nothing else can go wrong.
-/

namespace NoteBridge.Render

open Page (Block BlockKind Fault checkAll checkAll_cons_eq_ok forest_induct isTable_of_isTransparent
  levels levels_cons nodesOf within within_bind_map within_map within_ok)

/-- The same context under another limit. -/
def Context.withLimit (context : Context) (limit : Nat) : Context :=
  { context with options := { context.options with maxDepth := limit } }

/-- Whether the children of such a block are rendered as a level of their own. -/
def nests (context : Context) : BlockKind → Bool
  | .text form _ _ =>
    match form with
    | .heading1 | .heading2 | .heading3 => false
    | .paragraph | .bulletedItem | .numberedItem | .toggle | .quote => true
  | .toDo .. => true
  | .callout runs icon color =>
    (queryFence? context runs icon color).isNone && (localImagePath? runs icon).isNone
  | .code .. | .divider | .equation _ | .media .. | .table .. | .tableRow _ | .columnList | .column
  | .syncedBlock | .childPage _ | .unsupported _ => false

mutual

def shownLevelsOf (context : Context) : Block → Nat
  | ⟨_, kind, children⟩ =>
    if kind.isTransparent then max 1 (shownLevels context children)
    else if nests context kind then shownLevels context children + 1
    else 1

/-- How many levels of a forest are rendered. -/
def shownLevels (context : Context) : List Block → Nat
  | [] => 0
  | block :: blocks => max (shownLevelsOf context block) (shownLevels context blocks)

end

variable {context : Context} {id : Option String} {kind : BlockKind} {children blocks : List Block}
  {depth limit : Nat}

theorem isTransparent_of_nests (h : nests context kind = true) : kind.isTransparent = false := by
  cases kind with
  | columnList | column | syncedBlock => cases h
  | _ => rfl

theorem isTable_of_nests (h : nests context kind = true) : kind.isTable = false := by
  cases kind with
  | table => cases h
  | _ => rfl

theorem shownLevels_pos (context : Context) (h : blocks ≠ []) : 1 ≤ shownLevels context blocks := by
  cases blocks with
  | nil => exact absurd rfl h
  | cons block blocks =>
    obtain ⟨id, kind, children⟩ := block
    rw [shownLevels, shownLevelsOf]
    split_ifs <;> omega

/-! ### Shown levels and levels -/

theorem shownLevels_le_levels (context : Context) (blocks : List Block) :
    shownLevels context blocks ≤ levels blocks := by
  induction blocks using forest_induct with
  | nil => exact Nat.le_refl 0
  | cons id kind children rest ihc ihr =>
    rw [shownLevels, shownLevelsOf, levels_cons]
    dsimp only
    split_ifs <;> omega

/-- All levels are shown where children stand only below blocks that nest them. -/
theorem shownLevels_eq_levels
    (h : ∀ node ∈ nodesOf blocks, node.children ≠ [] → nests context node.kind = true) :
    shownLevels context blocks = levels blocks := by
  induction blocks using forest_induct with
  | nil => rfl
  | cons id kind children rest ihc ihr =>
    rw [Page.forall_mem_nodesOf_cons, Page.Block.forall_mem_nodes] at h
    obtain ⟨⟨hblock, hchildren⟩, hrest⟩ := h
    rw [shownLevels, shownLevelsOf, levels_cons, ihr hrest]
    dsimp only at hblock hchildren ⊢
    rw [ihc hchildren]
    by_cases hempty : children = []
    · subst hempty
      rw [levels]
      split_ifs <;> rfl
    · have hnests := hblock hempty
      rw [if_neg (by rw [isTransparent_of_nests hnests]; decide), if_pos hnests]

/-! ### Blocks -/

theorem renderBlock_of_nests (h : nests context kind = true) (number : Nat) :
    ∃ f : List Char → List Char, ∀ limit depth id children,
      renderBlock (context.withLimit limit) depth number ⟨id, kind, children⟩ = (do
        let nested ← renderLevel (context.withLimit limit) (depth + 1) children
        pure (f nested)) := by
  cases kind with
  | text form runs color =>
    cases form with
    | heading1 | heading2 | heading3 => cases h
    | paragraph =>
      refine ⟨withNested (renderRuns context.runs runs), fun limit depth id children => ?_⟩
      rw [renderBlock]
      rfl
    | bulletedItem | toggle =>
      refine ⟨itemText context "- ".toList runs, fun limit depth id children => ?_⟩
      rw [renderBlock]
      rfl
    | numberedItem =>
      refine ⟨itemText context ((toString number).toList ++ ['.', ' ']) runs,
        fun limit depth id children => ?_⟩
      rw [renderBlock]
      rfl
    | quote =>
      refine ⟨fun nested => quoteLines (withNested (renderRuns context.runs runs) nested),
        fun limit depth id children => ?_⟩
      rw [renderBlock]
      rfl
  | toDo runs checked =>
    refine ⟨itemText context (if checked then "- [x] ".toList else "- [ ] ".toList) runs,
      fun limit depth id children => ?_⟩
    rw [renderBlock]
    rfl
  | callout runs icon color =>
    rw [nests, Bool.and_eq_true, Option.isNone_iff_eq_none, Option.isNone_iff_eq_none] at h
    refine ⟨fun nested => quoteLines (withNested (calloutHead context runs icon) nested),
      fun limit depth id children => ?_⟩
    have hfence : queryFence? (context.withLimit limit) runs icon color = none := h.1
    rw [renderBlock, hfence, h.2]
    rfl
  | _ => cases h

theorem renderBlock_of_not_nests (h : nests context kind = false)
    (hseen : kind.isTransparent = false) (hrow : kind.isTableRow = false)
    (children : List Block) :
    ∃ text, ∀ limit depth number id,
      renderBlock (context.withLimit limit) depth number ⟨id, kind, children⟩ = .ok text := by
  cases kind with
  | text form runs color =>
    cases form with
    | heading1 => exact ⟨heading context 1 runs, fun _ _ _ _ => by rw [renderBlock]; rfl⟩
    | heading2 => exact ⟨heading context 2 runs, fun _ _ _ _ => by rw [renderBlock]; rfl⟩
    | heading3 => exact ⟨heading context 3 runs, fun _ _ _ _ => by rw [renderBlock]; rfl⟩
    | _ => cases h
  | toDo runs checked => cases h
  | columnList | column | syncedBlock => cases hseen
  | callout runs icon color =>
    rw [nests] at h
    cases hfence : queryFence? context runs icon color with
    | some fence =>
      refine ⟨fence, fun limit depth number id => ?_⟩
      have hsame : queryFence? (context.withLimit limit) runs icon color = some fence := hfence
      rw [renderBlock, hsame]
    | none =>
      cases hpath : localImagePath? runs icon with
      | some path =>
        refine ⟨"![[".toList ++ path ++ "]]".toList, fun limit depth number id => ?_⟩
        have hsame : queryFence? (context.withLimit limit) runs icon color = none := hfence
        rw [renderBlock, hsame, hpath]
      | none =>
        rw [hfence, hpath] at h
        cases h
  | tableRow cells => cases hrow
  | table width header first =>
    refine ⟨tableText context width children, fun limit depth number id => ?_⟩
    rw [renderBlock]
    rfl
  | _ => exact ⟨_, fun limit depth number id => by rw [renderBlock]⟩

/-! ### Levels -/

theorem renderLevel_within {pieces : List Piece × Nat} (hdepth : depth ≤ limit + 1)
    (h : ∀ depth ≤ limit, renderPieces (context.withLimit limit) depth 0 blocks =
      within limit (depth + shownLevels context blocks) pieces) :
    renderLevel (context.withLimit limit) depth blocks =
      within limit (depth + shownLevels context blocks) (joinPieces pieces.1) := by
  rw [renderLevel.eq_def]
  cases blocks with
  | nil =>
    have hempty := h 0 (Nat.zero_le limit)
    rw [renderPieces, within_ok (by rw [shownLevels]; omega)] at hempty
    cases hempty
    exact (within_ok hdepth _).symm
  | cons block rest =>
    have hpos := shownLevels_pos context (List.cons_ne_nil block rest)
    by_cases hdeep : limit < depth
    · have hnot : ¬depth + shownLevels context (block :: rest) ≤ limit + 1 := by omega
      rw [within, if_neg hnot]
      exact if_pos hdeep
    · refine (if_neg hdeep).trans ?_
      rw [h depth (Nat.le_of_not_lt hdeep)]
      exact within_map fun pieces : List Piece × Nat => joinPieces pieces.1

theorem exists_renderBlock (hseen : kind.isTransparent = false)
    (hrow : kind.isTableRow = false) (number : Nat)
    (hchildren : nests context kind = true → ∃ pieces, ∀ limit, ∀ depth ≤ limit,
      renderPieces (context.withLimit limit) depth 0 children =
        within limit (depth + shownLevels context children) pieces) :
    ∃ text, ∀ id limit, ∀ depth ≤ limit,
      renderBlock (context.withLimit limit) depth number ⟨id, kind, children⟩ =
        within limit
          (depth + (if nests context kind then shownLevels context children + 1 else 1)) text := by
  cases hnests : nests context kind with
  | true =>
    obtain ⟨f, hf⟩ := renderBlock_of_nests hnests number
    obtain ⟨pieces, hpieces⟩ := hchildren hnests
    refine ⟨f (joinPieces pieces.1), fun id limit depth hdepth => ?_⟩
    rw [hf, renderLevel_within (by omega) (hpieces limit), within_map, if_pos rfl]
    congr 1
    omega
  | false =>
    obtain ⟨text, htext⟩ := renderBlock_of_not_nests hnests hseen hrow children
    refine ⟨text, fun id limit depth hdepth => ?_⟩
    rw [htext, if_neg (by decide), within_ok (by omega)]

/-- Valid blocks show the same pieces under every limit that their shown levels fit, and exceed
every other one. -/
theorem exists_renderPieces (hvalid : checkAll false blocks = .ok ()) (number : Nat) :
    ∃ pieces, ∀ limit, ∀ depth ≤ limit,
      renderPieces (context.withLimit limit) depth number blocks =
        within limit (depth + shownLevels context blocks) pieces := by
  induction blocks using forest_induct generalizing number with
  | nil =>
    refine ⟨([], number), fun limit depth hdepth => ?_⟩
    rw [renderPieces, within_ok (by rw [shownLevels]; omega)]
  | cons id kind children rest ihc ihr =>
    obtain ⟨hrow, -, hchildren, hrest⟩ := checkAll_cons_eq_ok hvalid
    dsimp only at hrow hchildren
    -- A transparent block's children stay at its depth; any other block puts them one level down.
    by_cases hseen : kind.isTransparent = true
    · rw [isTable_of_isTransparent hseen] at hchildren
      obtain ⟨⟨inside, last⟩, hinside⟩ := ihc hchildren number
      obtain ⟨others, hothers⟩ := ihr hrest last
      refine ⟨(inside ++ others.1, others.2), fun limit depth hdepth => ?_⟩
      rw [renderPieces, if_pos hseen, hinside limit depth hdepth]
      refine within_bind_map
        (fun inside : List Piece × Nat =>
          renderPieces (context.withLimit limit) depth inside.2 rest)
        (fun inside others => (inside.1 ++ others.1, others.2)) (hothers limit depth hdepth) ?_
      rw [shownLevels, shownLevelsOf, if_pos hseen]
      omega
    · let next := if kind.isNumbered then number + 1 else 0
      obtain ⟨text, htext⟩ :=
        exists_renderBlock (Bool.eq_false_iff.2 hseen) hrow next fun hnests => by
          rw [isTable_of_nests hnests] at hchildren
          exact ihc hchildren 0
      obtain ⟨others, hothers⟩ := ihr hrest next
      refine ⟨if text.isEmpty then others else (⟨kind.isListItem, text⟩ :: others.1, others.2),
        fun limit depth hdepth => ?_⟩
      have hblock := htext id limit depth hdepth
      rw [renderPieces, if_neg hseen]
      dsimp only [next] at hblock ⊢
      rw [hblock]
      refine within_bind_map (fun _ => renderPieces (context.withLimit limit) depth next rest)
        (fun text others => if text.isEmpty then others
          else (⟨kind.isListItem, text⟩ :: others.1, others.2)) (hothers limit depth hdepth) ?_
      rw [shownLevels, shownLevelsOf, if_neg hseen]
      omega

theorem exists_render (context : Context) (hvalid : Page.check blocks = .ok ()) :
    ∃ text, ∀ limit, render (context.withLimit limit) blocks =
      within limit (shownLevels context blocks) text := by
  obtain ⟨pieces, hpieces⟩ := exists_renderPieces hvalid 0
  refine ⟨if (joinPieces pieces.1).isEmpty then [] else joinPieces pieces.1 ++ ['\n'],
    fun limit => ?_⟩
  have hlevel := renderLevel_within (Nat.zero_le _) (hpieces limit)
  rw [Nat.zero_add] at hlevel
  unfold render
  rw [hvalid, hlevel]
  exact within_map fun text => if text.isEmpty then [] else text ++ ['\n']

/-- A level of one block is the text of the block. -/
theorem renderLevel_single {text : List Char} (hseen : kind.isTransparent = false)
    (hdepth : depth ≤ context.options.maxDepth) (hne : text ≠ [])
    (h : renderBlock context depth (if kind.isNumbered then 1 else 0) ⟨id, kind, children⟩ =
      .ok text) :
    renderLevel context depth [⟨id, kind, children⟩] = .ok text := by
  have hpieces : renderPieces context depth 0 [⟨id, kind, children⟩] =
      .ok ([⟨kind.isListItem, text⟩], if kind.isNumbered then 1 else 0) := by
    rw [renderPieces, hseen, if_neg (by decide)]
    dsimp only
    rw [h]
    change (renderPieces context depth _ [] >>= _) = _
    rw [renderPieces]
    exact congrArg Except.ok (if_neg (by simpa using hne))
  rw [renderLevel, if_neg (Nat.not_lt.2 hdepth), hpieces]
  rfl

/-- A page of nothing but one block is the text of the block. -/
theorem render_single {text : List Char} (hcheck : Page.check [⟨id, kind, children⟩] = .ok ())
    (hseen : kind.isTransparent = false) (hne : text ≠ [])
    (h : renderBlock context 0 (if kind.isNumbered then 1 else 0) ⟨id, kind, children⟩ =
      .ok text) :
    render context [⟨id, kind, children⟩] = .ok (text ++ ['\n']) := by
  rw [render, hcheck, renderLevel_single hseen (Nat.zero_le _) hne h]
  exact congrArg Except.ok (if_neg (by simpa using hne))

theorem render_leaf {text : List Char} (hrow : kind.isTableRow = false)
    (hseen : kind.isTransparent = false) (hne : text ≠ [])
    (h : ∀ number, renderBlock context 0 number (.leaf kind) = .ok text) :
    render context [.leaf kind] = .ok (text ++ ['\n']) := by
  have hcheck : Page.check [.leaf kind] = .ok () := by
    refine Page.checkAll_cons_of_ok hrow (.inl rfl) ?_ rfl
    cases kind.isTable <;> rfl
  exact render_single hcheck hseen hne (h _)

/-! ### Results taken apart -/

/-- A level is its pieces, where it does not lie too deep for having any blocks. -/
theorem renderLevel_eq_ok_iff {text : List Char} :
    renderLevel context depth blocks = .ok text ↔
      (blocks ≠ [] → depth ≤ context.options.maxDepth) ∧
      ∃ pieces last, renderPieces context depth 0 blocks = .ok (pieces, last) ∧
        text = joinPieces pieces := by
  cases blocks with
  | nil =>
    rw [renderLevel, renderPieces]
    constructor
    · rintro ⟨⟩
      exact ⟨absurd rfl, [], 0, rfl, rfl⟩
    · rintro ⟨-, _, _, ⟨⟩, rfl⟩
      rfl
  | cons block rest =>
    rw [renderLevel]
    split
    · next hdeep =>
      constructor
      · intro herror
        cases herror
      · intro h
        exact absurd (h.1 (List.cons_ne_nil block rest)) (Nat.not_le_of_lt hdeep)
    · next hfits =>
      rw [bind_eq_ok_iff, and_iff_right fun _ => Nat.le_of_not_lt hfits, Prod.exists]
      simp only [pure, Except.pure, Except.ok.injEq, eq_comm]

/-- The pieces of a group belong to the level that the group stands in. -/
theorem renderPieces_group_eq_ok_iff {rest : List Block} {number last : Nat} {pieces : List Piece}
    (hseen : kind.isTransparent = true) :
    renderPieces context depth number (⟨id, kind, children⟩ :: rest) = .ok (pieces, last) ↔
      ∃ inside next others, renderPieces context depth number children = .ok (inside, next) ∧
        renderPieces context depth next rest = .ok (others, last) ∧ pieces = inside ++ others := by
  rw [renderPieces, if_pos hseen]
  constructor
  · intro h
    obtain ⟨⟨inside, next⟩, hinside, h⟩ := bind_eq_ok_iff.1 h
    obtain ⟨⟨others, after⟩, hothers, heq⟩ := bind_eq_ok_iff.1 h
    cases heq
    exact ⟨inside, next, others, hinside, hothers, rfl⟩
  · rintro ⟨inside, next, others, hinside, hothers, rfl⟩
    exact bind_eq_ok_iff.2 ⟨_, hinside, bind_eq_ok_iff.2 ⟨_, hothers, rfl⟩⟩

/-- A block that shows something itself is a piece, unless its text is empty. -/
theorem renderPieces_shown_eq_ok_iff {rest : List Block} {number last : Nat} {pieces : List Piece}
    (hseen : kind.isTransparent = false) :
    renderPieces context depth number (⟨id, kind, children⟩ :: rest) = .ok (pieces, last) ↔
      ∃ text others,
        renderBlock context depth (if kind.isNumbered then number + 1 else 0)
          ⟨id, kind, children⟩ = .ok text ∧
        renderPieces context depth (if kind.isNumbered then number + 1 else 0) rest =
          .ok (others, last) ∧
        pieces = if text.isEmpty then others else ⟨kind.isListItem, text⟩ :: others := by
  rw [renderPieces, hseen, if_neg (by decide)]
  constructor
  · intro h
    obtain ⟨text, htext, h⟩ := bind_eq_ok_iff.1 h
    obtain ⟨⟨others, after⟩, hothers, heq⟩ := bind_eq_ok_iff.1 h
    refine ⟨text, others, htext, ?_⟩
    cases hempty : text.isEmpty <;> (simp only [hempty] at heq; cases heq; exact ⟨hothers, rfl⟩)
  · rintro ⟨text, others, htext, hothers, rfl⟩
    refine bind_eq_ok_iff.2 ⟨text, htext, bind_eq_ok_iff.2 ⟨_, hothers, ?_⟩⟩
    cases text.isEmpty <;> rfl

/-- A page of one block that shows something itself is the text of the block. -/
theorem renderBlock_of_render_single {text : List Char} (hseen : kind.isTransparent = false)
    (h : render context [⟨id, kind, children⟩] = .ok text) :
    ∃ shown, renderBlock context 0 (if kind.isNumbered then 1 else 0) ⟨id, kind, children⟩ =
        .ok shown ∧
      text = if shown.isEmpty then [] else shown ++ ['\n'] := by
  obtain ⟨_, -, h⟩ := bind_eq_ok_iff.1 h
  obtain ⟨level, hlevel, htext⟩ := bind_eq_ok_iff.1 h
  obtain ⟨-, pieces, last, hpieces, rfl⟩ := renderLevel_eq_ok_iff.1 hlevel
  obtain ⟨shown, others, hshown, hothers, rfl⟩ := (renderPieces_shown_eq_ok_iff hseen).1 hpieces
  rw [renderPieces] at hothers
  cases hothers
  refine ⟨shown, by simpa using hshown, ?_⟩
  cases htext
  cases shown <;> rfl

/-! ### Results under a limit -/

/-- A result that is there when something fits the limit, and says that the limit is exceeded when
it does not. -/
def Limited {α : Type} (limit : Nat) (fits : Prop) (result : Except Fault α) : Prop :=
  (fits → ∃ a, result = .ok a) ∧ (¬fits → result = .error (.depthExceeded limit))

theorem Limited.map {α β : Type} {fits : Prop} {x : Except Fault α} (f : α → β)
    (h : Limited limit fits x) : Limited limit fits (x.map f) := by
  constructor
  · intro hfits
    obtain ⟨a, rfl⟩ := h.1 hfits
    exact ⟨f a, rfl⟩
  · intro hnot
    rw [h.2 hnot]
    rfl

/-- A valid forest is rendered exactly when its shown levels fit the limit. -/
theorem render_limited (hvalid : Page.check blocks = .ok ()) :
    Limited context.options.maxDepth (shownLevels context blocks ≤ context.options.maxDepth + 1)
      (render context blocks) := by
  obtain ⟨text, htext⟩ := exists_render context hvalid
  have hown : render context blocks =
      within context.options.maxDepth (shownLevels context blocks) text :=
    htext context.options.maxDepth
  rw [hown]
  exact ⟨fun hfits => ⟨text, if_pos hfits⟩, fun hnot => if_neg hnot⟩

/-! ### Forests that are refused -/

theorem render_of_check_eq_error (context : Context) {fault : Fault}
    (h : Page.check blocks = .error fault) : render context blocks = .error fault := by
  unfold render
  rw [h]
  rfl

/-- Rendering reports no misplaced children where leaves are bare. -/
theorem render_ne_childrenNotAllowed (context : Context) (h : Page.LeavesBare blocks)
    (name : String) : render context blocks ≠ .error (.childrenNotAllowed name) := by
  intro hrender
  rcases hcheck : Page.check blocks with fault | _
  · rw [render_of_check_eq_error context hcheck] at hrender
    cases hrender
    exact Page.checkAll_ne_childrenNotAllowed h name hcheck
  · have hlimited : Limited context.options.maxDepth
        (shownLevels context blocks ≤ context.options.maxDepth + 1) (render context blocks) :=
      render_limited hcheck
    by_cases hfits : shownLevels context blocks ≤ context.options.maxDepth + 1
    · obtain ⟨text, htext⟩ := hlimited.1 hfits
      rw [htext] at hrender
      cases hrender
    · rw [hlimited.2 hfits] at hrender
      cases hrender

end NoteBridge.Render
