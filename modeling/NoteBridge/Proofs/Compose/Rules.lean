import NoteBridge.Proofs.Compose.Levels
import NoteBridge.Proofs.Markup.Inline
import NoteBridge.Proofs.Page.Fault

/-!
What nodes become. The rules of `Becomes` say it node by node, with no limit in them, and a level of
nodes becomes just that as long as its own levels fit the limit. So whatever holds of the blocks of
every document is an induction over the rules.
-/

namespace NoteBridge.Compose

open Markup (Inline Node Row inlines_induct)
open Page (Block BlockKind within within_bind_map within_ok)

/-- The same context under another limit. -/
def Context.withLimit (context : Context) (limit : Nat) : Context :=
  { context with options := { context.options with maxDepth := limit } }

variable {context : Context} {nodes rest : List Node} {node : Node} {blocks : List Block}
  {depth limit : Nat}

/-! ### Composing under another limit -/

theorem inlineRunsAll_withLimit (style : Page.Style) (inlines : List Inline) :
    inlineRunsAll (context.withLimit limit) style inlines =
      inlineRunsAll context style inlines := by
  induction inlines using inlines_induct generalizing style with
  | nil => rfl
  | leaf inline rest hleaf ih =>
    rw [inlineRunsAll, inlineRunsAll, ih]
    cases inline with
    | emphasis | strikethrough | link => cases hleaf
    | _ => rfl
  | emphasis strong children rest ihc ihr =>
    cases strong <;> simp only [inlineRunsAll, inlineRuns, ihc, ihr]
  | strikethrough children rest ihc ihr => simp only [inlineRunsAll, inlineRuns, ihc, ihr]
  | link url title children rest ihc ihr => simp only [inlineRunsAll, inlineRuns, ihc, ihr]

@[simp] theorem compose_withLimit (inlines : List Inline) (style : Page.Style) :
    compose (context.withLimit limit) inlines style = compose context inlines style := by
  rw [compose, compose, inlineRunsAll_withLimit]

@[simp] theorem paragraphBlock_withLimit (inlines : List Inline) :
    paragraphBlock (context.withLimit limit) inlines = paragraphBlock context inlines := by
  simp only [paragraphBlock, compose_withLimit]

@[simp] theorem itemKind_withLimit (ordered : Bool) (lead : List Inline) :
    itemKind (context.withLimit limit) ordered lead = itemKind context ordered lead := by
  simp only [itemKind, compose_withLimit]

@[simp] theorem quoteKind_withLimit (lead : Option (List Inline)) :
    quoteKind (context.withLimit limit) lead = quoteKind context lead := by
  simp only [quoteKind, calloutRuns, compose_withLimit]
  rfl

@[simp] theorem tableBlock_withLimit (header : Option Row) (rows : List Row) :
    tableBlock (context.withLimit limit) header rows = tableBlock context header rows := by
  have hrow : ∀ width, tableRow (context.withLimit limit) width = tableRow context width := by
    intro width
    funext row
    simp only [tableRow, compose_withLimit]
  simp only [tableBlock, hrow]

/-! ### Rules -/

/-- The kind of block that a node becomes which holds neither nodes nor rows. -/
def leafKind? (context : Context) : Node → Option BlockKind
  | .heading level content => some (.text (headingForm level) (compose context content))
  | .paragraph content => some (paragraphBlock context content).kind
  | .fencedCode language literal => some (codeBlock context.options language literal).kind
  | .thematicBreak => some .divider
  | .list .. | .quote _ | .table .. | .html _ => none

/-- The blocks that nodes of one level become. -/
inductive Becomes (context : Context) : List Node → List Block → Prop
  | nil : Becomes context [] []
  | leaf {node : Node} {kind : BlockKind} {rest : List Node} {blocks : List Block} :
      leafKind? context node = some kind → Becomes context rest blocks →
      Becomes context (node :: rest) (.leaf kind :: blocks)
  | table {header : Option Row} {rows : List Row} {rest : List Node} {blocks : List Block} :
      Becomes context rest blocks →
      Becomes context (.table header rows :: rest) (tableBlock context header rows :: blocks)
  | html {content : String} {rest : List Node} {blocks : List Block} :
      Becomes context rest blocks → Becomes context (.html content :: rest) blocks
  | noItems {ordered : Bool} {start : Nat} {rest : List Node} {blocks : List Block} :
      Becomes context rest blocks → Becomes context (.list ordered start [] :: rest) blocks
  | item {ordered : Bool} {start : Nat} {item : List Node} {items : List (List Node)}
      {rest : List Node} {children blocks : List Block} :
      Becomes context (splitLead item).2 children →
      Becomes context (.list ordered start items :: rest) blocks →
      Becomes context (.list ordered start (item :: items) :: rest)
        ({ kind := itemKind context ordered ((splitLead item).1.getD [])
           children } :: blocks)
  | quote {content rest : List Node} {children blocks : List Block} :
      Becomes context (splitLead content).2 children → Becomes context rest blocks →
      Becomes context (.quote content :: rest)
        ({ kind := quoteKind context (splitLead content).1, children } :: blocks)

/-! ### Leaves -/

/-- A block without children that has nothing to do with tables. -/
def IsPlain (block : Block) : Prop :=
  block = .leaf block.kind ∧ block.kind.isTable = false ∧ block.kind.isTableRow = false

theorem paragraphBlock_isPlain (context : Context) (inlines : List Inline) :
    IsPlain (paragraphBlock context inlines) := by
  unfold paragraphBlock imageBlock
  split
  · exact ⟨rfl, rfl, rfl⟩
  · split
    · split <;> exact ⟨rfl, rfl, rfl⟩
    · exact ⟨rfl, rfl, rfl⟩

theorem codeBlock_isPlain (options : Options) (info : Option String) (literal : String) :
    IsPlain (codeBlock options info literal) := by
  unfold codeBlock queryCallout
  simp only
  split
  · exact ⟨rfl, rfl, rfl⟩
  · split <;> exact ⟨rfl, rfl, rfl⟩

theorem isLeaf_of_leafKind? {kind : BlockKind} (h : leafKind? context node = some kind) :
    isLeaf node = true := by
  cases node with
  | list | quote | table | html => cases h
  | _ => rfl

theorem isPlain_of_leafKind? {kind : BlockKind} (h : leafKind? context node = some kind) :
    kind.isTable = false ∧ kind.isTableRow = false := by
  cases node with
  | heading level content =>
    cases h
    exact ⟨rfl, rfl⟩
  | paragraph content =>
    cases h
    exact (paragraphBlock_isPlain context content).2
  | fencedCode language literal =>
    cases h
    exact (codeBlock_isPlain context.options language literal).2
  | thematicBreak =>
    cases h
    exact ⟨rfl, rfl⟩
  | list | quote | table | html => cases h

theorem nodeBlocks_of_leafKind? {kind : BlockKind} (h : leafKind? context node = some kind)
    (limit depth : Nat) : nodeBlocks (context.withLimit limit) depth node = .ok [.leaf kind] := by
  cases node with
  | heading level content =>
    cases h
    rw [nodeBlocks, compose_withLimit]
  | paragraph content =>
    cases h
    rw [nodeBlocks, paragraphBlock_withLimit, ← (paragraphBlock_isPlain context content).1]
  | fencedCode language literal =>
    cases h
    rw [nodeBlocks, ← (codeBlock_isPlain context.options language literal).1]
    rfl
  | thematicBreak =>
    cases h
    rfl
  | list | quote | table | html => cases h

/-- A kind that bears children and has nothing to do with tables. -/
def IsNesting (kind : BlockKind) : Prop :=
  kind.bearsChildren = true ∧ kind.isTable = false ∧ kind.isTableRow = false

theorem itemKind_isNesting (context : Context) (ordered : Bool) (lead : List Inline) :
    IsNesting (itemKind context ordered lead) := by
  unfold itemKind
  split
  · exact ⟨rfl, rfl, rfl⟩
  · cases ordered <;> exact ⟨rfl, rfl, rfl⟩

theorem quoteKind_isNesting (context : Context) (lead : Option (List Inline)) :
    IsNesting (quoteKind context lead) := by
  unfold quoteKind
  split <;> exact ⟨rfl, rfl, rfl⟩

/-! ### Levels -/

/-- A node without levels of its own, before the rest of its level. -/
theorem levelBlocks_flat {first : List Block} (hdepth : depth ≤ limit)
    (hnode : nodeBlocks (context.withLimit limit) depth node = .ok first)
    (hflat : nodeLevels node = 1)
    (hrest : levelBlocks (context.withLimit limit) depth rest =
      within limit (depth + treeLevels rest) blocks) :
    levelBlocks (context.withLimit limit) depth (node :: rest) =
      within limit (depth + treeLevels (node :: rest)) (first ++ blocks) := by
  have hfirst : nodeBlocks (context.withLimit limit) depth node =
      within limit (depth + 1) first := by
    rw [hnode, within_ok (by omega)]
  rw [levelBlocks, hfirst]
  refine within_bind_map (fun _ => levelBlocks (context.withLimit limit) depth rest) (· ++ ·)
    hrest ?_
  rw [treeLevels, hflat]
  omega

theorem levelBlocks_list (context : Context) (depth : Nat) (ordered : Bool) (start : Nat)
    (item : List Node) (items : List (List Node)) (rest : List Node) :
    levelBlocks context depth (.list ordered start (item :: items) :: rest) = (do
      let children ← restBlocks context (depth + 1) item
      let blocks ← levelBlocks context depth (.list ordered start items :: rest)
      pure ({ kind := itemKind context ordered ((splitLead item).1.getD [])
              children } :: blocks)) := by
  simp only [levelBlocks, nodeBlocks, itemBlocks, bind_assoc, pure_bind, List.cons_append]

theorem levelBlocks_quote (context : Context) (depth : Nat) (content rest : List Node) :
    levelBlocks context depth (.quote content :: rest) = (do
      let children ← restBlocks context (depth + 1) content
      let blocks ← levelBlocks context depth rest
      pure ({ kind := quoteKind context (splitLead content).1, children } :: blocks)) := by
  simp only [levelBlocks, nodeBlocks, bind_assoc, pure_bind, List.cons_append, List.nil_append]

theorem restBlocks_eq (context : Context) (depth : Nat) (nodes : List Node) :
    restBlocks context depth nodes =
      if (splitLead nodes).2.isEmpty then .ok []
      else if context.options.maxDepth < depth then
        .error (.depthExceeded context.options.maxDepth)
      else levelBlocks context depth (splitLead nodes).2 := by
  cases nodes with
  | nil => rfl
  | cons node rest =>
    cases node with
    | paragraph content => rfl
    | _ => rfl

theorem restBlocks_within {children : List Block} (hdepth : depth ≤ limit)
    (h : ∀ depth ≤ limit, levelBlocks (context.withLimit limit) depth (splitLead nodes).2 =
      within limit (depth + treeLevels (splitLead nodes).2) children) :
    restBlocks (context.withLimit limit) (depth + 1) nodes =
      within limit (depth + 1 + treeLevels (splitLead nodes).2) children := by
  rw [restBlocks_eq]
  cases hrest : (splitLead nodes).2 with
  | nil =>
    have hempty := h depth hdepth
    rw [hrest, within_ok (by rw [treeLevels]; omega)] at hempty
    rw [within_ok (by rw [treeLevels]; omega), ← hempty]
    rfl
  | cons node rest =>
    rw [hrest] at h
    by_cases hdeep : limit < depth + 1
    · have hpos : 0 < treeLevels (node :: rest) := treeLevels_pos (List.cons_ne_nil _ _)
      have hnot : ¬depth + 1 + treeLevels (node :: rest) ≤ limit + 1 := by omega
      rw [within, if_neg hnot]
      exact if_pos hdeep
    · rw [← h (depth + 1) (by omega)]
      exact if_neg hdeep

/-- Nodes become the same blocks under every limit that their levels fit, and exceed every other
one. -/
theorem exists_becomes (context : Context) (nodes : List Node) :
    ∃ blocks, Becomes context nodes blocks ∧ ∀ limit depth, depth ≤ limit →
      levelBlocks (context.withLimit limit) depth nodes =
        within limit (depth + treeLevels nodes) blocks := by
  induction nodes using document_induct with
  | nil =>
    refine ⟨[], .nil, fun limit depth hdepth => ?_⟩
    rw [within_ok (by rw [treeLevels]; omega), levelBlocks]
  | leaf node rest hleaf ih =>
    obtain ⟨blocks, hblocks, hrest⟩ := ih
    have hflat := nodeLevels_of_isLeaf hleaf
    cases hkind : leafKind? context node with
    | some kind =>
      refine ⟨_, .leaf hkind hblocks, fun limit depth hdepth => ?_⟩
      have hnode := nodeBlocks_of_leafKind? hkind limit depth
      exact levelBlocks_flat hdepth hnode hflat (hrest limit depth hdepth)
    | none =>
      cases node with
      | table header rows =>
        refine ⟨_, .table hblocks, fun limit depth hdepth => ?_⟩
        have hnode : nodeBlocks (context.withLimit limit) depth (.table header rows) =
            .ok [tableBlock context header rows] := by
          rw [nodeBlocks, tableBlock_withLimit]
        exact levelBlocks_flat hdepth hnode hflat (hrest limit depth hdepth)
      | html content =>
        refine ⟨_, .html hblocks, fun limit depth hdepth => ?_⟩
        have hnode : nodeBlocks (context.withLimit limit) depth (.html content) = .ok [] := rfl
        exact levelBlocks_flat hdepth hnode hflat (hrest limit depth hdepth)
      | list | quote => cases hleaf
      | heading | paragraph | fencedCode | thematicBreak => cases hkind
  | noItems ordered start rest ih =>
    obtain ⟨blocks, hblocks, hrest⟩ := ih
    refine ⟨blocks, .noItems hblocks, fun limit depth hdepth => ?_⟩
    have hnode : nodeBlocks (context.withLimit limit) depth (.list ordered start []) = .ok [] := rfl
    exact levelBlocks_flat hdepth hnode rfl (hrest limit depth hdepth)
  | item ordered start item items rest ihi ihr =>
    obtain ⟨children, hchildren, hbelow⟩ := ihi
    obtain ⟨blocks, hblocks, hrest⟩ := ihr
    refine ⟨_, .item hchildren hblocks, fun limit depth hdepth => ?_⟩
    rw [levelBlocks_list, restBlocks_within hdepth (hbelow limit), hrest limit depth hdepth,
      itemKind_withLimit]
    refine within_bind_map (fun _ => within limit _ blocks)
      (fun children blocks => { kind := itemKind context ordered ((splitLead item).1.getD [])
                                children } :: blocks) rfl ?_
    rw [treeLevels_item]
    omega
  | quote content rest ihc ihr =>
    obtain ⟨children, hchildren, hbelow⟩ := ihc
    obtain ⟨blocks, hblocks, hrest⟩ := ihr
    refine ⟨_, .quote hchildren hblocks, fun limit depth hdepth => ?_⟩
    rw [levelBlocks_quote, restBlocks_within hdepth (hbelow limit), hrest limit depth hdepth,
      quoteKind_withLimit]
    refine within_bind_map (fun _ => within limit _ blocks)
      (fun children blocks => { kind := quoteKind context (splitLead content).1
                                children } :: blocks) rfl ?_
    rw [treeLevels_quote]
    omega

end NoteBridge.Compose
