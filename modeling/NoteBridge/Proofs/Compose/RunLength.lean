import NoteBridge.Compose.Document
import NoteBridge.Proofs.Page.Fault
import NoteBridge.Proofs.Page.RunLength

/-!
Which runs of a document's blocks can be too long. Composed text and code are cut to the limit; the
text of an image that is a block and the title of a callout are labels, which are written as they
are. So the blocks have a run above the limit exactly when the document has a label above it.
-/

namespace NoteBridge.Compose

open Markup (Inline Node Row Document)
open Page (Block BlockKind Fault Run runLimit runsOf)

/-! ### Labels -/

/-- The text that a paragraph shows as it is: that of the image it consists of, or the path of an
image that cannot be fetched. -/
def imageLabels (inlines : List Inline) : List (List Char) :=
  match displayMath? inlines, loneImage? inlines with
  | none, some (url, alt) => [if Url.isRemote url then alt.toList else url.toList]
  | _, _ => []

/-- The title of a callout. -/
def titleLabels (lead : Option (List Inline)) : List (List Char) :=
  match lead.bind calloutMarker? with
  | some marker => [marker.title]
  | none => []

mutual

def nodeLabels : Node → List (List Char)
  | .paragraph content => imageLabels content
  | .list _ _ items => itemLabels items
  | .quote children => titleLabels (splitLead children).1 ++ restLabels children
  | .heading .. | .fencedCode .. | .thematicBreak | .table .. | .html _ => []

def itemLabels : List (List Node) → List (List Char)
  | [] => []
  | item :: items => restLabels item ++ itemLabels items

/-- The labels behind a leading paragraph. -/
def restLabels : List Node → List (List Char)
  | [] => []
  | .paragraph _ :: rest => levelLabels rest
  | node :: rest => nodeLabels node ++ levelLabels rest

/-- The labels of nodes, in the order in which they are shown. -/
def levelLabels : List Node → List (List Char)
  | [] => []
  | node :: nodes => nodeLabels node ++ levelLabels nodes

end

/-- The runs fit exactly when the labels do. -/
def FitWith (runs : List Run) (labels : List (List Char)) : Prop :=
  (∀ run ∈ runs, run.Fits) ↔ ∀ label ∈ labels, label.length ≤ runLimit

theorem fitWith_nil {runs : List Run} (h : ∀ run ∈ runs, run.Fits) : FitWith runs [] :=
  ⟨fun _ => List.forall_mem_nil _, fun _ => h⟩

theorem FitWith.append {runs runs' : List Run} {labels labels' : List (List Char)}
    (h : FitWith runs labels) (h' : FitWith runs' labels') :
    FitWith (runs ++ runs') (labels ++ labels') := by
  unfold FitWith at *
  rw [List.forall_mem_append, List.forall_mem_append, h, h']

/-! ### Each kind of block -/

theorem fits_of_mem_compose {context : Context} {inlines : List Inline} {style : Page.Style} :
    ∀ run ∈ compose context inlines style, run.Fits :=
  Page.fits_of_mem_boundRuns

theorem fits_of_mem_codeRuns {style : Page.Style} {content : List Char} :
    ∀ run ∈ codeRuns style content, run.Fits := by
  intro run h
  obtain ⟨piece, hpiece, rfl⟩ := List.mem_map.1 h
  simpa using Page.length_le_runLimit hpiece

theorem queryCallout_fits {options : Options} {language query : String}
    (h : language = "dataview" ∨ language = "dataviewjs") :
    ∀ run ∈ (queryCallout options language query).runs, run.Fits := by
  intro run hrun
  rw [queryCallout, Block.runs_leaf, BlockKind.runs] at hrun
  rcases List.mem_append.1 hrun with hrun | hrun
  · have hshort : ∀ run ∈ [Run.text (language ++ queryTitleEnding) { bold := true },
        Run.text ("\n" ++ queryNotice ++ "\n")], run.Fits := by
      rcases h with rfl | rfl <;> decide
    exact hshort run hrun
  · exact fits_of_mem_codeRuns run hrun

theorem codeBlock_fits (options : Options) (info : Option String) (literal : String) :
    ∀ run ∈ (codeBlock options info literal).runs, run.Fits := by
  unfold codeBlock
  simp only
  split
  · simp
  · split
    · next h => exact queryCallout_fits h
    · simpa using fits_of_mem_codeRuns

theorem tableRow_fits (context : Context) (width : Nat) (row : Row) :
    ∀ run ∈ (tableRow context width row).runs, run.Fits := by
  intro run h
  simp only [tableRow, Block.leaf, Block.runs, BlockKind.runs, runsOf, List.append_nil] at h
  obtain ⟨cell, hcell, hrun⟩ := List.mem_flatten.1 h
  rcases List.mem_append.1 hcell with hcell | hcell
  · obtain ⟨content, -, rfl⟩ := List.mem_map.1 hcell
    exact fits_of_mem_compose run hrun
  · rw [List.eq_of_mem_replicate hcell] at hrun
    cases hrun

theorem tableBlock_fits (context : Context) (header : Option Row) (rows : List Row) :
    ∀ run ∈ (tableBlock context header rows).runs, run.Fits := by
  simp only [tableBlock, Block.runs, BlockKind.runs, List.nil_append]
  generalize header.toList ++ rows = all
  generalize max (all.head?.map List.length |>.getD 0) 1 = width
  induction all with
  | nil => exact List.forall_mem_nil _
  | cons row all ih =>
    rw [List.map_cons, runsOf, List.forall_mem_append]
    exact ⟨tableRow_fits context width row, ih⟩

theorem imageBlock_fitWith (url alt : String) :
    FitWith (imageBlock url alt).runs [if Url.isRemote url then alt.toList else url.toList] := by
  have hnotice : (Run.text localImageNotice).Fits := by decide
  unfold imageBlock FitWith
  split
  · by_cases halt : alt = ""
    · simp [halt]
    · simp [halt]
  · simp [hnotice]

theorem paragraphBlock_fitWith (context : Context) (inlines : List Inline) :
    FitWith ((paragraphBlock context inlines).runs) (imageLabels inlines) := by
  unfold paragraphBlock imageLabels
  cases displayMath? inlines with
  | some expression => exact fitWith_nil (by simp)
  | none =>
    cases loneImage? inlines with
    | some image => exact imageBlock_fitWith image.1 image.2
    | none => exact fitWith_nil (by simpa [Block.paragraph] using fits_of_mem_compose)

theorem itemKind_fits (context : Context) (ordered : Bool) (lead : List Inline) :
    ∀ run ∈ (itemKind context ordered lead).runs, run.Fits := by
  unfold itemKind
  split <;> exact fits_of_mem_compose

theorem calloutRuns_fitWith (context : Context) (marker : CalloutMarker) :
    FitWith (calloutRuns context marker) [marker.title] := by
  have hbody : FitWith (compose context marker.body) [] := fitWith_nil fits_of_mem_compose
  have hbreak : (Run.text "\n").Fits := by decide
  have hhead : FitWith (if marker.title.isEmpty then [] else
      Run.text (String.ofList marker.title) { bold := true } ::
        (if marker.body.isEmpty then [] else [Run.text "\n"])) [marker.title] := by
    unfold FitWith
    by_cases htitle : marker.title = []
    · simp [htitle]
    · by_cases hbody : marker.body.isEmpty <;> simp [htitle, hbody, hbreak]
  exact hhead.append hbody

theorem quoteKind_fitWith (context : Context) (lead : Option (List Inline)) :
    FitWith (quoteKind context lead).runs (titleLabels lead) := by
  unfold quoteKind titleLabels
  cases lead.bind calloutMarker? with
  | some marker => exact calloutRuns_fitWith context marker
  | none => exact fitWith_nil fits_of_mem_compose

/-! ### Documents -/

/-- Nodes that are mapped one after the other. -/
theorem FitWith.of_append {first rest : Except Fault (List Block)} {blocks : List Block}
    {labels labels' : List (List Char)}
    (h : (do
      let a ← first
      let b ← rest
      pure (a ++ b)) = .ok blocks)
    (hfirst : ∀ a, first = .ok a → FitWith (runsOf a) labels)
    (hrest : ∀ b, rest = .ok b → FitWith (runsOf b) labels') :
    FitWith (runsOf blocks) (labels ++ labels') := by
  obtain ⟨a, ha, h⟩ := bind_eq_ok_iff.1 h
  obtain ⟨b, hb, heq⟩ := bind_eq_ok_iff.1 h
  cases heq
  rw [Page.runsOf_append]
  exact (hfirst a ha).append (hrest b hb)

mutual

theorem nodeBlocks_fitWith {context : Context} (depth : Nat) (node : Node) {blocks : List Block}
    (h : nodeBlocks context depth node = .ok blocks) :
    FitWith (runsOf blocks) (nodeLabels node) := by
  cases node with
  | heading level content =>
    cases h
    exact fitWith_nil (by simpa using fits_of_mem_compose)
  | paragraph content =>
    cases h
    rw [Page.runsOf_single]
    exact paragraphBlock_fitWith context content
  | list ordered start items => exact itemBlocks_fitWith depth ordered items h
  | quote children =>
    obtain ⟨nested, hnested, heq⟩ := bind_eq_ok_iff.1 h
    cases heq
    rw [Page.runsOf_cons, List.append_assoc]
    exact (quoteKind_fitWith context _).append
      (by simpa [runsOf] using restBlocks_fitWith (depth + 1) children hnested)
  | fencedCode language literal =>
    cases h
    rw [Page.runsOf_single]
    exact fitWith_nil (codeBlock_fits context.options language literal)
  | thematicBreak =>
    cases h
    exact fitWith_nil (by simp)
  | table header rows =>
    cases h
    rw [Page.runsOf_single]
    exact fitWith_nil (tableBlock_fits context header rows)
  | html content =>
    cases h
    exact fitWith_nil (List.forall_mem_nil _)
termination_by structural node

theorem itemBlocks_fitWith {context : Context} (depth : Nat) (ordered : Bool)
    (items : List (List Node)) {blocks : List Block}
    (h : itemBlocks context depth ordered items = .ok blocks) :
    FitWith (runsOf blocks) (itemLabels items) := by
  cases items with
  | nil =>
    cases h
    exact fitWith_nil (List.forall_mem_nil _)
  | cons item items =>
    obtain ⟨nested, hnested, h⟩ := bind_eq_ok_iff.1 h
    obtain ⟨others, hothers, heq⟩ := bind_eq_ok_iff.1 h
    cases heq
    rw [Page.runsOf_cons]
    refine FitWith.append ?_ (itemBlocks_fitWith depth ordered items hothers)
    exact (fitWith_nil (itemKind_fits context ordered _)).append
      (restBlocks_fitWith (depth + 1) item hnested)
termination_by structural items

theorem restBlocks_fitWith {context : Context} (depth : Nat) (nodes : List Node)
    {blocks : List Block} (h : restBlocks context depth nodes = .ok blocks) :
    FitWith (runsOf blocks) (restLabels nodes) := by
  cases nodes with
  | nil =>
    cases h
    exact fitWith_nil (List.forall_mem_nil _)
  | cons node rest =>
    by_cases hlead : ∃ content, node = .paragraph content
    · obtain ⟨content, rfl⟩ := hlead
      rw [restBlocks] at h
      rw [restLabels]
      split at h
      · next hrest =>
        rw [List.isEmpty_iff.1 hrest]
        cases h
        exact fitWith_nil (List.forall_mem_nil _)
      · split at h
        · cases h
        · exact levelBlocks_fitWith depth rest h
    · have hnode : ∀ content, node ≠ .paragraph content := fun content hc => hlead ⟨content, hc⟩
      rw [restBlocks.eq_3 _ _ _ _ hnode] at h
      rw [restLabels.eq_3 _ _ hnode]
      split at h
      · cases h
      · exact .of_append h (fun _ hfirst => nodeBlocks_fitWith depth node hfirst)
          fun _ hrest => levelBlocks_fitWith depth rest hrest
termination_by structural nodes

theorem levelBlocks_fitWith {context : Context} (depth : Nat) (nodes : List Node)
    {blocks : List Block} (h : levelBlocks context depth nodes = .ok blocks) :
    FitWith (runsOf blocks) (levelLabels nodes) := by
  cases nodes with
  | nil =>
    cases h
    exact fitWith_nil (List.forall_mem_nil _)
  | cons node nodes =>
    exact .of_append h (fun _ hfirst => nodeBlocks_fitWith depth node hfirst)
      fun _ hrest => levelBlocks_fitWith depth nodes hrest
termination_by structural nodes

end

theorem documentBlocks_fitWith {context : Context} {document : Document} {blocks : List Block}
    (h : documentBlocks context document = .ok blocks) :
    FitWith (runsOf blocks) (levelLabels document) := by
  obtain ⟨blocks', hblocks, h⟩ := bind_eq_ok_iff.1 h
  obtain ⟨_, _, heq⟩ := bind_eq_ok_iff.1 h
  cases heq
  exact levelBlocks_fitWith 0 document hblocks

end NoteBridge.Compose
