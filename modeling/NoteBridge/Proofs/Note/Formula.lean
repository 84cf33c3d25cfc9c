import NoteBridge.Proofs.Compose.Document
import NoteBridge.Proofs.Compose.Lines
import NoteBridge.Proofs.Render.BlankLine

/-!
Formulas and paragraphs as one block of the markup. A formula has no blanks around it, whatever part
of a document it comes from, and any text without them is the formula of some document. Between its
dollar signs it is found again, but a blank line inside of it is kept, as it is in a paragraph, and
an empty one leaves nothing but a blank line.
-/

namespace NoteBridge

open Page (Block BlockKind nodesOf)
open Markdown (HasBlankLine)
open Text

/-! ### Formulas of a document -/

namespace Compose

open Markup (Inline Node)

variable {context : Context} {nodes : List Node} {blocks : List Block} {node : Node}
  {inlines : List Inline} {expression : String} {cs : List Char}

theorem trim_onString_trim (s : String) :
    trim (onString trim s).toList = (onString trim s).toList := by
  rw [onString, String.toList_ofList, trim_trim]

theorem trim_of_dollarMath? (h : dollarMath? cs = some expression) :
    trim expression.toList = expression.toList := by
  rw [dollarMath?] at h
  split at h
  · split at h
    · cases h
    · cases h
      rw [String.toList_ofList, trim_trim]
  · cases h

theorem trim_of_displayMath? (h : displayMath? inlines = some expression) :
    trim expression.toList = expression.toList := by
  rw [displayMath?] at h
  split at h
  · cases h
    exact trim_onString_trim _
  · split at h
    · exact trim_of_dollarMath? h
    · cases h

theorem trim_of_paragraphBlock (h : (paragraphBlock context inlines).kind = .equation expression) :
    trim expression.toList = expression.toList := by
  unfold paragraphBlock at h
  split at h
  · next found hfound =>
    cases h
    exact trim_of_displayMath? hfound
  · split at h
    · unfold imageBlock at h
      split at h <;> cases h
    · cases h

theorem trim_of_codeBlock {options : Options} {info : Option String} {literal : String}
    (h : (codeBlock options info literal).kind = .equation expression) :
    trim expression.toList = expression.toList := by
  unfold codeBlock at h
  dsimp only at h
  split at h
  · cases h
    exact trim_onString_trim literal
  · split at h <;> cases h

theorem trim_of_leafKind? (h : leafKind? context node = some (.equation expression)) :
    trim expression.toList = expression.toList := by
  cases node with
  | paragraph content => exact trim_of_paragraphBlock (Option.some.inj h)
  | fencedCode language literal => exact trim_of_codeBlock (Option.some.inj h)
  | _ => cases h

theorem ne_formula_of_isNesting {kind : BlockKind} (h : IsNesting kind) :
    kind ≠ .equation expression := by
  rintro rfl
  cases h.1

/-- No formula of a document has blanks around it. -/
theorem Becomes.trim_formulas (h : Becomes context nodes blocks) :
    ∀ node ∈ nodesOf blocks, ∀ expression, node.kind = .equation expression →
      trim expression.toList = expression.toList := by
  induction h with
  | nil => exact List.forall_mem_nil _
  | leaf hkind _ ih =>
    rw [Page.nodesOf_cons, List.forall_mem_cons]
    refine ⟨fun expression hformula => ?_, ih⟩
    exact trim_of_leafKind? (hkind.trans (congrArg some hformula))
  | table _ ih =>
    rw [Page.nodesOf_cons, List.forall_mem_cons, List.forall_mem_append, tableBlock,
      nodesOf_tableRows]
    refine ⟨fun expression hformula => ?_, fun node hnode expression hformula => ?_, ih⟩
    · cases hformula
    · obtain ⟨row, -, rfl⟩ := List.mem_map.1 hnode
      cases hformula
  | html _ ih => exact ih
  | noItems _ ih => exact ih
  | item _ _ ihc ihr =>
    rw [Page.nodesOf_cons, List.forall_mem_cons, List.forall_mem_append]
    exact ⟨fun expression h => absurd h (ne_formula_of_isNesting (itemKind_isNesting ..)),
      ihc, ihr⟩
  | quote _ _ ihc ihr =>
    rw [Page.nodesOf_cons, List.forall_mem_cons, List.forall_mem_append]
    exact ⟨fun expression h => absurd h (ne_formula_of_isNesting (quoteKind_isNesting ..)),
      ihc, ihr⟩

/-- A formula in a fence of its own is what stands in the fence. -/
theorem documentBlocks_formula (context : Context)
    (h : trim expression.toList = expression.toList) :
    documentBlocks context [.fencedCode (some "math") expression] =
      .ok [.leaf (.equation expression)] := by
  have hlanguage : codeLanguage (some "math") = "math" := by decide
  have htrim : onString trim expression = expression := by
    rw [onString, h, String.ofList_toList]
  have hcode : codeBlock context.options (some "math") expression =
      .leaf (.equation expression) := by
    rw [codeBlock, hlanguage, htrim]
    exact if_pos (.inl rfl)
  rw [documentBlocks, levelBlocks, nodeBlocks, hcode, levelBlocks]
  rfl

/-! ### Formulas between dollar signs -/

theorem isTextOrBreak_of_mem_lineInlines {lines : List (List Char)} {inline : Inline}
    (h : inline ∈ lineInlines lines) : isTextOrBreak inline = true := by
  induction lines with
  | nil => cases h
  | cons line rest ih =>
    cases rest with
    | nil =>
      rw [List.mem_singleton.1 h]
      rfl
    | cons next rest =>
      rcases List.mem_cons.1 h with rfl | h
      · rfl
      rcases List.mem_cons.1 h with rfl | h
      · rfl
      · exact ih h

theorem displayMath?_lineInlines (lines : List (List Char)) :
    displayMath? (lineInlines lines) = dollarMath? (join ['\n'] lines) := by
  have hplain : (lineInlines lines).all isTextOrBreak = true :=
    List.all_eq_true.2 fun _ => isTextOrBreak_of_mem_lineInlines
  rw [displayMath?]
  split
  · next literal hmath =>
    have hmem : Inline.math true literal ∈ visible (lineInlines lines) := by
      rw [hmath]
      exact List.mem_singleton_self _
    cases isTextOrBreak_of_mem_lineInlines (List.mem_of_mem_filter hmem)
  · rw [if_pos hplain, plainCharsAll_lineInlines]

theorem dollarMath?_formula (h : Tight expression.toList) :
    dollarMath? ("$$\n".toList ++ expression.toList ++ "\n$$".toList) = some expression := by
  have hmarkup : "$$\n".toList ++ expression.toList ++ "\n$$".toList =
      ['$', '$'] ++ (['\n'] ++ expression.toList ++ ['\n'] ++ ['$', '$']) := by simp
  have htrim : trim ("$$\n".toList ++ expression.toList ++ "\n$$".toList) =
      "$$\n".toList ++ expression.toList ++ "\n$$".toList := by
    refine trim_eq_self ?_ ?_
    · intro c hc
      cases hc
      decide
    · intro c hc
      rw [List.getLast?_append_of_ne_nil _ (by decide)] at hc
      cases hc
      decide
  have hinner : trim (['\n'] ++ expression.toList ++ ['\n']) = expression.toList :=
    h.trim_surround (by simp [isBlank]) (by simp [isBlank])
  rw [dollarMath?, htrim, hmarkup, after?_eq_some_iff.2 rfl, Option.bind_some,
    before?_eq_some_iff.2 rfl]
  dsimp only
  rw [hinner, String.ofList_toList]
  exact if_neg (by simpa using h.1)

end Compose

/-! ### Leaves -/

namespace Render

open Compose (displayMath? lineInlines)

/-- A paragraph without children has a blank line inside just where the texts of its runs have one.
A formula of a document, which is any text without blanks around it, has one just where it has one
itself or is empty; read as one paragraph, the lines it is written in are the formula again, unless
it is empty. -/
theorem leaf_hasBlankLine_iff (context : Context) :
    (∀ depth number id runs color,
      renderBlock context depth number ⟨id, .text .paragraph runs color, []⟩ =
        .ok (renderRuns context.runs runs) ∧
      (HasBlankLine (renderRuns context.runs runs) ↔
        HasBlankLine (runs.flatMap (bareText context.runs)))) ∧
    (∀ document blocks,
      Compose.documentBlocks ⟨context.options, context.resolver⟩ document = .ok blocks →
      ∀ node ∈ nodesOf blocks, ∀ expression, node.kind = .equation expression →
        ∃ markup, (∀ depth number, renderBlock context depth number node = .ok markup) ∧
          (HasBlankLine markup ↔ expression = "" ∨ HasBlankLine expression.toList) ∧
          (expression ≠ "" →
            displayMath? (lineInlines (splitWhere (· == '\n') markup)) = some expression)) ∧
    ∀ expression : String, trim expression.toList = expression.toList →
      Compose.documentBlocks ⟨context.options, context.resolver⟩
          [.fencedCode (some "math") expression] =
        .ok [.leaf (.equation expression)] := by
  refine ⟨fun depth number id runs color => ⟨?_, hasBlankLine_renderRuns_iff _ runs⟩,
    fun document blocks hblocks node hnode expression hformula => ?_,
    fun expression h => Compose.documentBlocks_formula _ h⟩
  · rw [renderBlock, renderLevel]
    rfl
  · have htrim := (Compose.becomes_of_documentBlocks hblocks).1.trim_formulas node hnode
      expression hformula
    refine ⟨"$$\n".toList ++ expression.toList ++ "\n$$".toList, fun depth number => ?_, ?_,
      fun hne => ?_⟩
    · obtain ⟨id, kind, children⟩ := node
      cases hformula
      rw [renderBlock, htrim]
    · rw [hasBlankLine_formula_iff htrim, String.toList_eq_nil_iff]
    · have hnil : expression.toList ≠ [] := mt String.toList_eq_nil_iff.1 hne
      rw [Compose.displayMath?_lineInlines, join_splitWhere,
        Compose.dollarMath?_formula ⟨hnil, htrim⟩]

/-- A blank line is kept in a formula and in a paragraph, and an empty formula becomes one. -/
theorem partedLeaves_hasBlankLine :
    (∀ expression ∈ ["a\n\nb", ""],
      Compose.documentBlocks ⟨{}, .empty⟩ [.fencedCode (some "math") expression] =
        .ok [.leaf (.equation expression)] ∧
      ∃ markup, renderBlock ⟨{}, .empty⟩ 0 0 (.leaf (.equation expression)) = .ok markup ∧
        HasBlankLine markup) ∧
    ∃ markup, renderBlock ⟨{}, .empty⟩ 0 0 (.paragraph [.text "a\n\nb"]) = .ok markup ∧
      HasBlankLine markup := by
  obtain ⟨hparagraph, hformula, hfence⟩ := leaf_hasBlankLine_iff ⟨{}, .empty⟩
  constructor
  · intro expression hmem
    have hcases : trim expression.toList = expression.toList ∧
        (expression = "" ∨ HasBlankLine expression.toList) :=
      (by decide : ∀ expression ∈ ["a\n\nb", ""], trim expression.toList = expression.toList ∧
        (expression = "" ∨ HasBlankLine expression.toList)) expression hmem
    have hblocks := hfence expression hcases.1
    obtain ⟨markup, hmarkup, hblank, -⟩ := hformula _ _ hblocks (.leaf (.equation expression))
      (Page.mem_nodesOf_of_mem (List.mem_singleton_self _)) expression rfl
    exact ⟨hblocks, markup, hmarkup 0 0, hblank.2 hcases.2⟩
  · obtain ⟨hmarkup, hblank⟩ := hparagraph 0 0 none [.text "a\n\nb"] .default
    exact ⟨_, hmarkup, hblank.2 (by decide)⟩

end Render
end NoteBridge
