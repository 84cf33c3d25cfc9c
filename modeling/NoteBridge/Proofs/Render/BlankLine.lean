import NoteBridge.Proofs.Render.Link
import NoteBridge.Proofs.Text.Search

/-!
Blank lines in the markup of a block without children. Markers, code and escaping end no line and
stand at no text that begins or ends with a blank, so they leave blank lines as they are: a
paragraph has one inside just where the texts of its runs do. A formula stands on lines of its own
between its dollar signs, and is blank itself if it is empty.
-/

namespace NoteBridge.Render

open Markdown (HasBlankLine IsLineEnd LineStart foldlM_next?_ne_none foldlM_next?_shown)
open Page (Run Style)
open Text

variable {context : RunContext} {style : Style} {run : Run} {before after content core text plain :
  List Char} {c : Char} {start : LineStart} {lineStart : Bool}

/-- Whether two texts have the same blank lines and leave the line that they end on alike, whatever
stands in a line before them. -/
def ReadsAs (text plain : List Char) : Prop :=
  ∀ start, text.foldlM LineStart.next? start = plain.foldlM LineStart.next? start

namespace ReadsAs

theorem refl (text : List Char) : ReadsAs text text := fun _ => rfl

theorem trans {other : List Char} (h : ReadsAs text plain) (h' : ReadsAs plain other) :
    ReadsAs text other := fun start => (h start).trans (h' start)

theorem append {text' plain' : List Char} (h : ReadsAs text plain) (h' : ReadsAs text' plain') :
    ReadsAs (text ++ text') (plain ++ plain') := by
  intro start
  rw [List.foldlM_append, List.foldlM_append, h start]
  exact congrArg _ (funext h')

theorem hasBlankLine_iff (h : ReadsAs text plain) : HasBlankLine text ↔ HasBlankLine plain := by
  rw [HasBlankLine, h .shown, HasBlankLine]

end ReadsAs

/-! ### Blank lines -/

/-- Reading fails at a line feed behind a line that shows nothing, the line that was begun being one
if it showed nothing before. -/
theorem foldlM_lineStart_eq_none_iff (hreturn : '\r' ∉ text) (hstart : start ≠ .returned) :
    text.foldlM LineStart.next? start = none ↔
      (start = .blank ∧ (splitWhere (· == '\n') text).tail ≠ [] ∧
        ∀ c ∈ (splitWhere (· == '\n') text).headD [], isSpaceOrTab c = true) ∨
      ∃ line ∈ (splitWhere (· == '\n') text).tail.dropLast, ∀ c ∈ line, isSpaceOrTab c = true := by
  induction text generalizing start with
  | nil => simp [splitWhere]
  | cons c text ih =>
    obtain ⟨hc, htext⟩ := List.ne_and_not_mem_of_not_mem_cons hreturn
    obtain ⟨first, others, hsplit⟩ :=
      List.exists_cons_of_ne_nil (splitWhere_ne_nil (· == '\n') text)
    simp only [hsplit, List.tail_cons, List.headD_cons] at ih
    rw [List.foldlM_cons, splitWhere, hsplit]
    by_cases hfeed : c = '\n'
    · subst hfeed
      have hblank : LineStart.blank.next? '\n' = none := rfl
      have hshown : LineStart.shown.next? '\n' = some .blank := rfl
      have hrest := @ih .blank htext (by decide)
      cases start with
      | returned => exact absurd rfl hstart
      | blank => simp [hblank]
      | shown => cases others <;> simp [hshown, hrest]
    · have hnext : start.next? c =
          if isSpaceOrTab c ∧ start ≠ .shown then some .blank else some .shown := by
        rw [LineStart.next?, if_neg hfeed, if_neg (Ne.symm hc)]
      have hrest := @ih .blank htext (by decide)
      have hshown := @ih .shown htext (by decide)
      cases start with
      | returned => exact absurd rfl hstart
      | shown => simp [hnext, hfeed, hshown]
      | blank =>
        by_cases hspace : isSpaceOrTab c = true
        · simp [hnext, hfeed, hspace, hrest]
        · simp [hnext, hfeed, hspace, hshown]

/-- The blank lines of a text without carriage returns are lines of spaces and tabs between its
first line and its last. -/
theorem hasBlankLine_iff (hreturn : '\r' ∉ text) :
    HasBlankLine text ↔
      ∃ line ∈ (splitWhere (· == '\n') text).tail.dropLast, ∀ c ∈ line, isSpaceOrTab c = true := by
  have hstart : LineStart.shown ≠ .returned := by decide
  rw [HasBlankLine, foldlM_lineStart_eq_none_iff hreturn hstart]
  exact or_iff_right fun h => absurd h.1 (by decide)

/-! ### Texts without blanks around them -/

theorem next?_of_not_isBlank (h : ¬isBlank c) (start : LineStart) :
    start.next? c = some .shown := by
  have hne (d : Char) (hd : isBlank d = true) : c ≠ d := fun heq => h (heq ▸ hd)
  simp [LineStart.next?, isSpaceOrTab, hne '\n' rfl, hne '\r' rfl, hne ' ' rfl, hne '\t' rfl]

/-- What stands in the line before does not matter to a text that begins with no blank. -/
theorem foldlM_of_tight (h : Tight core) (start : LineStart) :
    core.foldlM LineStart.next? start = core.foldlM LineStart.next? .shown := by
  obtain ⟨c, cs, rfl⟩ := List.exists_cons_of_ne_nil h.1
  have hc : ¬isBlank c := h.head? c rfl
  rw [List.foldlM_cons, List.foldlM_cons, next?_of_not_isBlank hc, next?_of_not_isBlank hc]

theorem eq_shown_of_tight {last : LineStart} (h : Tight core)
    (hfold : core.foldlM LineStart.next? start = some last) : last = .shown := by
  have hlast : ¬isBlank (core.getLast h.1) := h.getLast? _ (List.getLast?_eq_some_getLast h.1)
  rw [← List.dropLast_append_getLast h.1, List.foldlM_append] at hfold
  obtain ⟨between, -, hfold⟩ := Option.bind_eq_some_iff.1 hfold
  rw [List.foldlM_cons, next?_of_not_isBlank hlast] at hfold
  exact (Option.some.inj hfold).symm

theorem exists_foldlM_next? (h : ∀ c ∈ before, ¬IsLineEnd c) (start : LineStart) :
    ∃ last, before.foldlM LineStart.next? start = some last :=
  Option.ne_none_iff_exists'.1 (foldlM_next?_ne_none h)

/-- Around a text without blanks at its ends, what ends no line does not matter. -/
theorem readsAs_surround (h : Tight core) (hbefore : ∀ c ∈ before, ¬IsLineEnd c)
    (hafter : ∀ c ∈ after, ¬IsLineEnd c) : ReadsAs (before ++ core ++ after) core := by
  intro start
  obtain ⟨between, hbetween⟩ := exists_foldlM_next? hbefore start
  rw [List.foldlM_append, List.foldlM_append, hbetween, Option.bind_eq_bind, Option.bind_some,
    foldlM_of_tight h between, foldlM_of_tight h start]
  -- behind its last character the text shows something, whatever it began with
  cases hcore : core.foldlM LineStart.next? .shown with
  | none => rfl
  | some last =>
    rw [eq_shown_of_tight h hcore]
    exact foldlM_next?_shown hafter

/-! ### Runs -/

theorem readsAs_literally (lineStart : Bool) (cs : List Char) :
    ReadsAs (literally lineStart cs) cs := .refl cs

theorem readsAs_escape (lineStart : Bool) (cs : List Char) : ReadsAs (escape lineStart cs) cs :=
  foldlM_next?_escapeFrom _ cs

theorem readsAs_codeSpan (h : Tight core) : ReadsAs (codeSpan core) core := by
  obtain ⟨before, after, hcode, hbefore, hafter⟩ := exists_codeSpan_surround core
  rw [hcode]
  exact readsAs_surround h hbefore hafter

theorem readsAs_decorate (h : Tight core) (htext : ReadsAs text core) :
    ReadsAs (decorate context style text) core := by
  have hsurround : ReadsAs (marksBefore context style ++ core ++ marksBehind context style) core :=
    readsAs_surround h not_isLineEnd_of_mem_marksBefore not_isLineEnd_of_mem_marksBehind
  rw [decorate_eq_marks]
  exact (((ReadsAs.refl _).append htext).append (.refl _)).trans hsurround

/-- What a run shows, with the brackets of a link or a mention and the dollar signs of a formula,
but without any markers. -/
def bareText (context : RunContext) (run : Run) : List Char :=
  match run.kind with
  | .equation => '$' :: trim run.chars ++ ['$']
  | .mention page => mentionText context page (trim run.chars)
  | .text none => run.chars
  | .text (some url) =>
    if allBlank run.chars then run.chars
    else run.chars.takeWhile isBlank ++ linkTo (some url) (trim run.chars) ++
      takeEndWhile isBlank run.chars

theorem ReadsAs.linkTo (h : ReadsAs text plain) (link : Option String) :
    ReadsAs (linkTo link text) (linkTo link plain) := by
  cases link with
  | none => exact h
  | some url =>
    have hbracket : ReadsAs ('[' :: text) ('[' :: plain) := (ReadsAs.refl ['[']).append h
    exact ((hbracket.append (.refl _)).append (.refl _)).append (.refl _)

theorem readsAs_wrap {writing : Writing} {link : Option String}
    (hwriting : ∀ start, ReadsAs (writing start (trim content)) (trim content)) :
    ReadsAs (wrap context style writing link lineStart content)
      (if allBlank content then content
      else content.takeWhile isBlank ++ linkTo link (trim content) ++
        takeEndWhile isBlank content) := by
  by_cases hcore : trim content = []
  · rw [wrap_of_trim_eq_nil hcore, if_pos (trim_eq_nil_iff.1 hcore)]
    exact .refl content
  have htight := tight_trim hcore
  rw [wrap_of_trim_ne_nil hcore, if_neg (mt trim_eq_nil_iff.2 hcore)]
  refine ((ReadsAs.refl _).append (.linkTo (readsAs_decorate htight ?_) link)).append (.refl _)
  split
  · exact readsAs_codeSpan htight
  · exact hwriting _

theorem readsAs_wrap_none {writing : Writing}
    (hwriting : ∀ start, ReadsAs (writing start (trim content)) (trim content)) :
    ReadsAs (wrap context style writing none lineStart content) content := by
  have hwrap : ReadsAs (wrap context style writing none lineStart content) _ :=
    readsAs_wrap hwriting
  split at hwrap
  · exact hwrap
  · next hshown => rwa [linkTo, takeWhile_trim_takeEndWhile (mt trim_eq_nil_iff.1 hshown)] at hwrap

/-- A run is written with the blank lines that its text has. -/
theorem readsAs_renderRun (context : RunContext) (lineStart : Bool) (run : Run) :
    ReadsAs (renderRun context lineStart run) (bareText context run) := by
  rw [renderRun, bareText]
  cases run.kind with
  | equation => exact .refl _
  | mention page => exact readsAs_wrap_none fun start => readsAs_literally start _
  | text link =>
    cases link with
    | none =>
      dsimp only
      split
      · exact readsAs_wrap_none fun start => readsAs_literally start _
      · exact readsAs_wrap_none fun start => readsAs_escape start _
    | some url => exact readsAs_wrap fun start => readsAs_escape start _

theorem readsAs_renderRunsFrom (context : RunContext) (lineStart : Bool) (runs : List Run) :
    ReadsAs (renderRunsFrom context lineStart runs) (runs.flatMap (bareText context)) := by
  induction runs generalizing lineStart with
  | nil => exact .refl []
  | cons run runs ih => exact (readsAs_renderRun context lineStart run).append (ih _)

/-- Runs have a blank line inside just where their texts do. -/
theorem hasBlankLine_renderRuns_iff (context : RunContext) (runs : List Run) :
    HasBlankLine (renderRuns context runs) ↔ HasBlankLine (runs.flatMap (bareText context)) :=
  (readsAs_renderRunsFrom context true runs).hasBlankLine_iff

/-! ### Formulas -/

/-- A formula without blanks around it has a blank line between its dollar signs where it has one
itself, and is one where it is empty. -/
theorem hasBlankLine_formula_iff (h : trim content = content) :
    HasBlankLine ("$$\n".toList ++ content ++ "\n$$".toList) ↔
      content = [] ∨ HasBlankLine content := by
  have hopen : "$$\n".toList.foldlM LineStart.next? .shown = some .blank := by decide
  rw [HasBlankLine, List.foldlM_append, List.foldlM_append, hopen]
  by_cases hnil : content = []
  · rw [hnil]
    exact iff_of_true (by decide) (.inl rfl)
  · have htight : Tight content := ⟨hnil, h⟩
    rw [Option.bind_eq_bind, Option.bind_some, foldlM_of_tight htight, or_iff_right hnil,
      HasBlankLine]
    cases hcontent : content.foldlM LineStart.next? .shown with
    | none => simp
    | some last =>
      rw [eq_shown_of_tight htight hcontent]
      exact iff_of_false (by decide) (Option.some_ne_none _)

end NoteBridge.Render
