import NoteBridge.Proofs.Number.Digits
import NoteBridge.Proofs.Render.BlockMark
import NoteBridge.Proofs.Render.Run
import NoteBridge.Render.Block

/-!
Prose in the markup. Escaping is told of a run whether it begins a line, and of nothing else that
stands in the line. So a line of prose opens a block exactly where a run without markers goes on
with a line that is not empty, shows spaces, tabs and digits at most so far, and opens a block
together with what the run begins with.
-/

namespace NoteBridge.Render

open Page (Run Style)
open Text

variable {context : RunContext} {run : Run} {runs : List Run} {style : Style} {head : LineHead}
  {cs blanks more content : List Char} {c : Char} {lineStart : Bool}

/-- A run of text without link, code or highlight that stands for no reference. -/
structure IsProse (context : RunContext) (run : Run) : Prop where
  kind : run.kind = .text none
  code : run.style.code = false
  highlight : isHighlighted context run.style = false
  notPlaceholder : isPlaceholder run = false

/-- The line that a text leaves open. -/
def openLine (text : List Char) : List Char := takeEndWhile (· != '\n') text

/-! ### The open line -/

theorem openLine_concat (cs : List Char) (c : Char) :
    openLine (cs ++ [c]) = if c = '\n' then [] else openLine cs ++ [c] := by
  by_cases h : c = '\n' <;> simp [openLine, takeEndWhile, h]

theorem lineFeed_not_mem_openLine (cs : List Char) : '\n' ∉ openLine cs := fun h => by
  simpa using forall_mem_takeEndWhile _ h

theorem endsLine_iff : endsLine true cs = true ↔ openLine cs = [] := by
  induction cs using List.reverseRecOn with
  | nil => simp [endsLine, openLine, takeEndWhile]
  | append_singleton cs c _ => simp [endsLine, openLine_concat]

/-- What a text has read depends on its open line alone. -/
theorem foldlM_openLine (h : cs.foldlM LineHead.next? .blank = some head) :
    (openLine cs).foldlM LineHead.next? .blank = some head := by
  induction cs using List.reverseRecOn generalizing head with
  | nil => exact h
  | append_singleton cs c ih =>
    rw [List.foldlM_append] at h
    obtain ⟨between, hbetween, h⟩ := Option.bind_eq_some_iff.1 h
    rw [openLine_concat]
    by_cases hc : c = '\n'
    · subst hc
      simpa [LineHead.next?] using h
    · rw [if_neg hc, List.foldlM_append, ih hbetween]
      exact h

/-! ### Blanks and markers -/

theorem isAsciiDigit_eq_false_of_isBlank (h : isBlank c = true) : isAsciiDigit c = false := by
  by_contra hdigit
  exact Number.not_isBlank_of_isDigit (Bool.not_eq_false _ ▸ hdigit) h

/-- No blank opens a block, and none of them is part of a number. -/
theorem exists_next?_of_isBlank (h : isBlank c = true) (head : LineHead) :
    ∃ next, head.next? c = some next ∧ Position.Covers { lineStart := true } next := by
  have hmark := not_mem_marks_of_isBlank h
  simp only [marks, List.mem_cons, List.not_mem_nil, or_false, not_or] at hmark
  have hdigit := isAsciiDigit_eq_false_of_isBlank h
  by_cases hfeed : c = '\n'
  · exact ⟨.blank, if_pos hfeed, rfl⟩
  cases head with
  | shown => exact ⟨.shown, if_neg hfeed, covers_shown _⟩
  | ordinal => exact ⟨.shown, by simp [LineHead.next?, hfeed, hdigit, hmark], covers_shown _⟩
  | blank =>
    by_cases hspace : isSpaceOrTab c = true
    · exact ⟨.blank, by simp [LineHead.next?, hfeed, hspace], rfl⟩
    · refine ⟨.shown, ?_, covers_shown _⟩
      simp [LineHead.next?, hfeed, hspace, hdigit, isBlockMark, isLineMarker, hmark]

theorem exists_foldlM_blanks (h : ∀ c ∈ blanks, isBlank c = true)
    (hhead : Position.Covers { lineStart := true } head ∨ blanks ≠ []) :
    ∃ next, blanks.foldlM LineHead.next? head = some next ∧
      Position.Covers { lineStart := true } next := by
  induction blanks generalizing head with
  | nil => exact ⟨head, rfl, hhead.resolve_right (absurd rfl)⟩
  | cons c blanks ih =>
    obtain ⟨hc, hblanks⟩ := List.forall_mem_cons.1 h
    obtain ⟨next, hnext, hcovers⟩ := exists_next?_of_isBlank hc head
    rw [List.foldlM_cons, hnext]
    exact ih hblanks (.inl hcovers)

theorem foldlM_blanks_ne_none (h : ∀ c ∈ blanks, isBlank c = true) :
    blanks.foldlM LineHead.next? head ≠ none := by
  cases blanks with
  | nil => exact Option.some_ne_none head
  | cons c blanks =>
    have hhead : Position.Covers { lineStart := true } head ∨ c :: blanks ≠ [] :=
      .inr (List.cons_ne_nil c blanks)
    obtain ⟨next, hnext, -⟩ := exists_foldlM_blanks h hhead
    rw [hnext]
    exact Option.some_ne_none next

/-- Behind blanks that end a line, nothing belongs to the line before. -/
theorem lineFeed_not_mem_of_opens (h : ∀ c ∈ blanks, isBlank c = true)
    (hopens : head.Opens (blanks ++ more)) : '\n' ∉ blanks := by
  induction blanks generalizing head with
  | nil => exact List.not_mem_nil
  | cons c blanks ih =>
    obtain ⟨hc, hblanks⟩ := List.forall_mem_cons.1 h
    obtain ⟨next, hnext, -⟩ := exists_next?_of_isBlank hc head
    rw [List.cons_append, opens_cons_iff, hnext] at hopens
    exact List.not_mem_cons_of_ne_of_not_mem hopens.1.symm (ih hblanks (hopens.2 next rfl))

theorem foldlM_shown (h : '\n' ∉ cs) : cs.foldlM LineHead.next? .shown = some .shown := by
  induction cs with
  | nil => rfl
  | cons c cs ih =>
    obtain ⟨hc, hcs⟩ := List.ne_and_not_mem_of_not_mem_cons h
    have hnext : LineHead.shown.next? c = some .shown := if_neg hc.symm
    rw [List.foldlM_cons, hnext]
    exact ih hcs

/-- A line that goes on with an asterisk, a tilde or hypertext opens no block. -/
theorem foldlM_of_marker (hc : c = '*' ∨ c = '~' ∨ c = '<') (h : '\n' ∉ cs) :
    (c :: cs).foldlM LineHead.next? head = some .shown := by
  have hnext : head.next? c = some .shown := by
    rcases hc with rfl | rfl | rfl <;> cases head <;> rfl
  rw [List.foldlM_cons, hnext]
  exact foldlM_shown h

theorem foldlM_marks {marks : List Char} (hne : marks ≠ []) (h : '\n' ∉ marks)
    (hhead : ∀ c ∈ marks.head?, c = '*' ∨ c = '~' ∨ c = '<') :
    marks.foldlM LineHead.next? head = some .shown := by
  obtain ⟨c, cs, rfl⟩ := List.exists_cons_of_ne_nil hne
  exact foldlM_of_marker (hhead c rfl) (List.not_mem_of_not_mem_cons h)

theorem head?_marksBefore (h : isHighlighted context style = false) :
    ∀ c ∈ (marksBefore context style).head?, c = '*' ∨ c = '~' ∨ c = '<' := by
  simp only [marksBefore, styleMarks, h, Bool.false_eq_true, if_false]
  split_ifs <;> simp

theorem head?_marksBehind (h : isHighlighted context style = false) :
    ∀ c ∈ (marksBehind context style).head?, c = '*' ∨ c = '~' ∨ c = '<' := by
  simp only [marksBehind, styleMarks, h, Bool.false_eq_true, if_false]
  split_ifs <;> simp

theorem lineFeed_not_mem_marksBefore : '\n' ∉ marksBefore context style := fun h =>
  absurd (mem_markerChars_of_mem_marksBefore h) (by decide)

theorem lineFeed_not_mem_marksBehind : '\n' ∉ marksBehind context style := fun h =>
  absurd (mem_markerChars_of_mem_marksBehind h) (by decide)

/-! ### One run -/

theorem renderRun_of_trim_eq_nil (hrun : IsProse context run) (h : trim run.chars = [])
    (lineStart : Bool) : renderRun context lineStart run = run.chars := by
  rw [renderRun_text hrun.kind, wrap_of_trim_eq_nil h]

theorem renderRun_of_trim_ne_nil (hrun : IsProse context run) (h : trim run.chars ≠ [])
    (lineStart : Bool) :
    renderRun context lineStart run = run.chars.takeWhile isBlank ++
      (marksBefore context run.style ++
        escape (lineStart || (run.chars.takeWhile isBlank).contains '\n') (trim run.chars) ++
        marksBehind context run.style) ++ takeEndWhile isBlank run.chars := by
  rw [renderRun_text hrun.kind, wrap_of_trim_ne_nil h, hrun.code, hrun.notPlaceholder,
    decorate_eq_marks]
  rfl

/-- Markers end the beginning of a line, so a run with markers opens no block. -/
theorem foldlM_renderRun_of_marked (hrun : IsProse context run)
    (hmarked : ¬IsUnmarked context run.style) :
    (renderRun context lineStart run).foldlM LineHead.next? head ≠ none := by
  by_cases hcore : trim run.chars = []
  · rw [renderRun_of_trim_eq_nil hrun hcore]
    exact foldlM_blanks_ne_none (forall_isBlank_of_trim hcore)
  have hleading : ∃ between, (run.chars.takeWhile isBlank).foldlM LineHead.next? head =
      some between := Option.ne_none_iff_exists'.1
    (foldlM_blanks_ne_none (forall_mem_takeWhile_isBlank run.chars))
  obtain ⟨between, hleading⟩ := hleading
  -- both rows of markers show something, so the text in between and what follows open nothing
  have hbefore : marksBefore context run.style ≠ [] := fun hnil =>
    hmarked (isUnmarked_iff.2 ⟨hrun.code, hnil⟩)
  have hbehind : marksBehind context run.style ≠ [] := mt marksBehind_eq_nil_iff.1 hbefore
  obtain ⟨last, hescaped⟩ := exists_foldlM_escapeFrom
    (covers_shown { lineStart := lineStart || (run.chars.takeWhile isBlank).contains '\n' })
    (trim run.chars)
  have hmarksBefore : (marksBefore context run.style).foldlM LineHead.next? between =
      some .shown :=
    foldlM_marks hbefore lineFeed_not_mem_marksBefore (head?_marksBefore hrun.highlight)
  have hmarksBehind : (marksBehind context run.style).foldlM LineHead.next? last =
      some .shown :=
    foldlM_marks hbehind lineFeed_not_mem_marksBehind (head?_marksBehind hrun.highlight)
  rw [renderRun_of_trim_ne_nil hrun hcore, escape]
  simp only [List.foldlM_append, hleading, hmarksBefore, hescaped, hmarksBehind,
    Option.bind_eq_bind, Option.bind_some]
  exact foldlM_blanks_ne_none forall_mem_takeEndWhile

/-- A run that begins a line, or has a line break among its leading blanks, opens no block. -/
theorem foldlM_renderRun_of_lineStart (hrun : IsProse context run)
    (hcore : trim run.chars ≠ []) (hunmarked : IsUnmarked context run.style)
    (hstart : lineStart = true → head = .blank)
    (hflag : (lineStart || (run.chars.takeWhile isBlank).contains '\n') = true) :
    (renderRun context lineStart run).foldlM LineHead.next? head ≠ none := by
  have hhead : Position.Covers { lineStart := true } head ∨ run.chars.takeWhile isBlank ≠ [] := by
    rcases Bool.or_eq_true _ _ ▸ hflag with h | h
    · rw [hstart h]
      exact .inl rfl
    · exact .inr fun hnil => by simp [hnil] at h
  obtain ⟨between, hleading, hcovers⟩ :=
    exists_foldlM_blanks (forall_mem_takeWhile_isBlank run.chars) hhead
  obtain ⟨last, hescaped⟩ := exists_foldlM_escapeFrom hcovers (trim run.chars)
  rw [renderRun_of_isBare ⟨hrun.kind, hunmarked⟩ hrun.notPlaceholder hcore, hflag, escape]
  simp only [List.foldlM_append, hleading, hescaped, Option.bind_eq_bind, Option.bind_some]
  exact foldlM_blanks_ne_none forall_mem_takeEndWhile

theorem not_opens_of_lineFeed (h : '\n' ∈ content.takeWhile isBlank) :
    ¬head.Opens (escape false content) := by
  have hblank := forall_mem_takeWhile_isBlank content
  rw [← List.takeWhile_append_dropWhile (p := isBlank) (l := content), escape,
    escapeFrom_blanks_append hblank]
  exact fun hopens => lineFeed_not_mem_of_opens hblank hopens h

/-- Within a line, a run without markers opens a block as its text does, escaped as text that does
not begin a line. No other run opens one. -/
theorem foldlM_renderRun_eq_none_iff (hrun : IsProse context run)
    (hstart : lineStart = true → head = .blank) :
    (renderRun context lineStart run).foldlM LineHead.next? head = none ↔
      lineStart = false ∧ IsUnmarked context run.style ∧
        head.Opens (escape false run.chars) := by
  by_cases hunmarked : IsUnmarked context run.style
  swap
  · exact iff_of_false (foldlM_renderRun_of_marked hrun hunmarked) fun h => hunmarked h.2.1
  have hopens : head.Opens (escape false run.chars) ↔
      (escape false run.chars).foldlM LineHead.next? head = none :=
    foldlM_escapeFrom_eq_none_iff.symm
  rw [and_iff_right hunmarked]
  by_cases hcore : trim run.chars = []
  · have hblank := forall_isBlank_of_trim hcore
    have hself : escape false run.chars = run.chars :=
      escapeFrom_eq_self (fun c hc => neverEscaped_of_isBlank (hblank c hc)) _
    rw [hopens, hself, renderRun_of_trim_eq_nil hrun hcore]
    exact iff_of_false (foldlM_blanks_ne_none hblank) fun h => foldlM_blanks_ne_none hblank h.2
  -- escaping was told of a line start, by the run's place or by its own blanks, or it was not
  cases hflag : (lineStart || (run.chars.takeWhile isBlank).contains '\n') with
  | true =>
    refine iff_of_false (foldlM_renderRun_of_lineStart hrun hcore hunmarked hstart hflag) ?_
    rintro ⟨rfl, hfalse⟩
    exact not_opens_of_lineFeed (by simpa using hflag) hfalse
  | false =>
    obtain ⟨rfl, hline⟩ := Bool.or_eq_false_iff.1 hflag
    rw [renderRun_of_isBare ⟨hrun.kind, hunmarked⟩ hrun.notPlaceholder hcore, hflag,
      escape_trim hcore (by simpa using hline), hopens]
    exact (and_iff_right rfl).symm

/-! ### All runs -/

theorem foldlM_renderRuns_append {before : List Run}
    (h : (renderRuns context before).foldlM LineHead.next? .blank = none) (after : List Run) :
    (renderRuns context (before ++ after)).foldlM LineHead.next? .blank = none := by
  rw [renderRuns, renderRunsFrom_append, List.foldlM_append]
  exact Option.bind_eq_none_iff.2 fun head hhead => by cases h.symm.trans hhead

/-- Some run is the first to open a block. -/
theorem exists_first_opening
    (h : (renderRuns context runs).foldlM LineHead.next? .blank = none) :
    ∃ before run after head, runs = before ++ run :: after ∧
      (renderRuns context before).foldlM LineHead.next? .blank = some head ∧
      (renderRuns context (before ++ [run])).foldlM LineHead.next? .blank = none := by
  induction runs using List.reverseRecOn with
  | nil => cases h
  | append_singleton runs last ih =>
    cases hruns : (renderRuns context runs).foldlM LineHead.next? .blank with
    | some head => exact ⟨runs, last, [], head, rfl, hruns, h⟩
    | none =>
      obtain ⟨before, run, after, head, rfl, hbefore, hopens⟩ := ih hruns
      exact ⟨before, run, after ++ [last], head, List.append_assoc .., hbefore, hopens⟩

/-- A run behind runs that open no block opens one together with the line they leave open. -/
theorem foldlM_renderRuns_concat {before : List Run} (hrun : IsProse context run)
    (h : (renderRuns context before).foldlM LineHead.next? .blank = some head) :
    (renderRuns context (before ++ [run])).foldlM LineHead.next? .blank = none ↔
      IsUnmarked context run.style ∧ openLine (renderRuns context before) ≠ [] ∧
        OpensBlock (openLine (renderRuns context before) ++ escape false run.chars) := by
  have hopen := foldlM_openLine h
  have hopens : LineHead.blank.Opens (openLine (renderRuns context before) ++
      escape false run.chars) ↔ head.Opens (escape false run.chars) :=
    opens_append_iff (lineFeed_not_mem_openLine _) hopen
  have hstart : endsLine true (renderRuns context before) = true → head = .blank := fun hends => by
    rw [endsLine_iff.1 hends] at hopen
    exact (Option.some.inj hopen).symm
  have hends : endsLine true (renderRuns context before) = false ↔
      openLine (renderRuns context before) ≠ [] := by
    rw [← Bool.not_eq_true, endsLine_iff]
  rw [renderRuns_concat, List.foldlM_append, h, Option.bind_eq_bind, Option.bind_some,
    foldlM_renderRun_eq_none_iff hrun hstart, hends, ← hopens]
  exact and_left_comm

/-- Some line of prose opens a block exactly where a run without markers goes on with a line, and
what it shows opens one together with the line so far. -/
theorem prose_opensBlock_iff (h : ∀ run ∈ runs, IsProse context run) :
    (∃ line ∈ splitWhere (· == '\n') (renderRuns context runs), OpensBlock line) ↔
      ∃ before run after, runs = before ++ run :: after ∧ IsUnmarked context run.style ∧
        openLine (renderRuns context before) ≠ [] ∧
        OpensBlock (openLine (renderRuns context before) ++ escape false run.chars) := by
  rw [exists_opensBlock_iff]
  constructor
  · intro hopens
    obtain ⟨before, run, after, head, rfl, hbefore, hopens⟩ := exists_first_opening hopens
    have hrun := h run (List.mem_append_cons_self)
    exact ⟨before, run, after, rfl, (foldlM_renderRuns_concat hrun hbefore).1 hopens⟩
  · rintro ⟨before, run, after, rfl, hopens⟩
    have hrun := h run (List.mem_append_cons_self)
    cases hbefore : (renderRuns context before).foldlM LineHead.next? .blank with
    | none => exact foldlM_renderRuns_append hbefore _
    | some head =>
      have hnone := (foldlM_renderRuns_concat hrun hbefore).2 hopens
      simpa using foldlM_renderRuns_append hnone after

/-- Coloured text behind a space, in a color without markup. -/
def spacedNumberSign : List Run :=
  [.text " ", .text "# x" { color := .letters .blue }]

/-- A number sign behind a run of one space opens a heading. -/
theorem spacedNumberSign_opensBlock :
    (∀ run ∈ spacedNumberSign, IsProse (Context.runs ⟨{}, .empty⟩) run) ∧
      ∃ line ∈ splitWhere (· == '\n') (renderRuns (Context.runs ⟨{}, .empty⟩) spacedNumberSign),
        OpensBlock line := by
  have hprose : ∀ run ∈ spacedNumberSign, IsProse (Context.runs ⟨{}, .empty⟩) run := by
    simp only [spacedNumberSign, List.forall_mem_cons, List.not_mem_nil, false_imp_iff,
      implies_true, and_true]
    exact ⟨⟨rfl, rfl, by decide, by decide⟩, ⟨rfl, rfl, by decide, by decide⟩⟩
  refine ⟨hprose, (prose_opensBlock_iff hprose).2 ⟨[.text " "], _, [], rfl, ?_, ?_, ?_⟩⟩
  · exact ⟨rfl, rfl, rfl, rfl, rfl, by decide⟩
  · decide
  · exact ⟨'#', by decide, .inl rfl⟩

end NoteBridge.Render
