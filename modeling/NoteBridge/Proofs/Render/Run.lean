import NoteBridge.Proofs.Render.Plain

/-!
Runs in the markup. The markup of a list of runs is that of its runs in order, each told whether
what stands before it ends a line. The markers of a style stand on both sides of a text, and a run
whose style has none is its text, escaped from its first character to its last.
-/

namespace NoteBridge.Render

open Page (Run Style)
open Text

variable {context : RunContext} {style : Style} {run : Run} {cs blanks content : List Char}
  {c : Char} {p : Position}

/-! ### Lists of runs -/

theorem endsLine_append (lineStart : Bool) (before text : List Char) :
    endsLine lineStart (before ++ text) = endsLine (endsLine lineStart before) text := by
  cases text using List.reverseRecOn with
  | nil => rw [List.append_nil]; rfl
  | append_singleton text c => simp [endsLine, ← List.append_assoc]

theorem renderRunsFrom_append (context : RunContext) (lineStart : Bool) (before runs : List Run) :
    renderRunsFrom context lineStart (before ++ runs) =
      renderRunsFrom context lineStart before ++ renderRunsFrom context
        (endsLine lineStart (renderRunsFrom context lineStart before)) runs := by
  induction before generalizing lineStart with
  | nil => rfl
  | cons run before ih =>
    rw [List.cons_append, renderRunsFrom, renderRunsFrom, ih, endsLine_append, List.append_assoc]

theorem renderRuns_concat (context : RunContext) (runs : List Run) (run : Run) :
    renderRuns context (runs ++ [run]) = renderRuns context runs ++
      renderRun context (endsLine true (renderRuns context runs)) run := by
  rw [renderRuns, renderRunsFrom_append]
  exact congrArg _ (List.append_nil _)

theorem renderRun_text (h : run.kind = .text none) (lineStart : Bool) :
    renderRun context lineStart run =
      wrap context run.style (if isPlaceholder run then literally else escape) none lineStart
        run.chars := by
  rw [renderRun]
  simp only [h]
  split <;> rfl

/-! ### Markers of a style -/

/-- The markers that stand before a text, those for underlining apart. -/
def styleMarks (context : RunContext) (style : Style) : List Char :=
  (if isHighlighted context style then ['=', '='] else []) ++
    (if style.bold then ['*', '*'] else []) ++ (if style.italic then ['*'] else []) ++
    (if style.strikethrough then ['~', '~'] else [])

theorem decorate_eq (context : RunContext) (style : Style) (text : List Char) :
    decorate context style text = styleMarks context style ++
      (if style.underline then underlined text else text) ++
        (styleMarks context style).reverse := by
  unfold decorate styleMarks enclose
  split_ifs <;> simp

theorem mem_styleMarks {context : RunContext} {style : Style} (h : c ∈ styleMarks context style) :
    c = '=' ∨ c = '*' ∨ c = '~' := by
  simp only [styleMarks, List.mem_append, List.mem_ite_nil_right, List.mem_cons,
    List.not_mem_nil, or_false] at h
  tauto

/-- Whether a style puts nothing around a text. -/
structure IsUnmarked (context : RunContext) (style : Style) : Prop where
  bold : style.bold = false
  italic : style.italic = false
  strikethrough : style.strikethrough = false
  underline : style.underline = false
  code : style.code = false
  highlight : isHighlighted context style = false

/-- All that stands before a text, code apart. -/
def marksBefore (context : RunContext) (style : Style) : List Char :=
  styleMarks context style ++ if style.underline then "<u>".toList else []

/-- All that stands behind a text, code apart. -/
def marksBehind (context : RunContext) (style : Style) : List Char :=
  (if style.underline then "</u>".toList else []) ++ (styleMarks context style).reverse

/-- The characters that markers consist of. -/
def markerChars : List Char := ['=', '*', '~', '<', '/', 'u', '>']

theorem mem_markerChars_of_mem_styleMarks (h : c ∈ styleMarks context style) : c ∈ markerChars := by
  rcases mem_styleMarks h with rfl | rfl | rfl <;> decide

theorem mem_markerChars_of_mem_marksBefore (h : c ∈ marksBefore context style) :
    c ∈ markerChars := by
  rcases List.mem_append.1 h with h | h
  · exact mem_markerChars_of_mem_styleMarks h
  · have htag : c = '<' ∨ c = 'u' ∨ c = '>' := by simpa using (List.mem_ite_nil_right.1 h).2
    rcases htag with rfl | rfl | rfl <;> decide

theorem mem_markerChars_of_mem_marksBehind (h : c ∈ marksBehind context style) :
    c ∈ markerChars := by
  rcases List.mem_append.1 h with h | h
  · have htag : c = '<' ∨ c = '/' ∨ c = 'u' ∨ c = '>' := by
      simpa using (List.mem_ite_nil_right.1 h).2
    rcases htag with rfl | rfl | rfl | rfl <;> decide
  · exact mem_markerChars_of_mem_styleMarks (List.mem_reverse.1 h)

theorem decorate_eq_marks (context : RunContext) (style : Style) (text : List Char) :
    decorate context style text =
      marksBefore context style ++ text ++ marksBehind context style := by
  rw [decorate_eq, marksBefore, marksBehind]
  split <;> simp [underlined]

theorem marksBefore_eq_nil_iff :
    marksBefore context style = [] ↔ styleMarks context style = [] ∧ style.underline = false := by
  simp [marksBefore]

theorem marksBehind_eq_nil_iff :
    marksBehind context style = [] ↔ marksBefore context style = [] := by
  rw [marksBefore_eq_nil_iff]
  simp [marksBehind, and_comm]

theorem isUnmarked_iff :
    IsUnmarked context style ↔ style.code = false ∧ marksBefore context style = [] := by
  rw [marksBefore_eq_nil_iff]
  constructor
  · rintro ⟨hbold, hitalic, hstrike, hline, hcode, hhighlight⟩
    exact ⟨hcode, by simp [styleMarks, hbold, hitalic, hstrike, hhighlight], hline⟩
  · rintro ⟨hcode, hmarks, hline⟩
    simp only [styleMarks, List.append_eq_nil_iff, ite_eq_right_iff, reduceCtorEq, imp_false,
      Bool.not_eq_true] at hmarks
    obtain ⟨⟨⟨hhighlight, hbold⟩, hitalic⟩, hstrike⟩ := hmarks
    exact ⟨hbold, hitalic, hstrike, hline, hcode, hhighlight⟩

theorem IsUnmarked.decorate (h : IsUnmarked context style) (text : List Char) :
    decorate context style text = text := by
  have hbefore := (isUnmarked_iff.1 h).2
  rw [decorate_eq_marks, hbefore, marksBehind_eq_nil_iff.2 hbefore, List.append_nil]
  rfl

/-- Code stands between backticks, and between spaces where it holds backticks itself. -/
theorem exists_codeSpan_eq (content : List Char) :
    ∃ before after, codeSpan content = before ++ content ++ after ∧ before ≠ [] ∧
      after.getLast? = some tick ∧ ∀ c ∈ before ++ after, c = tick ∨ c = ' ' := by
  unfold codeSpan
  split
  · exact ⟨[tick], [tick], rfl, by simp, rfl, by simp⟩
  · refine ⟨List.replicate (longestRow tick content + 1) tick ++ [' '],
      ' ' :: List.replicate (longestRow tick content + 1) tick, by simp, by simp, ?_, ?_⟩
    · rw [List.replicate_succ', ← List.cons_append, List.getLast?_concat]
    · intro c hc
      simp only [List.mem_append, List.mem_cons, List.not_mem_nil, or_false] at hc
      rcases hc with (hc | hc) | hc | hc
      · exact .inl (List.eq_of_mem_replicate hc)
      · exact .inr hc
      · exact .inr hc
      · exact .inl (List.eq_of_mem_replicate hc)

theorem codeSpan_ne_nil (content : List Char) : codeSpan content ≠ [] := by
  obtain ⟨before, after, hcode, hne, -⟩ := exists_codeSpan_eq content
  simp [hcode, hne]

/-! ### Blanks around a text -/

theorem not_mem_marks_of_isBlank (h : isBlank c = true) : c ∉ marks := by
  intro hmark
  have hall : marks.all (fun c => !isBlank c) = true := by decide
  simpa [h] using List.all_eq_true.1 hall c hmark

theorem neverEscaped_of_isBlank (h : isBlank c = true) : NeverEscaped c :=
  neverEscaped_of_not_mem_marks (not_mem_marks_of_isBlank h)

theorem wrap_of_trim_eq_nil (h : trim content = []) {writing : Writing} {link : Option String}
    (lineStart : Bool) : wrap context style writing link lineStart content = content := by
  rw [wrap, h]
  rfl

theorem wrap_of_trim_ne_nil (h : trim content ≠ []) (writing : Writing) (link : Option String)
    (lineStart : Bool) :
    wrap context style writing link lineStart content = content.takeWhile isBlank ++
      linkTo link (decorate context style
        (if style.code then codeSpan (trim content)
          else writing (lineStart || (content.takeWhile isBlank).contains '\n') (trim content))) ++
      takeEndWhile isBlank content := by
  rw [wrap, List.isEmpty_eq_false_iff.2 h]
  rfl

/-- What stands behind a text changes its escaping only where a bracket follows an exclamation
mark. -/
theorem escapeFrom_append {behind : List Char}
    (h : cs.getLast? = some '!' → behind.head? ≠ some '[') :
    escapeFrom p (cs ++ behind) =
      escapeFrom p cs ++ escapeFrom (cs.foldl Position.advance p) behind := by
  induction cs generalizing p with
  | nil => rfl
  | cons c cs ih =>
    have hneeds : needsEscape p c (cs ++ behind).head? = needsEscape p c cs.head? := by
      cases cs with
      | nil =>
        by_cases hc : c = '!'
        · have hbehind := h (congrArg some hc)
          simp [needsEscape, hbehind]
        · simp [needsEscape, hc]
      | cons d cs => rfl
    have hrest : cs.getLast? = some '!' → behind.head? ≠ some '[' := by
      intro hlast
      cases cs with
      | nil => cases hlast
      | cons d cs => exact h (by rwa [List.getLast?_cons_cons])
    rw [List.cons_append, escapeFrom, escapeFrom, hneeds, ih hrest, List.foldl_cons,
      List.append_assoc]

/-- Blanks are written as they are, and what stands behind them knows what they did to the line. -/
theorem escapeFrom_blanks_append (h : ∀ c ∈ blanks, isBlank c = true) (p : Position)
    (behind : List Char) :
    escapeFrom p (blanks ++ behind) =
      blanks ++ escapeFrom (blanks.foldl Position.advance p) behind := by
  have hlast : blanks.getLast? ≠ some '!' := fun hmark =>
    not_mem_marks_of_isBlank (h _ (List.mem_of_mem_getLast? hmark)) (by decide)
  rw [escapeFrom_append fun hmark => absurd hmark hlast,
    escapeFrom_eq_self fun c hc => neverEscaped_of_isBlank (h c hc)]

theorem foldl_advance_of_isBlank (h : ∀ c ∈ blanks, isBlank c = true) (hline : '\n' ∉ blanks) :
    blanks.foldl Position.advance { lineStart := false } = { lineStart := false } := by
  induction blanks with
  | nil => rfl
  | cons c blanks ih =>
    obtain ⟨hc, hblanks⟩ := List.forall_mem_cons.1 h
    obtain ⟨hfeed, hline⟩ := List.ne_and_not_mem_of_not_mem_cons hline
    have hnext : Position.advance { lineStart := false } c = { lineStart := false } := by
      simp [Position.advance, hfeed.symm]
    rw [List.foldl_cons, hnext, ih hblanks hline]

theorem forall_mem_takeWhile_isBlank (content : List Char) :
    ∀ c ∈ content.takeWhile isBlank, isBlank c = true := fun _ hc => List.mem_takeWhile_imp hc

/-- A text that does not begin a line is escaped with the blanks around it as without them, unless
these end a line. -/
theorem escape_trim (h : trim content ≠ []) (hline : '\n' ∉ content.takeWhile isBlank) :
    content.takeWhile isBlank ++ escape false (trim content) ++ takeEndWhile isBlank content =
      escape false content := by
  have hbefore := forall_mem_takeWhile_isBlank content
  have hafter : ∀ c ∈ takeEndWhile isBlank content, isBlank c = true := forall_mem_takeEndWhile
  have hhead : (takeEndWhile isBlank content).head? ≠ some '[' := by
    intro hbracket
    exact not_mem_marks_of_isBlank (hafter _ (List.mem_of_mem_head? hbracket)) (by decide)
  conv_rhs => rw [← takeWhile_trim_takeEndWhile h, List.append_assoc]
  rw [escape, escape, escapeFrom_blanks_append hbefore, foldl_advance_of_isBlank hbefore hline,
    escapeFrom_append fun _ => hhead,
    escapeFrom_eq_self fun c hc => neverEscaped_of_isBlank (hafter c hc), List.append_assoc]

/-! ### Bare runs -/

/-- A run of text without a link, code or markers. -/
structure IsBare (context : RunContext) (run : Run) : Prop where
  kind : run.kind = .text none
  style : IsUnmarked context run.style

/-- A bare run that stands for no reference is its text, escaped between the blanks around it. -/
theorem renderRun_of_isBare (h : IsBare context run) (hplaceholder : isPlaceholder run = false)
    (hcore : trim run.chars ≠ []) (lineStart : Bool) :
    renderRun context lineStart run = run.chars.takeWhile isBlank ++
      escape (lineStart || (run.chars.takeWhile isBlank).contains '\n') (trim run.chars) ++
        takeEndWhile isBlank run.chars := by
  rw [renderRun_text h.kind, wrap_of_trim_ne_nil hcore, hplaceholder, h.style.code,
    h.style.decorate]
  rfl

end NoteBridge.Render
