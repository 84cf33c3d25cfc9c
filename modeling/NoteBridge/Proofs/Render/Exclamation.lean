import NoteBridge.Proofs.Markup.CrossRef
import NoteBridge.Proofs.Render.Link

/-!
Exclamation marks in front of brackets. Escaping looks ahead within one run, while the bracket of a
link or a mention comes with the next one. So an exclamation mark stands unescaped in front of such
a bracket exactly where it ends a text without markers or a link, and the link or the mention that
follows begins with its bracket.
-/

namespace NoteBridge.Render

open Markup.WikiLink (enclosed tight_enclosed)
open Page (Run Style)
open Text

variable {context : RunContext} {run : Run} {runs before : List Run} {style : Style}
  {text behind content cs : List Char} {c : Char} {p : Position} {lineStart : Bool}

/-- Whether a text leaves the character behind it escaped: reading on, a backslash escapes the next
character unless it is escaped itself. -/
def escapesNext (text : List Char) : Bool :=
  text.foldl (fun escaping c => !escaping && c == '\\') false

/-- Whether a text ends with an exclamation mark that is not escaped. -/
def EndsWithExclamation (text : List Char) : Prop :=
  ∃ before, text = before ++ ['!'] ∧ escapesNext before = false

/-- Whether a text ends neither with a backslash nor with an exclamation mark. -/
def IsClosed (text : List Char) : Prop := ∀ c ∈ text.getLast?, c ≠ '\\' ∧ c ≠ '!'

/-! ### Ends of texts -/

theorem escapesNext_concat (text : List Char) (c : Char) :
    escapesNext (text ++ [c]) = (!escapesNext text && c == '\\') := by
  simp [escapesNext]

theorem escapesNext_append (h : escapesNext text = false) (behind : List Char) :
    escapesNext (text ++ behind) = escapesNext behind := by
  rw [escapesNext, List.foldl_append]
  exact congrArg (behind.foldl _) h

theorem endsWithExclamation_concat :
    EndsWithExclamation (text ++ [c]) ↔ c = '!' ∧ escapesNext text = false := by
  simp [EndsWithExclamation, and_assoc]

theorem not_endsWithExclamation_nil : ¬EndsWithExclamation [] := by
  simp [EndsWithExclamation]

/-- Behind a text that escapes nothing, only what follows it counts. -/
theorem endsWithExclamation_append (h : escapesNext text = false) (hne : behind ≠ []) :
    EndsWithExclamation (text ++ behind) ↔ EndsWithExclamation behind := by
  induction behind using List.reverseRecOn with
  | nil => exact absurd rfl hne
  | append_singleton behind c _ =>
    rw [← List.append_assoc, endsWithExclamation_concat, endsWithExclamation_concat,
      escapesNext_append h]

namespace IsClosed

theorem escapesNext (h : IsClosed text) : escapesNext text = false := by
  induction text using List.reverseRecOn with
  | nil => rfl
  | append_singleton text c _ =>
    have hc : c ≠ '\\' := (h c (by simp)).1
    simp [escapesNext_concat, hc]

theorem not_endsWithExclamation (h : IsClosed text) : ¬EndsWithExclamation text := by
  rintro ⟨before, rfl, -⟩
  exact (h '!' (by simp)).2 rfl

theorem concat (text : List Char) (hbackslash : c ≠ '\\') (hmark : c ≠ '!') :
    IsClosed (text ++ [c]) := by
  simp [IsClosed, hbackslash, hmark]

theorem append_of_ne_nil (text : List Char) (h : IsClosed behind) (hne : behind ≠ []) :
    IsClosed (text ++ behind) := by
  rwa [IsClosed, List.getLast?_append_of_ne_nil _ hne]

theorem append (htext : IsClosed text) (hbehind : IsClosed behind) :
    IsClosed (text ++ behind) := by
  by_cases hne : behind = []
  · rwa [hne, List.append_nil]
  · exact append_of_ne_nil text hbehind hne

theorem of_isBlank (h : ∀ c ∈ text, isBlank c = true) : IsClosed text := by
  intro c hc
  have hmark := not_mem_marks_of_isBlank (h c (List.mem_of_mem_getLast? hc))
  constructor <;> rintro rfl <;> exact hmark (by decide)

end IsClosed

/-! ### Escaped text -/

theorem escapesNext_written (p : Position) (c : Char) (next : Option Char) :
    escapesNext (if needsEscape p c next then ['\\', c] else [c]) = false := by
  split
  · rfl
  · next hescape =>
    have hc : c ≠ '\\' := by
      rintro rfl
      exact hescape rfl
    simp [escapesNext, hc]

theorem escapesNext_escapeFrom (p : Position) (cs : List Char) :
    escapesNext (escapeFrom p cs) = false := by
  induction cs generalizing p with
  | nil => rfl
  | cons c cs ih => rw [escapeFrom, escapesNext_append (escapesNext_written ..), ih]

theorem escapeFrom_eq_nil_iff : escapeFrom p cs = [] ↔ cs = [] := by
  cases cs with
  | nil => simp [escapeFrom]
  | cons c cs =>
    rw [escapeFrom]
    split <;> simp

/-- An exclamation mark is only escaped where the text goes on behind it. -/
theorem endsWithExclamation_written :
    EndsWithExclamation (if needsEscape p c none then ['\\', c] else [c]) ↔ c = '!' := by
  by_cases hc : c = '!'
  · subst hc
    have hbare : needsEscape p '!' none = false := by
      simp [needsEscape, isAlwaysEscaped, isLineMarker]
    rw [hbare]
    exact iff_of_true ⟨[], rfl, rfl⟩ rfl
  · have hends (text : List Char) : ¬EndsWithExclamation (text ++ [c]) := fun h =>
      hc (endsWithExclamation_concat.1 h).1
    refine iff_of_false ?_ hc
    split
    · exact hends ['\\']
    · exact hends []

theorem endsWithExclamation_escapeFrom_iff :
    EndsWithExclamation (escapeFrom p cs) ↔ cs.getLast? = some '!' := by
  induction cs generalizing p with
  | nil => simp [escapeFrom, not_endsWithExclamation_nil]
  | cons c cs ih =>
    rw [escapeFrom]
    cases cs with
    | nil =>
      rw [escapeFrom, List.append_nil]
      exact endsWithExclamation_written.trans (by simp)
    | cons d cs =>
      have hne : escapeFrom (p.advance c) (d :: cs) ≠ [] :=
        mt escapeFrom_eq_nil_iff.1 (List.cons_ne_nil d cs)
      rw [List.getLast?_cons_cons]
      exact (endsWithExclamation_append (escapesNext_written ..) hne).trans ih

/-! ### Runs -/

theorem isClosed_codeSpan (content : List Char) : IsClosed (codeSpan content) := by
  obtain ⟨before, after, hcode, -, hlast, -⟩ := exists_codeSpan_eq content
  obtain ⟨ticks, rfl⟩ := List.getLast?_eq_some_iff.1 hlast
  rw [hcode, ← List.append_assoc]
  exact .concat _ (by decide) (by decide)

theorem isClosed_of_forall_mem_markerChars (h : ∀ c ∈ text, c ∈ markerChars) :
    IsClosed text := by
  intro c hc
  have hmarker := h c (List.mem_of_mem_getLast? hc)
  constructor <;> rintro rfl <;> exact absurd hmarker (by decide)

theorem isClosed_marksBefore : IsClosed (marksBefore context style) :=
  isClosed_of_forall_mem_markerChars fun _ => mem_markerChars_of_mem_marksBefore

theorem isClosed_marksBehind : IsClosed (marksBehind context style) :=
  isClosed_of_forall_mem_markerChars fun _ => mem_markerChars_of_mem_marksBehind

/-- Code and markers close a text, and so does a link. -/
theorem isClosed_wrap {writing : Writing} {link : Option String}
    (h : link = none → IsUnmarked context style →
      ∀ start, IsClosed (writing start (trim content))) :
    IsClosed (wrap context style writing link lineStart content) := by
  by_cases hcore : trim content = []
  · rw [wrap_of_trim_eq_nil hcore]
    exact .of_isBlank (forall_isBlank_of_trim hcore)
  rw [wrap_of_trim_ne_nil hcore]
  refine .append (.append (.of_isBlank (forall_mem_takeWhile_isBlank content)) ?_)
    (.of_isBlank forall_mem_takeEndWhile)
  cases link with
  | some url => exact .concat _ (by decide) (by decide)
  | none =>
    rw [linkTo, decorate_eq_marks]
    by_cases hbehind : marksBehind context style = []
    · rw [hbehind, List.append_nil]
      have hbefore := marksBehind_eq_nil_iff.1 hbehind
      rw [hbefore, List.nil_append]
      cases hcode : style.code with
      | true => exact isClosed_codeSpan _
      | false => exact h rfl (isUnmarked_iff.2 ⟨hcode, hbefore⟩) _
    · exact .append_of_ne_nil _ isClosed_marksBehind hbehind

theorem isClosed_bracketed (inner : List Char) : IsClosed (inner ++ [']', ']']) :=
  .append_of_ne_nil _ (by simp [IsClosed]) (List.cons_ne_nil _ _)

theorem exists_mentionText_eq (context : RunContext) (page : String) (shown : List Char) :
    ∃ inner, mentionText context page shown = enclosed inner := ⟨_, rfl⟩

theorem isClosed_of_isPlaceholder (h : isPlaceholder run = true) : IsClosed (trim run.chars) := by
  simp only [isPlaceholder, Bool.and_eq_true, endsWith, List.isPrefixOf_iff_prefix] at h
  obtain ⟨before, hbefore⟩ := h.2
  have hcore : trim run.chars = before.reverse ++ [']', ']'] := by
    rw [← List.reverse_reverse (trim run.chars), ← hbefore]
    simp
  rw [hcore]
  exact isClosed_bracketed _

theorem isClosed_chars_of_isPlaceholder (h : isPlaceholder run = true) : IsClosed run.chars := by
  have hcore := isClosed_of_isPlaceholder h
  have hne : trim run.chars ≠ [] := fun hnil => by simp [isPlaceholder, hnil] at h
  rw [← takeWhile_trim_takeEndWhile hne]
  exact .append (.append (.of_isBlank (forall_mem_takeWhile_isBlank run.chars)) hcore)
    (.of_isBlank forall_mem_takeEndWhile)

/-- Only what is written as it is can end with an exclamation mark. -/
theorem isClosed_renderRun (h : IsBare context run → isPlaceholder run = true) :
    IsClosed (renderRun context lineStart run) := by
  rw [renderRun]
  split
  · exact .concat _ (by decide) (by decide)
  · next page _ =>
    refine isClosed_wrap fun _ _ _ => ?_
    obtain ⟨inner, hinner⟩ := exists_mentionText_eq context page (trim run.chars)
    rw [hinner, literally, (tight_enclosed inner).2]
    exact isClosed_bracketed _
  · next hkind =>
    split
    · next hplaceholder => exact isClosed_wrap fun _ _ _ => isClosed_of_isPlaceholder hplaceholder
    · next hplaceholder =>
      exact isClosed_wrap fun _ hstyle _ => absurd (h ⟨hkind, hstyle⟩) hplaceholder
  · exact isClosed_wrap fun hnone => absurd hnone (Option.some_ne_none _)

theorem IsClosed.getLast?_ne (h : IsClosed text) : text.getLast? ≠ some '!' := fun hlast =>
  (h '!' hlast).2 rfl

/-- A text with blanks around it ends with an exclamation mark as it is written. -/
theorem blanks_escape_ends (h : trim content ≠ []) (lineStart : Bool) :
    escapesNext (content.takeWhile isBlank ++ escape lineStart (trim content) ++
        takeEndWhile isBlank content) = false ∧
      (EndsWithExclamation (content.takeWhile isBlank ++ escape lineStart (trim content) ++
          takeEndWhile isBlank content) ↔ content.getLast? = some '!') := by
  have hleading : IsClosed (content.takeWhile isBlank) :=
    .of_isBlank (forall_mem_takeWhile_isBlank content)
  have htrailing : IsClosed (takeEndWhile isBlank content) :=
    .of_isBlank forall_mem_takeEndWhile
  have hcontent := takeWhile_trim_takeEndWhile h
  have hescaped : escape lineStart (trim content) ≠ [] := mt escapeFrom_eq_nil_iff.1 h
  -- a blank at the end closes the text, so the mark counts only where there is none
  by_cases hnone : takeEndWhile isBlank content = []
  · rw [hnone, List.append_nil] at hcontent ⊢
    have hlast : content.getLast? = (trim content).getLast? := by
      rw [← List.getLast?_append_of_ne_nil _ h, hcontent]
    rw [escapesNext_append hleading.escapesNext, endsWithExclamation_append hleading.escapesNext
      hescaped, hlast]
    exact ⟨escapesNext_escapeFrom .., endsWithExclamation_escapeFrom_iff⟩
  · have hwritten := htrailing.append_of_ne_nil
      (content.takeWhile isBlank ++ escape lineStart (trim content)) hnone
    have hends : IsClosed content := hcontent ▸ htrailing.append_of_ne_nil _ hnone
    exact ⟨hwritten.escapesNext, iff_of_false hwritten.not_endsWithExclamation hends.getLast?_ne⟩

/-- No run leaves a backslash that would escape what follows it, and a run that ends with an
exclamation mark is written with it at its end. -/
theorem renderRun_ends (context : RunContext) (lineStart : Bool) (run : Run) :
    escapesNext (renderRun context lineStart run) = false ∧
      (EndsWithExclamation (renderRun context lineStart run) ↔
        IsBare context run ∧ run.chars.getLast? = some '!') := by
  by_cases hplain : IsBare context run → isPlaceholder run = true
  · have hclosed : IsClosed (renderRun context lineStart run) := isClosed_renderRun hplain
    refine ⟨hclosed.escapesNext, iff_of_false hclosed.not_endsWithExclamation ?_⟩
    rintro ⟨hbare, hlast⟩
    exact (isClosed_chars_of_isPlaceholder (hplain hbare)).getLast?_ne hlast
  obtain ⟨hbare, hplaceholder⟩ := not_forall.1 hplain
  rw [and_iff_right hbare]
  by_cases hcore : trim run.chars = []
  · have hblank : IsClosed run.chars := .of_isBlank (forall_isBlank_of_trim hcore)
    rw [renderRun_text hbare.kind, wrap_of_trim_eq_nil hcore]
    exact ⟨hblank.escapesNext, iff_of_false hblank.not_endsWithExclamation hblank.getLast?_ne⟩
  · rw [renderRun_of_isBare hbare (Bool.not_eq_true _ ▸ hplaceholder) hcore]
    exact blanks_escape_ends hcore _

/-! ### Lists of runs -/

/-- Whether a run is written at all. Only a text without characters is not. -/
def isWritten (run : Run) : Bool := !run.isText || !run.chars.isEmpty

theorem wrap_eq_nil_iff {writing : Writing} {link : Option String}
    (h : ∀ start, writing start (trim content) = [] → trim content = []) :
    wrap context style writing link lineStart content = [] ↔ content = [] := by
  constructor
  · by_cases hcore : trim content = []
    · rw [wrap_of_trim_eq_nil hcore]
      exact id
    rw [wrap_of_trim_ne_nil hcore, List.append_eq_nil_iff, List.append_eq_nil_iff]
    rintro ⟨⟨-, hlinked⟩, -⟩
    cases link with
    | some url => cases hlinked
    | none =>
      rw [linkTo, decorate_eq_marks, List.append_eq_nil_iff, List.append_eq_nil_iff] at hlinked
      have htext := hlinked.1.2
      split at htext
      · exact absurd htext (codeSpan_ne_nil _)
      · exact absurd (h _ htext) hcore
  · rintro rfl
    exact wrap_of_trim_eq_nil rfl lineStart

theorem renderRun_eq_nil_iff : renderRun context lineStart run = [] ↔ isWritten run = false := by
  have hescape (start : Bool) : escape start (trim run.chars) = [] → trim run.chars = [] :=
    escapeFrom_eq_nil_iff.1
  rw [renderRun, isWritten, Run.isText]
  split
  · next hkind => simp [hkind]
  · next page hkind =>
    rw [wrap_eq_nil_iff fun _ => id]
    simp [hkind, mentionText]
  · next hkind =>
    have hchars : run.chars = [] ↔ (!true || !run.chars.isEmpty) = false := by simp
    rw [hkind]
    split
    · exact (wrap_eq_nil_iff fun _ => id).trans hchars
    · exact (wrap_eq_nil_iff hescape).trans hchars
  · next url hkind =>
    rw [hkind, wrap_eq_nil_iff hescape]
    simp

/-- The markup of a list of runs ends as that of the last one that is written. -/
theorem renderRuns_ends (context : RunContext) (runs : List Run) :
    escapesNext (renderRuns context runs) = false ∧
      (EndsWithExclamation (renderRuns context runs) ↔
        ∃ last ∈ (runs.filter isWritten).getLast?,
          IsBare context last ∧ last.chars.getLast? = some '!') := by
  induction runs using List.reverseRecOn with
  | nil =>
    have hnil : renderRuns context [] = [] := rfl
    rw [hnil]
    exact ⟨rfl, iff_of_false not_endsWithExclamation_nil (by simp)⟩
  | append_singleton runs last ih =>
    obtain ⟨hescapes, hends⟩ := ih
    obtain ⟨hlast, hiff⟩ := renderRun_ends context (endsLine true (renderRuns context runs)) last
    rw [renderRuns_concat, escapesNext_append hescapes, and_iff_right hlast, List.filter_append]
    cases hwritten : isWritten last with
    | false =>
      rw [renderRun_eq_nil_iff.2 hwritten, List.append_nil, hends]
      simp [hwritten]
    | true =>
      have hne : renderRun context (endsLine true (renderRuns context runs)) last ≠ [] := by
        rw [Ne, renderRun_eq_nil_iff, hwritten]
        exact nofun
      rw [endsWithExclamation_append hescapes hne, hiff]
      simp [hwritten]

/-! ### Brackets -/

/-- Whether a run is written with a bracket: a mention, or a link with a text. -/
def OpensBracket (run : Run) : Prop :=
  (∃ page, run.kind = .mention page) ∨
    ∃ url, run.kind = .text (some url) ∧ allBlank run.chars = false

/-- Whether what is written of such a run begins with the bracket: no blank stands before a link,
and no marker before a mention. -/
def BeginsWithBracket (context : RunContext) (run : Run) : Prop :=
  match run.kind with
  | .mention _ => IsUnmarked context run.style
  | _ => run.chars.takeWhile isBlank = []

theorem bracket_not_mem_marksBefore : '[' ∉ marksBefore context style := fun h =>
  absurd (mem_markerChars_of_mem_marksBefore h) (by decide)

theorem renderRun_mention (context : RunContext) {page : String}
    (h : run.kind = .mention page) (lineStart : Bool) :
    ∃ inner, renderRun context lineStart run = marksBefore context run.style ++
      (if run.style.code then codeSpan (enclosed inner) else enclosed inner) ++
        marksBehind context run.style := by
  obtain ⟨inner, hinner⟩ := exists_mentionText_eq context page (trim run.chars)
  have htight := tight_enclosed inner
  have hcore : trim (enclosed inner) ≠ [] := by
    rw [htight.2]
    exact htight.1
  refine ⟨inner, ?_⟩
  rw [renderRun, ← decorate_eq_marks]
  simp only [h, hinner]
  rw [wrap_of_trim_ne_nil hcore, htight.takeWhile_isBlank, htight.takeEndWhile_isBlank, htight.2]
  simp [linkTo, literally]

/-- What stands before a reference, as code or as it is. -/
theorem exists_referenceText_eq (inner : List Char) (code : Bool) :
    ∃ lead rest, (if code then codeSpan (enclosed inner) else enclosed inner) =
        lead ++ '[' :: rest ∧ '[' ∉ lead ∧ IsClosed lead ∧ (lead = [] ↔ code = false) := by
  cases code with
  | false => exact ⟨[], _, rfl, List.not_mem_nil, .of_isBlank (List.forall_mem_nil _), by simp⟩
  | true =>
    obtain ⟨before, after, hcode, hne, -, hticks⟩ := exists_codeSpan_eq (enclosed inner)
    refine ⟨before, '[' :: inner ++ [']', ']'] ++ after, ?_, ?_, ?_, by simp [hne]⟩
    · rw [if_pos rfl, hcode, List.append_assoc]
      simp [enclosed, Markup.WikiLink.opening, Markup.WikiLink.closing]
    · intro hbracket
      rcases hticks _ (List.mem_append_left _ hbracket) with h | h <;> cases h
    · intro c hc
      rcases hticks c (List.mem_append_left _ (List.mem_of_mem_getLast? hc)) with rfl | rfl <;>
        decide

/-- What stands before the bracket of a run. -/
theorem exists_renderRun_eq (context : RunContext) (h : OpensBracket run) (lineStart : Bool) :
    ∃ lead rest, renderRun context lineStart run = lead ++ '[' :: rest ∧ '[' ∉ lead ∧
      IsClosed lead ∧ (lead = [] ↔ BeginsWithBracket context run) := by
  rcases h with ⟨page, hkind⟩ | ⟨url, hkind, hshown⟩
  · obtain ⟨inner, hrun⟩ := renderRun_mention context hkind lineStart
    obtain ⟨lead, rest, htext, hbracket, hclosed, hnil⟩ :=
      exists_referenceText_eq inner run.style.code
    refine ⟨marksBefore context run.style ++ lead, rest ++ marksBehind context run.style, ?_, ?_,
      isClosed_marksBefore.append hclosed, ?_⟩
    · rw [hrun, htext]
      simp
    · rw [List.mem_append, not_or]
      exact ⟨bracket_not_mem_marksBefore, hbracket⟩
    · rw [BeginsWithBracket, hkind, List.append_eq_nil_iff, hnil, and_comm]
      exact isUnmarked_iff.symm
  · have hblank := forall_mem_takeWhile_isBlank run.chars
    refine ⟨run.chars.takeWhile isBlank, runLabel context lineStart run ++ "](".toList ++
      url.toList ++ ')' :: takeEndWhile isBlank run.chars, ?_, ?_, .of_isBlank hblank, ?_⟩
    · rw [renderRun_linked hkind hshown, linkText]
      simp
    · intro hbracket
      exact absurd (hblank _ hbracket) (by decide)
    · rw [BeginsWithBracket, hkind]

/-- The bracket of a link or a mention has an unescaped exclamation mark in front of it just where
it begins what is written of its run, and the last run written before is bare and ends with an
exclamation mark. -/
theorem exclamation_before_bracket_iff (context : RunContext) (before : List Run) {run : Run}
    (after : List Run) (h : OpensBracket run) :
    ∃ lead rest, renderRuns context (before ++ run :: after) =
        renderRuns context before ++ lead ++ '[' :: rest ∧ '[' ∉ lead ∧
      (EndsWithExclamation (renderRuns context before ++ lead) ↔
        BeginsWithBracket context run ∧ ∃ last ∈ (before.filter isWritten).getLast?,
          IsBare context last ∧ last.chars.getLast? = some '!') := by
  obtain ⟨lead, rest, hrun, hbracket, hclosed, hbegins⟩ :=
    exists_renderRun_eq context h (endsLine true (renderRuns context before))
  obtain ⟨hescapes, hends⟩ := renderRuns_ends context before
  refine ⟨lead, rest ++ renderRunsFrom context
    (endsLine (endsLine true (renderRuns context before)) (lead ++ '[' :: rest)) after,
    ?_, hbracket, ?_⟩
  · rw [renderRuns, renderRunsFrom_append, renderRunsFrom, ← renderRuns, hrun]
    simp
  · rw [← hbegins, ← hends]
    by_cases hlead : lead = []
    · rw [hlead, List.append_nil]
      exact (and_iff_right rfl).symm
    · rw [endsWithExclamation_append hescapes hlead]
      exact iff_of_false hclosed.not_endsWithExclamation fun h => hlead h.1

/-- Behind an exclamation mark, a link is written as an image. -/
theorem exclamation_before_link :
    OpensBracket (.linked "x" "https://e.com") ∧
      ∃ lead rest, renderRuns (Context.runs ⟨{}, .empty⟩)
          ([.text "wow!"] ++ .linked "x" "https://e.com" :: []) =
        renderRuns (Context.runs ⟨{}, .empty⟩) [.text "wow!"] ++ lead ++ '[' :: rest ∧
      '[' ∉ lead ∧
      EndsWithExclamation (renderRuns (Context.runs ⟨{}, .empty⟩) [.text "wow!"] ++ lead) := by
  have hopens : OpensBracket (.linked "x" "https://e.com") := .inr ⟨_, rfl, by decide⟩
  obtain ⟨lead, rest, hrender, hbracket, hends⟩ :=
    exclamation_before_bracket_iff (Context.runs ⟨{}, .empty⟩) [.text "wow!"] [] hopens
  have hbare : IsBare (Context.runs ⟨{}, .empty⟩) (.text "wow!") :=
    ⟨rfl, rfl, rfl, rfl, rfl, rfl, by decide⟩
  exact ⟨hopens, lead, rest, hrender, hbracket, hends.2 ⟨rfl, .text "wow!", rfl, hbare, rfl⟩⟩

end NoteBridge.Render
