import NoteBridge.Proofs.Markdown.LinkText
import NoteBridge.Proofs.Render.Run
import NoteBridge.Render.Block

/-!
Links in the markup. The text of a linked run always ends where its bracket closes: what has a
meaning there is escaped, and the markers and the code around it are complete. So such a link reads
back just when the text has no blank line inside and the address is a destination as it stands. The
text for a resource is written as it is, and there a bracket can also end it too early.
-/

namespace NoteBridge.Render

open Markdown (ClosesBehind HasBlankLine IsDestination IsInert IsInlineLink IsLineEnd IsVisible
  LineStart Opener closesBehind_of_isInert closing? closing?_bracket closing?_code closing?_escaped
  closing?_exclamation closing?_inert closing?_inerts closing?_underlined closing?_underlined_end
  hasBlankLine_surround isDestination_of_forall_mem isInlineLink_iff isVisible_iff
  isVisible_of_isAsciiPunctuation next?_of_isVisible not_closesBehind_of_bracket)
open Page (Block MediaForm Run Style plainChars)
open Text

variable {image : Bool} {openers : List Opener} {rest text content : List Char} {c : Char}

/-! ### Escaped text -/

theorem isInert_of_not_isAlwaysEscaped (h : isAlwaysEscaped c = false) (hc : c ≠ '!') :
    IsInert c := by
  simp only [isAlwaysEscaped, Bool.or_eq_false_iff, beq_eq_false_iff_ne] at h
  simp [IsInert, h, hc]

/-- No bracket that opens begins an escaped text. -/
theorem head?_escapeFrom_append (p : Position) (cs : List Char) (hrest : rest.head? ≠ some '[') :
    (escapeFrom p cs ++ rest).head? ≠ some '[' := by
  cases cs with
  | nil => exact hrest
  | cons c cs =>
    by_cases hc : c = '['
    · subst hc
      simp [escapeFrom, needsEscape, isAlwaysEscaped]
    · rw [escapeFrom]
      split <;> simp [hc]

theorem closing?_escapeFrom (p : Position) (cs : List Char) (hrest : rest.head? ≠ some '[') :
    closing? image openers (escapeFrom p cs ++ rest) = closing? image openers rest := by
  induction cs generalizing p with
  | nil => rfl
  | cons c cs ih =>
    rw [escapeFrom]
    by_cases hescape : needsEscape p c cs.head? = true
    · rw [if_pos hescape]
      exact (closing?_escaped (isAsciiPunctuation_of_needsEscape hescape)).trans (ih _)
    · rw [if_neg hescape, List.append_assoc, List.singleton_append]
      have hstays := Bool.not_eq_true _ ▸ hescape
      simp only [needsEscape, Bool.or_eq_false_iff] at hstays
      by_cases hc : c = '!'
      · have hnext := head?_escapeFrom_append (p.advance c) cs hrest
        subst hc
        rw [closing?_exclamation hnext, ih]
      · rw [closing?_inert (isInert_of_not_isAlwaysEscaped hstays.1.1.1 hc), ih]

theorem foldlM_next?_escapeFrom (p : Position) (cs : List Char) (start : LineStart) :
    (escapeFrom p cs).foldlM LineStart.next? start = cs.foldlM LineStart.next? start := by
  induction cs generalizing p start with
  | nil => rfl
  | cons c cs ih =>
    rw [escapeFrom, List.foldlM_append, List.foldlM_cons]
    by_cases hescape : needsEscape p c cs.head? = true
    · have hvisible := isVisible_of_isAsciiPunctuation (isAsciiPunctuation_of_needsEscape hescape)
      have hbackslash : IsVisible '\\' := by decide
      simp [hescape, next?_of_isVisible hvisible, next?_of_isVisible hbackslash, ih]
    · simp [hescape, ih]

/-! ### Code -/

theorem le_longestRowFrom (longest current : Nat) (cs : List Char) :
    longest ≤ longestRowFrom c longest current cs := by
  induction cs generalizing longest current with
  | nil => exact Nat.le_refl longest
  | cons d cs ih =>
    rw [longestRowFrom]
    split
    · exact (Nat.le_max_left ..).trans (ih ..)
    · exact ih ..

theorem le_longestRowFrom_replicate (longest current : Nat) {n : Nat} (hn : 0 < n)
    (cs : List Char) :
    current + n ≤ longestRowFrom c longest current (List.replicate n c ++ cs) := by
  induction n generalizing longest current with
  | zero => omega
  | succ n ih =>
    rw [List.replicate_succ, List.cons_append, longestRowFrom, if_pos rfl]
    rcases Nat.eq_zero_or_pos n with rfl | hpos
    · exact (Nat.le_max_right ..).trans (le_longestRowFrom ..)
    · have := ih (max longest (current + 1)) (current + 1) hpos
      omega

theorem exists_longestRowFrom_append (longest current : Nat) (before cs : List Char) :
    ∃ longest' current', longestRowFrom c longest current (before ++ cs) =
      longestRowFrom c longest' current' cs := by
  induction before generalizing longest current with
  | nil => exact ⟨longest, current, rfl⟩
  | cons d before ih =>
    rw [List.cons_append, longestRowFrom]
    split <;> exact ih ..

/-- The longest row is as long as any row. -/
theorem not_replicate_infix {n : Nat} (hn : longestRow c text < n) :
    ¬List.replicate n c <:+: text := by
  rintro ⟨before, after, rfl⟩
  rw [List.append_assoc] at hn
  obtain ⟨longest, current, hfrom⟩ :=
    exists_longestRowFrom_append (c := c) 0 0 before (List.replicate n c ++ after)
  have hrow := le_longestRowFrom_replicate (c := c) longest current (n := n) (by omega) after
  rw [longestRow, hfrom] at hn
  omega

theorem longestRowFrom_append_of_ne {d : Char} (h : d ≠ c) (longest current : Nat)
    (cs : List Char) :
    longestRowFrom c longest current (cs ++ [d]) = longestRowFrom c longest current cs := by
  induction cs generalizing longest current with
  | nil => simp [longestRowFrom, h]
  | cons e cs ih =>
    rw [List.cons_append, longestRowFrom, longestRowFrom]
    split <;> exact ih ..

/-- Whether a text inside that of a link leaves its closing bracket to what follows. -/
def Passes (text : List Char) : Prop :=
  ∀ (image : Bool) (openers : List Opener) (rest : List Char), rest.head? ≠ some tick →
    rest.head? ≠ some '[' → closing? image openers (text ++ rest) = closing? image openers rest

theorem passes_escape (lineStart : Bool) (cs : List Char) : Passes (escape lineStart cs) :=
  fun _ _ _ _ hbracket => closing?_escapeFrom _ cs hbracket

theorem passes_delimited {n : Nat} (hn : 0 < n) (hrow : ¬List.replicate n tick <:+: content)
    (hhead : content.head? ≠ some tick) (hlast : content.getLast? ≠ some tick)
    (hne : content ≠ []) :
    Passes (List.replicate n tick ++ content ++ List.replicate n tick) := by
  intro image openers rest htick _
  rw [List.append_assoc, List.append_assoc, ← List.append_assoc content]
  exact closing?_code hn hrow hhead hlast hne htick

/-- Between the delimiters of code stands its content, behind a space at both ends where it has a
backtick. Nothing in there begins or ends with a backtick or has a row of them as long as the
delimiter. -/
theorem exists_codeSpan_delimited (h : content ≠ []) :
    ∃ n inner, 0 < n ∧
      codeSpan content = List.replicate n tick ++ inner ++ List.replicate n tick ∧
      (inner = content ∨ inner = ' ' :: content ++ [' ']) ∧ inner ≠ [] ∧
      inner.head? ≠ some tick ∧ inner.getLast? ≠ some tick ∧
      ¬List.replicate n tick <:+: inner := by
  unfold codeSpan
  split
  · next hrow =>
    have hnone : ¬List.replicate 1 tick <:+: content := not_replicate_infix (by omega)
    have hmem : tick ∉ content := fun hmem => by
      obtain ⟨before, after, rfl⟩ := List.append_of_mem hmem
      exact hnone ⟨before, after, by simp⟩
    exact ⟨1, content, Nat.one_pos, rfl, .inl rfl, h, fun hhead => hmem (List.mem_of_head? hhead),
      fun hlast => hmem (List.mem_of_getLast? hlast), hnone⟩
  · have hspaced : longestRow tick (' ' :: content ++ [' ']) = longestRow tick content :=
      longestRowFrom_append_of_ne (by decide) 0 0 (' ' :: content)
    have hlast : (' ' :: content ++ [' ']).getLast? ≠ some tick := by
      rw [List.getLast?_append_cons]
      decide
    exact ⟨longestRow tick content + 1, ' ' :: content ++ [' '], Nat.succ_pos _, by simp, .inr rfl,
      by simp, by simp [tick], hlast, not_replicate_infix (by omega)⟩

theorem passes_codeSpan (h : content ≠ []) : Passes (codeSpan content) := by
  obtain ⟨n, inner, hn, hcode, -, hne, hhead, hlast, hrow⟩ := exists_codeSpan_delimited h
  rw [hcode]
  exact passes_delimited hn hrow hhead hlast hne

/-! ### Decoration -/

theorem Passes.underlined (h : Passes text) : Passes (underlined text) := by
  intro image openers rest htick hbracket
  rw [Render.underlined, List.append_assoc, List.append_assoc, closing?_underlined,
    h _ _ _ (by simp [tick]) (by simp), closing?_underlined_end]

theorem head?_append_of_isInert {marks : List Char} (h : ∀ d ∈ marks, IsInert d)
    (hc : ¬IsInert c) (hrest : rest.head? ≠ some c) : (marks ++ rest).head? ≠ some c := by
  cases marks with
  | nil => exact hrest
  | cons d marks =>
    rintro ⟨⟩
    exact hc (h c (List.mem_cons_self ..))

theorem Passes.decorate (h : Passes text) (context : RunContext) (style : Style) :
    Passes (decorate context style text) := by
  have hshown : Passes (if style.underline then Render.underlined text else text) := by
    split
    · exact h.underlined
    · exact h
  have hinert : ∀ c ∈ styleMarks context style, IsInert c := fun c hc => by
    rcases mem_styleMarks hc with rfl | rfl | rfl <;> decide
  have hinert' : ∀ c ∈ (styleMarks context style).reverse, IsInert c := by simpa using hinert
  intro image openers rest htick hbracket
  rw [decorate_eq, List.append_assoc, List.append_assoc, closing?_inerts hinert, hshown,
    closing?_inerts hinert']
  · exact head?_append_of_isInert hinert' (by decide) htick
  · exact head?_append_of_isInert hinert' (by decide) hbracket

theorem not_isLineEnd_of_mem_markerChars (h : c ∈ markerChars) : ¬IsLineEnd c := by
  rintro (rfl | rfl) <;> exact absurd h (by decide)

theorem not_isLineEnd_of_mem_marksBefore {context : RunContext} {style : Style} :
    ∀ c ∈ marksBefore context style, ¬IsLineEnd c := fun _ h =>
  not_isLineEnd_of_mem_markerChars (mem_markerChars_of_mem_marksBefore h)

theorem not_isLineEnd_of_mem_marksBehind {context : RunContext} {style : Style} :
    ∀ c ∈ marksBehind context style, ¬IsLineEnd c := fun _ h =>
  not_isLineEnd_of_mem_markerChars (mem_markerChars_of_mem_marksBehind h)

theorem hasBlankLine_decorate (context : RunContext) (style : Style) :
    HasBlankLine (decorate context style text) ↔ HasBlankLine text := by
  rw [decorate_eq_marks]
  exact hasBlankLine_surround not_isLineEnd_of_mem_marksBefore not_isLineEnd_of_mem_marksBehind

/-! ### Linked runs -/

/-- The text of the link of a run. -/
def runLabel (context : RunContext) (lineStart : Bool) (run : Run) : List Char :=
  let core := trim run.chars
  let leading := run.chars.takeWhile isBlank
  decorate context run.style
    (if run.style.code then codeSpan core else escape (lineStart || leading.contains '\n') core)

variable {context : RunContext} {lineStart : Bool} {run : Run} {url : String}

theorem trim_ne_nil (hshown : allBlank run.chars = false) : trim run.chars ≠ [] := by
  rw [Ne, trim_eq_nil_iff, hshown]
  decide

theorem renderRun_linked (hkind : run.kind = .text (some url))
    (hshown : allBlank run.chars = false) :
    renderRun context lineStart run = run.chars.takeWhile isBlank ++
      linkText (runLabel context lineStart run) url ++ takeEndWhile isBlank run.chars := by
  have hcore : (trim run.chars).isEmpty = false := List.isEmpty_eq_false_iff.2 (trim_ne_nil hshown)
  rw [renderRun, hkind]
  simp only [wrap, hcore]
  rfl

theorem passes_runLabel (hshown : allBlank run.chars = false) :
    Passes (runLabel context lineStart run) := by
  refine Passes.decorate ?_ context run.style
  split
  · exact passes_codeSpan (trim_ne_nil hshown)
  · exact passes_escape _ _

/-- What makes code of a text ends no line. -/
theorem exists_codeSpan_surround (content : List Char) :
    ∃ before after, codeSpan content = before ++ content ++ after ∧
      (∀ c ∈ before, ¬IsLineEnd c) ∧ ∀ c ∈ after, ¬IsLineEnd c := by
  obtain ⟨before, after, hcode, -, -, hticks⟩ := exists_codeSpan_eq content
  refine ⟨before, after, hcode, List.forall_mem_append.1 fun c hc => ?_⟩
  rcases hticks c hc with rfl | rfl <;> decide

theorem hasBlankLine_codeSpan : HasBlankLine (codeSpan content) ↔ HasBlankLine content := by
  obtain ⟨before, after, hcode, hbefore, hafter⟩ := exists_codeSpan_surround content
  rw [hcode]
  exact hasBlankLine_surround hbefore hafter

theorem hasBlankLine_runLabel :
    HasBlankLine (runLabel context lineStart run) ↔ HasBlankLine (trim run.chars) := by
  rw [runLabel, hasBlankLine_decorate]
  split
  · exact hasBlankLine_codeSpan
  · rw [HasBlankLine, escape, foldlM_next?_escapeFrom, HasBlankLine]

/-- The text of the link of a run ends at its end, whatever the run holds. -/
theorem closesBehind_runLabel (hshown : allBlank run.chars = false) (url behind : List Char) :
    ClosesBehind false (runLabel context lineStart run) url behind := by
  rw [ClosesBehind, List.append_assoc, List.append_assoc,
    passes_runLabel hshown _ _ _ (by simp [tick]) (by simp)]
  exact closing?_bracket

theorem isInlineLink_runLabel_iff (hshown : allBlank run.chars = false) (url behind : List Char) :
    IsInlineLink false (runLabel context lineStart run) url behind ↔
      ¬HasBlankLine (trim run.chars) ∧ IsDestination url := by
  rw [isInlineLink_iff, hasBlankLine_runLabel]
  exact and_iff_right (closesBehind_runLabel hshown url behind)

/-! ### Resources -/

/-- The text of the link for a resource. -/
def mediaLabel (form : MediaForm) (url : String) (caption : List Run) : List Char :=
  let shown := plainChars caption
  match form with
  | .image => shown
  | _ => if allBlank shown then url.toList else trim shown

theorem mediaText_eq (form : MediaForm) (url : String) (caption : List Run) :
    mediaText form url caption =
      (if form = .image then ['!'] else []) ++ linkText (mediaLabel form url caption) url := by
  cases form <;> rfl

/-- When the links that are written read back. That of a run does if and only if its text has no
blank line inside and its address is a destination as it stands. That of a resource must also end
its text at the right bracket, which it does if its caption holds nothing with a meaning of its own,
and does not where a bracket that nothing opens or hides stands in the caption. -/
theorem links_readBack_iff (context : Context) (url : String) :
    (∀ (lineStart : Bool) (run : Run), run.kind = .text (some url) → allBlank run.chars = false →
      ∃ label, renderRun context.runs lineStart run = run.chars.takeWhile isBlank ++
          linkText label url ++ takeEndWhile isBlank run.chars ∧
        ∀ behind, IsInlineLink false label url.toList behind ↔
          ¬HasBlankLine (trim run.chars) ∧ IsDestination url.toList) ∧
      ∀ (depth number : Nat) (id : Option String) (form : MediaForm) (caption : List Run)
        (children : List Block),
        let label := mediaLabel form url caption
        let closes := ClosesBehind (form = .image) label url.toList
        renderBlock context depth number ⟨id, .media form url caption, children⟩ =
            .ok ((if form = .image then ['!'] else []) ++ linkText label url) ∧
          (∀ behind, IsInlineLink (form = .image) label url.toList behind ↔
            closes behind ∧ ¬HasBlankLine label ∧ IsDestination url.toList) ∧
          ((∀ c ∈ label, IsInert c) → ∀ behind, closes behind) ∧
          ∀ before after, label = before ++ ']' :: after → (∀ c ∈ before, IsInert c) →
            ∀ behind, ¬closes behind := by
  constructor
  · intro lineStart run hkind hshown
    exact ⟨runLabel context.runs lineStart run, renderRun_linked hkind hshown,
      isInlineLink_runLabel_iff hshown url.toList⟩
  · intro depth number id form caption children label closes
    refine ⟨?_, fun _ => isInlineLink_iff, fun hinert _ => closesBehind_of_isInert hinert, ?_⟩
    · rw [renderBlock, mediaText_eq]
    · intro before after hlabel hbefore behind
      dsimp only [closes]
      rw [hlabel]
      exact not_closesBehind_of_bracket hbefore

/-- A link to a web address reads back, one to an address with a space does not, and neither does
one whose caption has a bracket in it. -/
theorem website_readsBack_others_do_not :
    (∃ label, renderRun (Context.runs ⟨{}, .empty⟩) true (.linked "label" "https://x.org") =
        linkText label "https://x.org" ∧
      IsInlineLink false label "https://x.org".toList []) ∧
    (∃ label, renderRun (Context.runs ⟨{}, .empty⟩) true (.linked "label" "a b") =
        linkText label "a b" ∧
      ¬IsInlineLink false label "a b".toList []) ∧
    ∃ label, renderBlock ⟨{}, .empty⟩ 0 0
        (.leaf (.media .bookmark "https://x.org" [.text "a] b"])) =
          .ok (linkText label "https://x.org") ∧
      ¬IsInlineLink false label "https://x.org".toList [] := by
  have hplain : ¬HasBlankLine "label".toList := by decide
  have hends (url : String) : (Run.linked "label" url).chars.takeWhile isBlank = [] ∧
      takeEndWhile isBlank (Run.linked "label" url).chars = [] :=
    (by decide : "label".toList.takeWhile isBlank = [] ∧ takeEndWhile isBlank "label".toList = [])
  have hsite : IsDestination "https://x.org".toList :=
    isDestination_of_forall_mem (by simp [isVisible_iff])
  have hspace : ¬IsDestination "a b".toList := fun h =>
    absurd (h.visible ' ' (by decide)) (by decide)
  refine ⟨?_, ?_, ?_⟩
  · obtain ⟨label, hrender, hlink⟩ := (links_readBack_iff ⟨{}, .empty⟩ "https://x.org").1 true
      (.linked "label" "https://x.org") rfl (by decide)
    exact ⟨label, by simpa [hends] using hrender, (hlink []).2 ⟨hplain, hsite⟩⟩
  · obtain ⟨label, hrender, hlink⟩ := (links_readBack_iff ⟨{}, .empty⟩ "a b").1 true
      (.linked "label" "a b") rfl (by decide)
    exact ⟨label, by simpa [hends] using hrender, fun h => hspace ((hlink []).1 h).2⟩
  · obtain ⟨hrender, -, -, hbracket⟩ := (links_readBack_iff ⟨{}, .empty⟩ "https://x.org").2 0 0 none
      .bookmark [.text "a] b"] []
    exact ⟨_, hrender, fun h => hbracket ['a'] " b".toList (by decide) (by simp [IsInert]) []
      h.closes⟩

end NoteBridge.Render
