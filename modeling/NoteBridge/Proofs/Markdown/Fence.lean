import NoteBridge.Markdown.Document
import NoteBridge.Proofs.Markdown.Code

/-!
Fenced code read line by line. A row of backticks opens it, every line without such a row is added
to it as it stands, and the next such row closes it. The lines are those of the source: a carriage
return ends a line like a line feed, and the replacement character stands for NUL.
-/

namespace NoteBridge.Markdown.Outline

open Text

variable {n : Nat} {cs info content line : List Char} {lines : List (List Char)} {c : Char}

/-! ### Lines of a source -/

/-- The character that a source has at the place of another one that is not behind a carriage
return. -/
def sourceChar (c : Char) : Char :=
  if c = '\r' then '\n' else if c = '\x00' then CharacterReference.replacement else c

/-- A source as its lines are read: each of them is ended by a line feed alone, and the replacement
character stands for NUL. -/
def sourceText : List Char → List Char
  | [] => []
  | '\r' :: '\n' :: cs => '\n' :: sourceText cs
  | c :: cs => sourceChar c :: sourceText cs

theorem sourceText_cons (h : c = '\r' → cs.head? ≠ some '\n') :
    sourceText (c :: cs) = sourceChar c :: sourceText cs := by
  rw [sourceText]
  rintro rest rfl rfl
  exact h rfl rfl

theorem sourceText_ne_nil (h : cs ≠ []) : sourceText cs ≠ [] := by
  fun_cases sourceText cs with
  | case1 => exact absurd rfl h
  | case2 | case3 => exact List.cons_ne_nil _ _

theorem sourceText_eq_self (hreturn : '\r' ∉ cs) (hnul : '\x00' ∉ cs) : sourceText cs = cs := by
  induction cs with
  | nil => rfl
  | cons c cs ih =>
    obtain ⟨hc, hcs⟩ := List.ne_and_not_mem_of_not_mem_cons hreturn
    obtain ⟨hc', hcs'⟩ := List.ne_and_not_mem_of_not_mem_cons hnul
    rw [sourceText_cons fun h => absurd h hc.symm, ih hcs hcs', sourceChar, if_neg hc.symm,
      if_neg hc'.symm]

theorem sourceChar_ne (c : Char) : sourceChar c ≠ '\r' ∧ sourceChar c ≠ '\x00' := by
  unfold sourceChar
  split_ifs with hreturn hnul
  · decide
  · decide
  · exact ⟨hreturn, hnul⟩

theorem ne_of_mem_sourceText (h : c ∈ sourceText cs) : c ≠ '\r' ∧ c ≠ '\x00' := by
  fun_induction sourceText cs with
  | case1 => cases h
  | case2 cs ih =>
    rcases List.mem_cons.1 h with rfl | h
    · decide
    · exact ih h
  | case3 d cs _ ih =>
    rcases List.mem_cons.1 h with rfl | h
    · exact sourceChar_ne d
    · exact ih h

theorem eq_backtick_of_sourceChar (h : sourceChar c = '\x60') : c = '\x60' := by
  unfold sourceChar at h
  split_ifs at h
  · exact absurd h (by decide)
  · exact absurd h (by decide)
  · exact h

theorem replicate_prefix_of_sourceText (h : List.replicate n '\x60' <+: sourceText cs) :
    List.replicate n '\x60' <+: cs := by
  induction n generalizing cs with
  | zero => exact List.nil_prefix
  | succ n ih =>
    rw [List.replicate_succ] at h ⊢
    fun_cases sourceText cs with
    | case1 => exact h
    | case2 cs => exact absurd (List.cons_prefix_cons.1 h).1 (by decide)
    | case3 c cs hnot =>
      rw [sourceText_cons fun hc hhead => ?_, List.cons_prefix_cons] at h
      · exact List.cons_prefix_cons.2 ⟨(eq_backtick_of_sourceChar h.1.symm).symm, ih h.2⟩
      · obtain ⟨rest, rfl⟩ := List.head?_eq_some_iff.1 hhead
        exact hnot rest hc rfl

/-- The rows of backticks in the text of a source are those of the source. -/
theorem replicate_infix_of_sourceText (h : List.replicate n '\x60' <:+: sourceText cs) :
    List.replicate n '\x60' <:+: cs := by
  fun_induction sourceText cs with
  | case1 => exact h
  | case2 cs ih =>
    rcases List.infix_cons_iff.1 h with hprefix | hinfix
    · have hbegins : List.replicate n '\x60' <+: '\r' :: '\n' :: cs :=
        replicate_prefix_of_sourceText hprefix
      exact hbegins.isInfix
    · exact List.infix_cons (List.infix_cons (ih hinfix))
  | case3 c cs hnot ih =>
    rcases List.infix_cons_iff.1 h with hprefix | hinfix
    · rw [← sourceText.eq_3 c cs hnot] at hprefix
      exact (replicate_prefix_of_sourceText hprefix).isInfix
    · exact List.infix_cons (ih hinfix)

theorem sourceLines_feed (cs : List Char) : sourceLines ('\n' :: cs) = [] :: sourceLines cs := by
  rw [sourceLines]
  · rfl
  · intro _ h
    cases h

theorem sourceLines_return (h : cs.head? ≠ some '\n') :
    sourceLines ('\r' :: cs) = [] :: sourceLines cs := by
  rw [sourceLines]
  · rfl
  · rintro rest - rfl
    exact h rfl

theorem sourceLines_cons (hfeed : c ≠ '\n') (hreturn : c ≠ '\r')
    (h : sourceLines cs = line :: lines) :
    sourceLines (c :: cs) = (sourceChar c :: line) :: lines := by
  rw [sourceLines]
  · rw [if_neg (by simp [hfeed, hreturn]), h, sourceChar, if_neg hreturn]
  · rintro _ rfl
    exact absurd rfl hreturn

/-- A line feed ends the lines before it, and these make up the text of the source up to there. -/
theorem exists_sourceLines_append (cs rest : List Char) :
    ∃ lines, sourceLines (cs ++ '\n' :: rest) = lines ++ sourceLines rest ∧
      lines.flatMap (· ++ ['\n']) = sourceText (cs ++ ['\n']) := by
  fun_induction sourceText cs with
  | case1 => exact ⟨[[]], sourceLines_feed rest, rfl⟩
  | case2 cs ih =>
    obtain ⟨lines, hlines, htext⟩ := ih
    refine ⟨[] :: lines, ?_, ?_⟩
    · rw [List.cons_append, List.cons_append, sourceLines, hlines, List.cons_append]
    · rw [List.flatMap_cons, htext]
      rfl
  | case3 c cs hnot ih =>
    obtain ⟨lines, hlines, htext⟩ := ih
    by_cases hfeed : c = '\n'
    · subst hfeed
      refine ⟨[] :: lines, ?_, ?_⟩
      · rw [List.cons_append, sourceLines_feed, hlines, List.cons_append]
      · rw [List.flatMap_cons, htext, List.cons_append,
          sourceText_cons fun h => absurd h (by decide)]
        rfl
    by_cases hreturn : c = '\r'
    · subst hreturn
      cases cs with
      | nil => exact ⟨[[]], sourceLines.eq_2 rest, rfl⟩
      | cons d cs =>
        have hhead : d ≠ '\n' := fun hd => hnot cs rfl (hd ▸ rfl)
        refine ⟨[] :: lines, ?_, ?_⟩
        · rw [List.cons_append, sourceLines_return (by simpa using hhead), hlines, List.cons_append]
        · have hbehind : (d :: cs ++ ['\n']).head? ≠ some '\n' := by simpa using hhead
          have hcons := sourceText_cons (c := '\r') fun _ => hbehind
          rw [List.flatMap_cons, htext]
          exact hcons.symm
    · cases lines with
      | nil => exact absurd htext.symm (sourceText_ne_nil (by simp))
      | cons line lines =>
        refine ⟨(sourceChar c :: line) :: lines, sourceLines_cons hfeed hreturn hlines, ?_⟩
        rw [List.cons_append, sourceText_cons fun h => absurd h hreturn, ← htext]
        rfl

/-! ### Lines at their start -/

theorem passBlanks_suffix (column : Nat) (cs : List Char) :
    (Cursor.passBlanks column cs).2 <:+ cs := by
  induction cs generalizing column with
  | nil => exact List.suffix_rfl
  | cons c cs ih =>
    by_cases hspace : c = ' '
    · subst hspace
      exact (ih _).trans (List.suffix_cons _ cs)
    by_cases htab : c = '\t'
    · subst htab
      exact (ih _).trans (List.suffix_cons _ cs)
    have hstop : Cursor.passBlanks column (c :: cs) = (column, c :: cs) := by
      rw [Cursor.passBlanks]
      · rintro _ ⟨⟩
        exact hspace rfl
      · rintro _ ⟨⟩
        exact htab rfl
    rw [hstop]

/-! ### The lines of a fence -/

/-- An outline in which nothing but fenced code is open. -/
def inFence (n : Nat) (info content : List Char) : Outline :=
  { leaf := some (.fenced ⟨'\x60', n⟩ 0 info content) }

@[simp]
theorem inFence_leaf :
    (inFence n info content).leaf = some (.fenced ⟨'\x60', n⟩ 0 info content) :=
  rfl

@[simp]
theorem inFence_containers : (inFence n info content).containers = [] :=
  rfl

theorem closeLists_of_containers {o : Outline} (h : o.containers = []) : o.closeLists = o := by
  rw [closeLists.eq_def]
  split
  · next hlist =>
    rw [h] at hlist
    cases hlist
  · rfl

theorem read?_fence (hn : 3 ≤ n + 1) (hinfo : '\x60' ∉ info) :
    Fence.read? ('\x60' :: (List.replicate n '\x60' ++ info)) = some ⟨'\x60', n + 1⟩ := by
  have hrow : rowLength '\x60' ('\x60' :: (List.replicate n '\x60' ++ info)) = n + 1 :=
    rowLength_replicate_append (n + 1) fun h => hinfo (List.mem_of_head? h)
  have hdrop : ('\x60' :: (List.replicate n '\x60' ++ info)).drop (n + 1) = info :=
    List.drop_left' List.length_replicate
  simp [Fence.read?, hrow, hdrop, hinfo]
  omega

theorem addLine_opening (hn : 3 ≤ n) (hinfo : '\x60' ∉ info) :
    addLine {} (List.replicate n '\x60' ++ info) = inFence n info [] := by
  obtain ⟨m, rfl⟩ : ∃ m, n = m + 1 := ⟨n - 1, by omega⟩
  have hread := read?_fence hn hinfo
  have hdrop : ('\x60' :: (List.replicate m '\x60' ++ info)).drop (m + 1) = info :=
    List.drop_left' List.length_replicate
  rw [List.replicate_succ, List.cons_append]
  generalize List.replicate m '\x60' ++ info = cs at hread hdrop ⊢
  have hopening : opening? {} false 1 { rest := '\x60' :: cs } =
      some (.fence ⟨'\x60', m + 1⟩ 0 info) := by
    have hquote : Cursor.insideQuote? { rest := '\x60' :: cs } = none := rfl
    have hheading : heading? ('\x60' :: cs) = none := by simp [heading?]
    have hindented : Cursor.isIndented { rest := '\x60' :: cs } = false := rfl
    have hskip : Cursor.skipBlanks { rest := '\x60' :: cs } = { rest := '\x60' :: cs } := rfl
    have hlength : Cursor.indentLength { rest := '\x60' :: cs } = 0 := rfl
    simp only [opening?, hquote, hindented, hskip, hheading, hread, hlength]
    rw [← hdrop]
    rfl
  have happly : apply {} { rest := '\x60' :: cs } (.fence ⟨'\x60', m + 1⟩ 0 info) =
      (inFence (m + 1) info [], none) := by
    have hlists : closeLists (closeLeaf {}) = {} := closeLists_of_containers rfl
    rw [apply, openLeaf, hlists]
    rfl
  change addFrom false { rest := '\x60' :: cs } {} = _
  rw [addFrom, openAll, hopening]
  dsimp only
  rw [happly]

/-- A line that stays in the code is added to it. -/
theorem addLine_of_inside
    (h : Leaf.pass { rest := line } (.fenced ⟨'\x60', n⟩ 0 info content) =
      .inside { rest := line }) :
    addLine (inFence n info content) line = inFence n info (content ++ (line ++ ['\n'])) := by
  have hopening : opening? (inFence n info content) false 1 { rest := line } = none := by
    simp [opening?, inFence, Leaf.isVerbatim]
  have hfrom : addFrom false { rest := line } (inFence n info content) =
      inFence n info (content ++ (line ++ ['\n'])) := by
    rw [addFrom, openAll, hopening]
    rfl
  simp only [addLine, inFence_leaf, inFence_containers, List.reverse_nil, Cursor.pass, h]
  exact hfrom

/-- A line without such a row as opened the code belongs to it. -/
theorem addLine_inside (h : ¬List.replicate n '\x60' <:+: line) :
    addLine (inFence n info content) line = inFence n info (content ++ (line ++ ['\n'])) := by
  have hclosed :
      (Fence.mk '\x60' n).isClosedBy (Cursor.skipBlanks { rest := line }).rest = false := by
    rw [← Bool.not_eq_true, Fence.isClosedBy, Bool.and_eq_true, decide_eq_true_eq]
    rintro ⟨hrow, -⟩
    exact h ((replicate_infix_of_le_rowLength hrow).trans (passBlanks_suffix _ line).isInfix)
  refine addLine_of_inside ?_
  rw [Leaf.pass, hclosed, Bool.and_false]
  rfl

theorem addLine_closing (hn : 0 < n) :
    addLine (inFence n info content) (List.replicate n '\x60') =
      { blocks := [.code (unescape (trimSpacing (decode info))) content] } := by
  obtain ⟨m, rfl⟩ : ∃ m, n = m + 1 := ⟨n - 1, by omega⟩
  have hclosed : (Fence.mk '\x60' (m + 1)).isClosedBy (List.replicate (m + 1) '\x60') = true := by
    simp [Fence.isClosedBy]
  have hpass : Leaf.pass { rest := List.replicate (m + 1) '\x60' }
      (.fenced ⟨'\x60', m + 1⟩ 0 info content) = .closing := if_pos hclosed
  have hlists : closeLists {} = {} := closeLists_of_containers rfl
  have hclose : closeLeaf (inFence (m + 1) info content) =
      { blocks := [.code (unescape (trimSpacing (decode info))) content] } := by
    change add (.code (unescape (trimSpacing (decode info))) content) {} = _
    rw [add, hlists]
    rfl
  simp only [addLine, inFence_leaf, inFence_containers, List.reverse_nil, Cursor.pass, hpass]
  exact hclose

/-- Lines without such a row are added one by one. -/
theorem foldl_addLine_inside (h : ∀ line ∈ lines, ¬List.replicate n '\x60' <:+: line) :
    lines.foldl addLine (inFence n info content) =
      inFence n info (content ++ lines.flatMap (· ++ ['\n'])) := by
  induction lines generalizing content with
  | nil => simp
  | cons line lines ih =>
    obtain ⟨hline, hlines⟩ := List.forall_mem_cons.1 h
    rw [List.foldl_cons, addLine_inside hline, ih hlines, List.flatMap_cons, List.append_assoc]

/-! ### Fenced code -/

/-- A line of which nothing is replaced. -/
theorem sourceLines_line (h : ∀ c ∈ line, c ∉ ['\n', '\r', '\x00']) (rest : List Char) :
    sourceLines (line ++ '\n' :: rest) = line :: sourceLines rest := by
  induction line with
  | nil => exact sourceLines_feed rest
  | cons c line ih =>
    obtain ⟨hc, hline⟩ := List.forall_mem_cons.1 h
    simp only [List.mem_cons, List.not_mem_nil, or_false, not_or] at hc
    have hstays : sourceChar c = c := by rw [sourceChar, if_neg hc.2.1, if_neg hc.2.2]
    rw [List.cons_append, sourceLines_cons hc.1 hc.2.1 (ih hline), hstays]

/-- The lines of a text without a row of backticks have none either. -/
theorem not_replicate_infix_of_mem_lines (hn : 0 < n) (hrow : ¬List.replicate n '\x60' <:+: content)
    (htext : lines.flatMap (· ++ ['\n']) = sourceText (content ++ ['\n'])) (hline : line ∈ lines) :
    ¬List.replicate n '\x60' <:+: line := by
  intro hmem
  have hended : line ++ ['\n'] <:+: lines.flatMap (· ++ ['\n']) :=
    List.infix_of_mem_flatten (List.mem_map_of_mem hline)
  have hread : List.replicate n '\x60' <:+: sourceText (content ++ ['\n']) :=
    htext ▸ hmem.trans ((List.prefix_append line _).isInfix.trans hended)
  have hfeed : '\n' ∉ List.replicate n '\x60' := fun hc =>
    absurd (List.eq_of_mem_replicate hc) (by decide)
  rcases infix_or_infix_of_not_mem hfeed (replicate_infix_of_sourceText hread) with h | h
  · exact hrow h
  · have hlength := h.length_le
    rw [List.length_replicate, List.length_nil] at hlength
    omega

/-- A source that is fenced code consists of the opening row and what stands behind it, the lines of
the code, and the closing row. -/
theorem exists_sourceLines_fenced (hinfo : ∀ c ∈ info, c ∉ ['\n', '\r', '\x00'])
    (n : Nat) (content : List Char) :
    ∃ lines, sourceLines (List.replicate n '\x60' ++ info ++ '\n' :: content ++ '\n' ::
        List.replicate n '\x60' ++ ['\n']) =
        (List.replicate n '\x60' ++ info) :: (lines ++ [List.replicate n '\x60']) ∧
      lines.flatMap (· ++ ['\n']) = sourceText (content ++ ['\n']) := by
  have hfence : ∀ c ∈ List.replicate n '\x60', c ∉ ['\n', '\r', '\x00'] := fun c hc => by
    rw [List.eq_of_mem_replicate hc]
    decide
  have hclosing : sourceLines (List.replicate n '\x60' ++ ['\n']) = [List.replicate n '\x60'] :=
    sourceLines_line hfence []
  obtain ⟨lines, hlines, htext⟩ :=
    exists_sourceLines_append content (List.replicate n '\x60' ++ ['\n'])
  refine ⟨lines, ?_, htext⟩
  rw [← hclosing, ← hlines, ← sourceLines_line (List.forall_mem_append.2 ⟨hfence, hinfo⟩)]
  simp only [List.append_assoc, List.cons_append]

/-- Text between rows of backticks on lines of their own is read as code if it holds no such row:
what stands behind the first row is its information, and its content the text as lines of a source
are read. -/
theorem read_fenced (hn : 3 ≤ n) (hinfo : ∀ c ∈ info, c ∉ ['\x60', '\n', '\r', '\x00'])
    (hrow : ¬List.replicate n '\x60' <:+: content) :
    read (List.replicate n '\x60' ++ info ++ '\n' :: content ++ '\n' ::
        List.replicate n '\x60' ++ ['\n']) =
      ([.code (unescape (trimSpacing (decode info))) (sourceText (content ++ ['\n']))], ∅) := by
  have htick : '\x60' ∉ info := fun hmem => hinfo _ hmem (List.mem_cons_self ..)
  obtain ⟨lines, hlines, htext⟩ := exists_sourceLines_fenced
    (fun c hc hend => hinfo c hc (List.mem_cons_of_mem _ hend)) n content
  have hinside : ∀ line ∈ lines, ¬List.replicate n '\x60' <:+: line := fun _ hline =>
    not_replicate_infix_of_mem_lines (by omega) hrow htext hline
  have hmark : ∀ cs : List Char, withoutByteOrderMark (List.replicate n '\x60' ++ cs) =
      List.replicate n '\x60' ++ cs := by
    obtain ⟨m, rfl⟩ : ∃ m, n = m + 1 := ⟨n - 1, by omega⟩
    exact fun _ => rfl
  have hunmarked : withoutByteOrderMark (List.replicate n '\x60' ++ info ++ '\n' :: content ++
      '\n' :: List.replicate n '\x60' ++ ['\n']) = List.replicate n '\x60' ++ info ++ '\n' ::
      content ++ '\n' :: List.replicate n '\x60' ++ ['\n'] := by
    simp only [List.append_assoc, hmark]
  rw [read, hunmarked, hlines, List.foldl_cons, addLine_opening hn htick, List.foldl_append,
    foldl_addLine_inside hinside, htext, List.foldl_cons, addLine_closing (by omega)]
  rfl

end NoteBridge.Markdown.Outline
