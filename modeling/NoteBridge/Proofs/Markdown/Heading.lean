import NoteBridge.Proofs.Markdown.Fence
import NoteBridge.Proofs.Text.Blank

/-!
Headings as they are read. A row of number signs at the end of a heading closes it, if a space, a
tab or nothing stands before it, and then is no part of the content. A text that is trimmed and does
not end like this is its own content.
-/

namespace NoteBridge.Markdown

open Text

variable {cs before : List Char} {level : Nat}

/-- Whether a text ends with number signs that close a heading: a row of them at its end, with a
space, a tab or nothing before it. -/
def ClosesHeading (cs : List Char) : Prop :=
  ∃ before n, cs = before ++ List.replicate (n + 1) '#' ∧ ∀ c ∈ before.getLast?, isSpaceOrTab c

theorem isBlank_of_isSpacing {c : Char} (h : isSpacing c) : isBlank c := by
  simp only [isSpacing, isSpaceOrTab, Bool.or_eq_true, beq_iff_eq] at h
  rcases h with ((rfl | rfl) | rfl) | rfl <;> decide

theorem exists_row_at_end (sign : Char) (cs : List Char) :
    ∃ n, cs = dropEndWhile (· == sign) cs ++ List.replicate n sign := by
  have hrow : ∀ c ∈ takeEndWhile (· == sign) cs, c = sign := fun c hc =>
    beq_iff_eq.1 (forall_mem_takeEndWhile c hc)
  refine ⟨(takeEndWhile (· == sign) cs).length, ?_⟩
  rw [← List.eq_replicate_of_mem hrow]
  exact List.rdropWhile_append_rtakeWhile.symm

/-- The row that closes a heading is cut off, and the blanks before it. -/
theorem headingContent_of_closing (hbefore : ∀ c ∈ before.getLast?, isSpaceOrTab c) (n : Nat) :
    headingContent (before ++ List.replicate (n + 1) '#') = dropEndWhile isSpacing before := by
  have hcontent : dropEndWhile isSpacing (before ++ List.replicate (n + 1) '#') =
      before ++ List.replicate (n + 1) '#' := by
    apply dropEndWhile_eq_self
    rw [List.replicate_succ', ← List.append_assoc, List.getLast?_concat]
    rintro c ⟨⟩
    decide
  have hopened : dropEndWhile (· == '#') (before ++ List.replicate (n + 1) '#') = before := by
    rw [dropEndWhile_append_of_pos fun c hc => beq_iff_eq.2 (List.eq_of_mem_replicate hc)]
    apply dropEndWhile_eq_self
    intro c hc hsign
    have hspace := hbefore c hc
    rw [beq_iff_eq.1 hsign] at hspace
    exact absurd hspace (by decide)
  simp only [headingContent, hcontent, hopened]
  cases hlast : before.getLast? with
  | none =>
    rw [List.getLast?_eq_none_iff.1 hlast]
    rfl
  | some c =>
    have hshorter : before.length < (before ++ List.replicate (n + 1) '#').length := by
      rw [List.length_append, List.length_replicate]
      omega
    simp only [hshorter, hbefore c hlast, decide_true, Bool.and_self, if_true]

theorem headingContent_of_not_closes (htrim : trim cs = cs) (h : ¬ClosesHeading cs) :
    headingContent cs = cs := by
  have hcontent : dropEndWhile isSpacing cs = cs := by
    apply dropEndWhile_eq_self
    intro c hc hspacing
    exact getLast?_trim (htrim.symm ▸ hc) (isBlank_of_isSpacing hspacing)
  obtain ⟨n, hcs⟩ := exists_row_at_end '#' cs
  simp only [headingContent, hcontent]
  generalize dropEndWhile (· == '#') cs = opened at hcs
  -- the row at the end of the text closes nothing, so it is empty or behind another character
  cases n with
  | zero =>
    rw [List.replicate_zero, List.append_nil] at hcs
    rw [← hcs]
    cases hlast : cs.getLast? with
    | none => exact (List.getLast?_eq_none_iff.1 hlast).symm
    | some c => simp
  | succ n =>
    cases hlast : opened.getLast? with
    | none => exact absurd ⟨opened, n, hcs, by rw [hlast]; exact nofun⟩ h
    | some c =>
      have hspace : ¬isSpaceOrTab c := by
        intro hspace
        refine h ⟨opened, n, hcs, ?_⟩
        rw [hlast]
        rintro d ⟨⟩
        exact hspace
      simp [hspace]

theorem headingContent_eq_self_iff (htrim : trim cs = cs) :
    headingContent cs = cs ↔ ¬ClosesHeading cs := by
  refine ⟨?_, headingContent_of_not_closes htrim⟩
  rintro hself ⟨before, n, rfl, hbefore⟩
  rw [headingContent_of_closing hbefore] at hself
  have hle : (dropEndWhile isSpacing before).length ≤ before.length :=
    (List.rdropWhile_prefix isSpacing before).length_le
  rw [hself, List.length_append, List.length_replicate] at hle
  omega

/-- Behind number signs and a space, a text without blanks around it is read to its end. -/
theorem heading?_signs (hlevel : 1 ≤ level ∧ level ≤ 6) (htrim : trim cs = cs) :
    heading? (List.replicate level '#' ++ ' ' :: cs) = some (level, headingContent cs) := by
  have hsigns : (List.replicate level '#' ++ ' ' :: cs).takeWhile (· == '#') =
      List.replicate level '#' := by
    rw [List.takeWhile_append_of_pos fun c hc => beq_iff_eq.2 (List.eq_of_mem_replicate hc)]
    simp
  have hrest : (List.replicate level '#' ++ ' ' :: cs).drop level = ' ' :: cs :=
    List.drop_left' List.length_replicate
  have hspace : isSpaceOrTab ' ' := rfl
  have hcontent : (' ' :: cs).dropWhile isSpaceOrTab = cs := by
    rw [List.dropWhile_cons_of_pos hspace]
    cases cs with
    | nil => rfl
    | cons c cs =>
      apply List.dropWhile_cons_of_neg
      intro hc
      have hhead : c ∈ (trim (c :: cs)).head? := htrim.symm ▸ rfl
      exact head?_trim hhead (isBlank_of_isSpacing (by simp [isSpacing, hc]))
  have hlength : (List.replicate level '#').length = level := List.length_replicate
  simp only [heading?, hsigns, hlength, hrest, hcontent]
  rw [if_pos]
  exact ⟨hlevel.1, hlevel.2, .inr (Nat.lt_succ_self _)⟩

/-- Without line feeds, a text has one line more than carriage returns, unless it ends with one. -/
theorem Outline.length_sourceLines (hfeed : '\n' ∉ cs) (hne : cs ≠ [])
    (hlast : cs.getLast? ≠ some '\r') : (sourceLines cs).length = cs.count '\r' + 1 := by
  induction cs with
  | nil => exact absurd rfl hne
  | cons c cs ih =>
    obtain ⟨hc, hcs⟩ := List.ne_and_not_mem_of_not_mem_cons hfeed
    cases cs with
    | nil =>
      have hreturn : c ≠ '\r' := by
        rintro rfl
        exact hlast rfl
      rw [List.count_cons_of_ne hreturn]
      simp [sourceLines, Ne.symm hc, hreturn]
    | cons d cs =>
      have hlines := ih hcs (List.cons_ne_nil d cs) (by rwa [List.getLast?_cons_cons] at hlast)
      by_cases hreturn : c = '\r'
      · rw [hreturn, sourceLines_return fun hhead => hcs (List.mem_of_head? hhead),
          List.length_cons, hlines, List.count_cons_self]
      · obtain ⟨line, lines, hsome⟩ :=
          List.exists_cons_of_length_pos (Nat.lt_of_lt_of_eq (Nat.succ_pos _) hlines.symm)
        rw [sourceLines_cons (Ne.symm hc) hreturn hsome, List.count_cons_of_ne hreturn, ← hlines,
          hsome, List.length_cons, List.length_cons]

end NoteBridge.Markdown
