import NoteBridge.Proofs.Text.Search
import NoteBridge.Text.Lines

/-!
Laws of lines. The lines of a text are the text, and a text that ends its last line has its lines
before those of whatever follows.
-/

namespace NoteBridge.Text

theorem flatten_linesKept (cs : List Char) : (linesKept cs).flatten = cs := by
  induction cs with
  | nil => rfl
  | cons c cs ih =>
    unfold linesKept
    split
    · rw [List.flatten_cons, ih, List.singleton_append]
    · split
      · next h =>
        rw [h, List.flatten_nil] at ih
        rw [← ih]
        rfl
      · next line lines h =>
        rw [h] at ih
        exact congrArg (c :: ·) ih

theorem linesKept_ne_nil {cs : List Char} (h : cs ≠ []) : linesKept cs ≠ [] := by
  intro hl
  rw [← flatten_linesKept cs, hl] at h
  exact h rfl

/-- A line feed ends the line that it stands on. -/
theorem linesKept_append (cs rest : List Char) :
    linesKept (cs ++ '\n' :: rest) = linesKept (cs ++ ['\n']) ++ linesKept rest := by
  induction cs with
  | nil => simp [linesKept]
  | cons c cs ih =>
    rw [List.cons_append, List.cons_append, linesKept, linesKept]
    split
    · rw [ih, List.cons_append]
    · have hne : cs ++ ['\n'] ≠ [] := by simp
      obtain ⟨line, lines, h⟩ := List.exists_cons_of_ne_nil (linesKept_ne_nil hne)
      rw [ih, h]
      rfl

theorem linesKept_append_of_getLast? {cs : List Char} (h : cs.getLast? = some '\n')
    (rest : List Char) : linesKept (cs ++ rest) = linesKept cs ++ linesKept rest := by
  obtain ⟨before, rfl⟩ := List.getLast?_eq_some_iff.1 h
  rw [List.append_assoc]
  exact linesKept_append before rest

/-- The first line feed ends the first line. -/
theorem linesKept_cons {line : List Char} (h : '\n' ∉ line) (rest : List Char) :
    linesKept (line ++ '\n' :: rest) = (line ++ ['\n']) :: linesKept rest := by
  induction line with
  | nil => simp [linesKept]
  | cons c line ih =>
    have hc : c ≠ '\n' := fun hc => h (hc ▸ List.mem_cons_self ..)
    have hline : '\n' ∉ line := fun hmem => h (List.mem_cons_of_mem _ hmem)
    rw [List.cons_append, linesKept, if_neg hc, ih hline]
    rfl

/-- No line goes on behind its line feed. -/
theorem exists_of_mem_linesKept {line cs : List Char} (h : line ∈ linesKept cs) :
    ∃ bare, '\n' ∉ bare ∧ (line = bare ∨ line = bare ++ ['\n']) := by
  induction cs generalizing line with
  | nil => cases h
  | cons c cs ih =>
    rw [linesKept] at h
    split at h
    · next hc =>
      rcases List.mem_cons.1 h with rfl | h
      · exact ⟨[], List.not_mem_nil, .inr (by rw [hc]; rfl)⟩
      · exact ih h
    · next hc =>
      split at h
      · rw [List.mem_singleton.1 h]
        exact ⟨[c], by simpa using Ne.symm hc, .inl rfl⟩
      · next first rest hlines =>
        rw [hlines] at ih
        rcases List.mem_cons.1 h with rfl | h
        · obtain ⟨bare, hbare, hfirst⟩ := ih (List.mem_cons_self ..)
          refine ⟨c :: bare, List.not_mem_cons_of_ne_of_not_mem (Ne.symm hc) hbare, ?_⟩
          exact hfirst.imp (congrArg _) (congrArg _)
        · exact ih (List.mem_cons_of_mem _ h)

theorem linesKept_of_not_mem {line : List Char} (h : '\n' ∉ line) (hne : line ≠ []) :
    linesKept line = [line] := by
  induction line with
  | nil => exact absurd rfl hne
  | cons c line ih =>
    obtain ⟨hc, hline⟩ := List.ne_and_not_mem_of_not_mem_cons h
    rw [linesKept, if_neg hc.symm]
    cases line with
    | nil => rfl
    | cons d line => rw [ih hline (List.cons_ne_nil _ _)]

/-- Lines that others follow make up a text of whole lines. -/
theorem linesKept_eq_append {cs line : List Char} {before after : List (List Char)}
    (h : linesKept cs = before ++ line :: after) :
    linesKept before.flatten = before ∧
      (before.flatten = [] ∨ before.flatten.getLast? = some '\n') ∧
      linesKept (line ++ after.flatten) = line :: after := by
  induction before generalizing cs with
  | nil =>
    refine ⟨rfl, .inl rfl, ?_⟩
    rw [List.nil_append] at h
    rw [← List.flatten_cons, ← h, flatten_linesKept]
  | cons first before ih =>
    by_cases hfeed : '\n' ∈ cs
    · obtain ⟨bare, rest, rfl, hbare⟩ := List.eq_append_cons_of_mem hfeed
      rw [linesKept_cons hbare] at h
      obtain ⟨rfl, hrest⟩ := List.cons.inj h
      obtain ⟨hbefore, hend, hafter⟩ := ih hrest
      refine ⟨?_, .inr ?_, hafter⟩
      · rw [List.flatten_cons, List.append_assoc, List.singleton_append, linesKept_cons hbare,
          hbefore]
      · rcases hend with hnil | hlast
        · rw [List.flatten_cons, hnil, List.append_nil, List.getLast?_concat]
        · rw [List.flatten_cons, List.getLast?_append, hlast]
          rfl
    · -- a text without a line feed has no second line
      have hne : cs ≠ [] := by
        rintro rfl
        cases h
      have hlength := congrArg List.length h
      rw [linesKept_of_not_mem hfeed hne] at hlength
      simp at hlength

/-! ### Endings -/

/-- Whether a text is a line ending: a line feed, or a carriage return and a line feed. -/
def IsLineEnding (cs : List Char) : Prop := cs = ['\n'] ∨ cs = ['\r', '\n']

theorem afterLineEnd?_append {ending : List Char} (h : IsLineEnding ending) (rest : List Char) :
    afterLineEnd? (ending ++ rest) = some rest := by
  rcases h with rfl | rfl <;> rfl

theorem afterLineEnd?_eq_some_iff {cs rest : List Char} :
    afterLineEnd? cs = some rest ↔ ∃ ending, IsLineEnding ending ∧ cs = ending ++ rest := by
  constructor
  · intro h
    unfold afterLineEnd? at h
    split at h
    · cases h
      exact ⟨['\n'], .inl rfl, rfl⟩
    · cases h
      exact ⟨['\r', '\n'], .inr rfl, rfl⟩
    · cases h
  · rintro ⟨ending, hending, rfl⟩
    exact afterLineEnd?_append hending rest

theorem withoutEnding_of_not_mem {line : List Char} (h : '\n' ∉ line) :
    withoutEnding line = line := by
  rw [withoutEnding, before?_eq_none_of_not_mem h]

theorem withoutEnding_concat_of_getLast? {line : List Char} (h : line.getLast? ≠ some '\r') :
    withoutEnding (line ++ ['\n']) = line := by
  have hnone : before? ['\r'] line = none := by
    refine Option.eq_none_iff_forall_ne_some.2 fun bare hbare => h ?_
    rw [before?_eq_some_iff.1 hbare, List.getLast?_concat]
  rw [withoutEnding, before?_eq_some_iff.2 rfl]
  dsimp only
  rw [hnone, Option.getD_none]

theorem withoutEnding_concat {line : List Char} (h : '\r' ∉ line) :
    withoutEnding (line ++ ['\n']) = line :=
  withoutEnding_concat_of_getLast? fun hlast => h (List.mem_of_getLast? hlast)

theorem lineFeed_not_mem_of_mem_lines {line cs : List Char} (h : line ∈ lines cs) :
    '\n' ∉ line := by
  obtain ⟨kept, hkept, rfl⟩ := List.mem_map.1 h
  obtain ⟨bare, hbare, rfl | rfl⟩ := exists_of_mem_linesKept hkept
  · rwa [withoutEnding_of_not_mem hbare]
  · rw [withoutEnding, before?_eq_some_iff.2 rfl]
    dsimp only
    cases hreturn : before? ['\r'] bare with
    | none => exact hbare
    | some shorter =>
      rw [before?_eq_some_iff.1 hreturn] at hbare
      exact fun hmem => hbare (List.mem_append_left _ hmem)

/-- Lines that are joined are the lines of the text, unless the last one is empty. -/
theorem lines_join {all : List (List Char)} (h : ∀ line ∈ all, '\n' ∉ line ∧ '\r' ∉ line)
    (hlast : all.getLast? ≠ some []) : lines (join ['\n'] all) = all := by
  induction all with
  | nil => rfl
  | cons line rest ih =>
    obtain ⟨⟨hfeed, hreturn⟩, hrest⟩ := List.forall_mem_cons.1 h
    cases rest with
    | nil =>
      have hne : line ≠ [] := fun hnil => hlast (congrArg some hnil)
      rw [join, lines, linesKept_of_not_mem hfeed hne, List.map_singleton,
        withoutEnding_of_not_mem hfeed]
    | cons next rest =>
      rw [join, List.append_assoc, List.singleton_append, lines, linesKept_cons hfeed,
        List.map_cons, withoutEnding_concat hreturn, ← lines, ih hrest (by simpa using hlast)]

end NoteBridge.Text
