import NoteBridge.Proofs.Text.Lines
import NoteBridge.Proofs.Text.Search
import NoteBridge.Yaml.Writer

/-!
Splitting off front matter. A text begins with front matter exactly when its first line is the
delimiter and a later line is one too; what lies between them and what lies behind is cut out of
the text, which can be put together from both. Front matter that is written around lines without a
delimiter is split off again.
-/

namespace NoteBridge.FrontMatter

open Text

/-- Whether a line is the delimiter, its ending apart. -/
def IsDelimiter (line : List Char) : Prop := dropEndWhile isLineEnd line = delimiter

instance : DecidablePred IsDelimiter := fun _ => decEq _ _

theorem isDelimiter_delimiter : IsDelimiter (delimiter ++ ['\n']) := by decide

theorem isDelimiter_iff {line : List Char} :
    IsDelimiter line ↔ ∃ ending, line = delimiter ++ ending ∧ ∀ c ∈ ending, isLineEnd c := by
  constructor
  · intro h
    refine ⟨takeEndWhile isLineEnd line, ?_, forall_mem_takeEndWhile⟩
    rw [← h]
    exact List.rdropWhile_append_rtakeWhile.symm
  · rintro ⟨ending, rfl, hending⟩
    exact dropEndWhile_append_of_pos hending _

theorem closing?_of_isDelimiter {line : List Char} {lines : List (List Char)}
    (h : IsDelimiter line) :
    closing? (line :: lines) = some ([], line.drop delimiter.length ++ lines.flatten) :=
  if_pos h

theorem closing?_of_not_isDelimiter {line : List Char} {lines : List (List Char)}
    (h : ¬IsDelimiter line) :
    closing? (line :: lines) = (closing? lines).map fun cut => (line ++ cut.1, cut.2) :=
  if_neg h

theorem closing?_eq_none_iff {lines : List (List Char)} :
    closing? lines = none ↔ ∀ line ∈ lines, ¬IsDelimiter line := by
  induction lines with
  | nil => simp [closing?]
  | cons line lines ih =>
    rw [List.forall_mem_cons]
    by_cases h : IsDelimiter line
    · simp [closing?_of_isDelimiter h, h]
    · simp [closing?_of_not_isDelimiter h, h, ih]

theorem closing?_append {before lines : List (List Char)} {line : List Char}
    (hbefore : ∀ line ∈ before, ¬IsDelimiter line) (hline : IsDelimiter line) :
    closing? (before ++ line :: lines) =
      some (before.flatten, line.drop delimiter.length ++ lines.flatten) := by
  induction before with
  | nil => exact closing?_of_isDelimiter hline
  | cons first before ih =>
    obtain ⟨hfirst, hbefore⟩ := List.forall_mem_cons.1 hbefore
    rw [List.cons_append, closing?_of_not_isDelimiter hfirst, ih hbefore]
    rfl

/-- The first delimiter among the lines closes. -/
theorem closing?_eq_some_iff {lines : List (List Char)} {matter left : List Char} :
    closing? lines = some (matter, left) ↔ ∃ before line after, lines = before ++ line :: after ∧
      (∀ line ∈ before, ¬IsDelimiter line) ∧ IsDelimiter line ∧
      matter = before.flatten ∧ left = line.drop delimiter.length ++ after.flatten := by
  constructor
  · intro h
    induction lines generalizing matter with
    | nil => cases h
    | cons line lines ih =>
      by_cases hline : IsDelimiter line
      · rw [closing?_of_isDelimiter hline] at h
        cases h
        exact ⟨[], line, lines, rfl, List.forall_mem_nil _, hline, rfl, rfl⟩
      · rw [closing?_of_not_isDelimiter hline] at h
        obtain ⟨⟨matter', left'⟩, hrest, heq⟩ := Option.map_eq_some_iff.1 h
        cases heq
        obtain ⟨before, close, after, rfl, hbefore, hclose, rfl, rfl⟩ := ih hrest
        exact ⟨line :: before, close, after, rfl, List.forall_mem_cons.2 ⟨hline, hbefore⟩, hclose,
          rfl, rfl⟩
  · rintro ⟨before, line, after, rfl, hbefore, hline, rfl, rfl⟩
    exact closing?_append hbefore hline

/-- The lines of a text are closed where a line of its own begins with the delimiter, and all lines
before it are others. -/
theorem closing?_linesKept_eq_some_iff {cs matter left : List Char} :
    closing? (linesKept cs) = some (matter, left) ↔
      cs = matter ++ delimiter ++ left ∧ (matter = [] ∨ matter.getLast? = some '\n') ∧
      (∀ line ∈ linesKept matter, ¬IsDelimiter line) ∧
      ∀ line ∈ (linesKept (delimiter ++ left)).head?, IsDelimiter line := by
  rw [closing?_eq_some_iff]
  constructor
  · rintro ⟨before, line, after, hlines, hbefore, hline, rfl, rfl⟩
    obtain ⟨hkept, hend, hafter⟩ := linesKept_eq_append hlines
    obtain ⟨ending, rfl, -⟩ := isDelimiter_iff.1 hline
    rw [List.drop_left]
    refine ⟨?_, hend, by rwa [hkept], ?_⟩
    · rw [← flatten_linesKept cs, hlines]
      simp only [List.flatten_append, List.flatten_cons, List.append_assoc]
    · rw [← List.append_assoc, hafter]
      rintro _ ⟨⟩
      exact hline
  · rintro ⟨rfl, hend, hmatter, hline⟩
    have hne : delimiter ++ left ≠ [] := List.cons_ne_nil _ _
    obtain ⟨line, after, hafter⟩ := List.exists_cons_of_ne_nil (linesKept_ne_nil hne)
    rw [hafter] at hline
    have hdelimiter : IsDelimiter line := hline line rfl
    have hlines : linesKept (matter ++ delimiter ++ left) = linesKept matter ++ line :: after := by
      rw [List.append_assoc, ← hafter]
      rcases hend with rfl | hlast
      · rfl
      · exact linesKept_append_of_getLast? hlast _
    refine ⟨linesKept matter, line, after, hlines, hmatter, hdelimiter,
      (flatten_linesKept matter).symm, ?_⟩
    have hleft : line ++ after.flatten = delimiter ++ left := by
      rw [← List.flatten_cons, ← hafter, flatten_linesKept]
    obtain ⟨ending, rfl, -⟩ := isDelimiter_iff.1 hdelimiter
    rw [List.append_assoc] at hleft
    rw [List.drop_left, List.append_cancel_left hleft]

/-! ### Splitting -/

theorem opened?_eq_some_iff {cs rest : List Char} :
    (after? delimiter cs).bind afterLineEnd? = some rest ↔
      ∃ opening, IsLineEnding opening ∧ cs = delimiter ++ opening ++ rest := by
  rw [Option.bind_eq_some_iff]
  constructor
  · rintro ⟨behind, hbehind, hending⟩
    obtain ⟨opening, hopening, rfl⟩ := afterLineEnd?_eq_some_iff.1 hending
    exact ⟨opening, hopening, by rw [after?_eq_some_iff.1 hbehind, List.append_assoc]⟩
  · rintro ⟨opening, hopening, rfl⟩
    exact ⟨opening ++ rest, after?_eq_some_iff.2 (List.append_assoc ..),
      afterLineEnd?_append hopening rest⟩

theorem splitChars_eq_some_iff {cs matter body : List Char} :
    splitChars cs = (some matter, body) ↔ ∃ opening rest left, IsLineEnding opening ∧
      cs = delimiter ++ opening ++ rest ∧ closing? (linesKept rest) = some (matter, left) ∧
      (afterLineEnd? left).getD left = body := by
  unfold splitChars
  constructor
  · intro h
    split at h
    · next matter' left hcut =>
      cases h
      obtain ⟨rest, hopened, hclose⟩ := Option.bind_eq_some_iff.1 hcut
      obtain ⟨opening, hopening, rfl⟩ := opened?_eq_some_iff.1 hopened
      exact ⟨opening, rest, left, hopening, rfl, hclose, rfl⟩
    · cases h
  · rintro ⟨opening, rest, left, hopening, rfl, hclose, rfl⟩
    rw [opened?_eq_some_iff.2 ⟨opening, hopening, rfl⟩, Option.bind_some, hclose]

theorem splitChars_eq_none_iff {cs body : List Char} :
    splitChars cs = (none, body) ↔ body = cs ∧ ∀ opening rest, IsLineEnding opening →
      cs = delimiter ++ opening ++ rest → ∀ line ∈ linesKept rest, ¬IsDelimiter line := by
  unfold splitChars
  constructor
  · intro h
    split at h
    · cases h
    · next hnone =>
      cases h
      refine ⟨rfl, fun opening rest hopening heq => closing?_eq_none_iff.1 ?_⟩
      rwa [opened?_eq_some_iff.2 ⟨opening, hopening, heq⟩, Option.bind_some] at hnone
  · rintro ⟨rfl, hlines⟩
    have hnone : ((after? delimiter body).bind afterLineEnd?).bind
        (fun rest => closing? (linesKept rest)) = none := by
      rw [Option.bind_eq_none_iff]
      intro rest hrest
      obtain ⟨opening, hopening, heq⟩ := opened?_eq_some_iff.1 hrest
      exact closing?_eq_none_iff.2 (hlines opening rest hopening heq)
    rw [hnone]

theorem splitChars_of_not_prefix {cs : List Char} (h : ¬delimiter <+: cs) :
    splitChars cs = (none, cs) := by
  refine splitChars_eq_none_iff.2 ⟨rfl, fun opening rest _ heq => absurd ⟨opening ++ rest, ?_⟩ h⟩
  rw [heq, List.append_assoc]

theorem splitChars_delimiter (rest : List Char) :
    splitChars (delimiter ++ '\n' :: rest) =
      match closing? (linesKept rest) with
      | some (matter, rest) => (some matter, (afterLineEnd? rest).getD rest)
      | none => (none, delimiter ++ '\n' :: rest) := by
  rw [splitChars, after?_eq_some_iff.2 rfl]
  rfl

/-- A text that begins with a delimiter line is all body exactly when no other line is one. -/
theorem splitChars_delimiter_eq_none_iff (rest : List Char) :
    splitChars (delimiter ++ '\n' :: rest) = (none, delimiter ++ '\n' :: rest) ↔
      ∀ line ∈ linesKept rest, ¬IsDelimiter line := by
  rw [splitChars_delimiter, ← closing?_eq_none_iff]
  cases closing? (linesKept rest) with
  | none => simp
  | some cut => simp

/-- Written front matter is split off again, and the empty line behind it stays with the body. -/
theorem splitChars_delimited {matter : List Char} (hend : matter.getLast? = some '\n')
    (hlines : ∀ line ∈ linesKept matter, ¬IsDelimiter line) (body : List Char) :
    splitChars (delimiter ++ '\n' :: matter ++ delimiter ++ '\n' :: '\n' :: body) =
      (some matter, '\n' :: body) := by
  have hkept : linesKept (matter ++ (delimiter ++ '\n' :: '\n' :: body)) =
      linesKept matter ++ (delimiter ++ ['\n']) :: linesKept ('\n' :: body) := by
    rw [linesKept_append_of_getLast? hend, linesKept_cons (by decide)]
  have htext : delimiter ++ '\n' :: matter ++ delimiter ++ '\n' :: '\n' :: body =
      delimiter ++ '\n' :: (matter ++ (delimiter ++ '\n' :: '\n' :: body)) := by
    simp
  rw [htext, splitChars_delimiter, hkept, closing?_append hlines isDelimiter_delimiter,
    flatten_linesKept, flatten_linesKept]
  rfl

/-! ### What is cut out -/

/-- What a body is when the ending of the closing line, if it has one, is taken off. -/
theorem afterLineEnd?_getD_eq_iff {left body : List Char} :
    (afterLineEnd? left).getD left = body ↔ ∃ closing, left = closing ++ body ∧
      (closing = [] ∨ IsLineEnding closing) ∧
      (closing = [] → ∀ ending, IsLineEnding ending → ¬ending <+: body) := by
  constructor
  · intro h
    cases hafter : afterLineEnd? left with
    | some rest =>
      rw [hafter] at h
      cases h
      obtain ⟨closing, hclosing, rfl⟩ := afterLineEnd?_eq_some_iff.1 hafter
      refine ⟨closing, rfl, .inr hclosing, ?_⟩
      rintro rfl
      rcases hclosing with hclosing | hclosing <;> cases hclosing
    | none =>
      rw [hafter] at h
      cases h
      refine ⟨[], rfl, .inl rfl, ?_⟩
      rintro - ending hending ⟨rest, rfl⟩
      rw [afterLineEnd?_append hending] at hafter
      cases hafter
  · rintro ⟨closing, rfl, hclosing, hnone⟩
    rcases hclosing with rfl | hclosing
    · have hafter : afterLineEnd? body = none := by
        rw [Option.eq_none_iff_forall_ne_some]
        intro rest hrest
        obtain ⟨ending, hending, rfl⟩ := afterLineEnd?_eq_some_iff.1 hrest
        exact hnone rfl ending hending ⟨rest, rfl⟩
      rw [List.nil_append, hafter, Option.getD_none]
    · rw [afterLineEnd?_append hclosing, Option.getD_some]

/-- What is split off a text, whatever its lines end with. The front matter stands between the
delimiter line at the start and the first one behind it, and nothing is taken out but the two
delimiters and one line ending behind each; a text without both lines is left whole. -/
theorem splitChars_outcome (cs : List Char) :
    (∀ matter body, splitChars cs = (some matter, body) ↔
      ∃ opening closing, cs = delimiter ++ opening ++ matter ++ delimiter ++ closing ++ body ∧
        IsLineEnding opening ∧ (closing = [] ∨ IsLineEnding closing) ∧
        (matter = [] ∨ matter.getLast? = some '\n') ∧
        (∀ line ∈ linesKept matter, ¬IsDelimiter line) ∧
        (∀ line ∈ (linesKept (delimiter ++ closing ++ body)).head?, IsDelimiter line) ∧
        (closing = [] → ∀ ending, IsLineEnding ending → ¬ending <+: body)) ∧
    (∀ body, splitChars cs = (none, body) ↔ body = cs ∧
      ∀ opening rest, IsLineEnding opening → cs = delimiter ++ opening ++ rest →
        ∀ line ∈ linesKept rest, ¬IsDelimiter line) := by
  refine ⟨fun matter body => ?_, fun body => splitChars_eq_none_iff⟩
  rw [splitChars_eq_some_iff]
  constructor
  · rintro ⟨opening, rest, left, hopening, rfl, hclose, hbody⟩
    obtain ⟨rfl, hend, hmatter, hline⟩ := closing?_linesKept_eq_some_iff.1 hclose
    obtain ⟨closing, rfl, hclosing, hnone⟩ := afterLineEnd?_getD_eq_iff.1 hbody
    refine ⟨opening, closing, ?_, hopening, hclosing, hend, hmatter, ?_, hnone⟩
    · simp only [List.append_assoc]
    · rwa [List.append_assoc]
  · rintro ⟨opening, closing, rfl, hopening, hclosing, hend, hmatter, hline, hnone⟩
    have hbody := afterLineEnd?_getD_eq_iff.2 ⟨closing, rfl, hclosing, hnone⟩
    refine ⟨opening, matter ++ delimiter ++ (closing ++ body), _, hopening, ?_, ?_, hbody⟩
    · simp only [List.append_assoc]
    · rw [List.append_assoc] at hline
      exact closing?_linesKept_eq_some_iff.2 ⟨rfl, hend, hmatter, hline⟩

end NoteBridge.FrontMatter
