import NoteBridge.Proofs.Page.Plain
import NoteBridge.Proofs.Page.RunLength
import NoteBridge.Proofs.Text.Blank

/-!
The pieces that a long text is cut into. Each but the last is cut off a text that is longer than the
limit, behind the last line feed within the limit or else at it, and this leaves no choice: no other
pieces make up the text.
-/

namespace NoteBridge.Page

variable {limit : Nat} {cs piece : List Char}

/-! ### One piece -/

/-- Whether a piece is what comes off a text that is longer than the limit: its first `limit`
characters up to the last line feed among them, or all of these where there is none. -/
structure IsCutOff (limit : Nat) (piece cs : List Char) : Prop where
  long : limit < cs.length
  behind_line : '\n' ∈ cs.take limit →
    ∃ line rest, cs.take limit = line ++ '\n' :: rest ∧ '\n' ∉ rest ∧ piece = line ++ ['\n']
  at_limit : '\n' ∉ cs.take limit → piece = cs.take limit

/-- A text with a line feed has a last one. -/
theorem exists_last_lineFeed (h : '\n' ∈ cs) :
    ∃ line rest, cs = line ++ '\n' :: rest ∧ '\n' ∉ rest := by
  obtain ⟨rest, line, heq, hrest⟩ := List.eq_append_cons_of_mem (List.mem_reverse.2 h)
  refine ⟨line.reverse, rest.reverse, ?_, mt List.mem_reverse.1 hrest⟩
  rw [← List.reverse_reverse cs, heq]
  simp

theorem dropEndWhile_line {rest : List Char} (h : '\n' ∉ rest) (line : List Char) :
    Text.dropEndWhile (· != '\n') (line ++ '\n' :: rest) = line ++ ['\n'] := by
  have hrest : ∀ c ∈ rest, (c != '\n') = true := fun c hc =>
    bne_iff_ne.2 (ne_of_mem_of_not_mem hc h)
  rw [List.append_cons, Text.dropEndWhile_append_of_pos hrest]
  exact Text.dropEndWhile_eq_self (by simp)

theorem take_cutPoint_of_line {line rest : List Char} (h : cs.take limit = line ++ '\n' :: rest)
    (hrest : '\n' ∉ rest) : cs.take (cutPoint limit cs) = line ++ ['\n'] := by
  have hcut : cutPoint limit cs = (line ++ ['\n']).length := by
    rw [cutPoint, h, dropEndWhile_line hrest]
    simp
  have hwindow : cs.take (cutPoint limit cs) = (cs.take limit).take (cutPoint limit cs) := by
    rw [List.take_take, Nat.min_eq_left (cutPoint_le limit cs)]
  rw [hwindow, h, List.append_cons, hcut, List.take_left]

/-- Exactly one piece comes off a text that is too long. -/
theorem isCutOff_iff :
    IsCutOff limit piece cs ↔ limit < cs.length ∧ piece = cs.take (cutPoint limit cs) := by
  constructor
  · intro h
    refine ⟨h.long, ?_⟩
    by_cases hline : '\n' ∈ cs.take limit
    · obtain ⟨line, rest, hwindow, hrest, rfl⟩ := h.behind_line hline
      exact (take_cutPoint_of_line hwindow hrest).symm
    · rw [h.at_limit hline, cutPoint_of_not_mem hline]
  · rintro ⟨hlong, rfl⟩
    refine ⟨hlong, fun hline => ?_, fun hline => ?_⟩
    · obtain ⟨line, rest, hwindow, hrest⟩ := exists_last_lineFeed hline
      exact ⟨line, rest, hwindow, hrest, take_cutPoint_of_line hwindow hrest⟩
    · rw [cutPoint_of_not_mem hline]

/-! ### All pieces -/

theorem splitText_of_le (h : cs.length ≤ max limit 1) :
    splitText limit cs = if cs.isEmpty then [] else [cs] := by
  rw [splitText, dif_neg (Nat.not_lt.2 h)]

/-- A piece that comes off a text is the first of its pieces. -/
theorem splitText_append {rest : List Char} (h : IsCutOff (max limit 1) piece (piece ++ rest)) :
    splitText limit (piece ++ rest) = piece :: splitText limit rest := by
  obtain ⟨hlong, hpiece⟩ := isCutOff_iff.1 h
  have hrest : (piece ++ rest).drop (cutPoint (max limit 1) (piece ++ rest)) = rest := by
    have hwhole := List.take_append_drop (cutPoint (max limit 1) (piece ++ rest)) (piece ++ rest)
    rw [← hpiece] at hwhole
    exact List.append_cancel_left hwhole
  rw [splitText, dif_pos hlong, ← hpiece]
  exact congrArg (fun left => piece :: splitText limit left) hrest

theorem isCutOff_of_splitText {before after : List (List Char)}
    (h : splitText limit cs = before ++ piece :: after) (hafter : after ≠ []) :
    IsCutOff (max limit 1) piece (piece ++ after.flatten) := by
  fun_induction splitText limit cs generalizing before with
  | case1 cs hlong _ ih =>
    cases before with
    | nil =>
      obtain ⟨rfl, rfl⟩ := List.cons.inj h
      rw [flatten_splitText, List.take_append_drop]
      exact isCutOff_iff.2 ⟨hlong, rfl⟩
    | cons first before => exact ih (List.cons.inj h).2
  | case2 => simp at h
  | case3 =>
    have hlength := congrArg List.length h
    have hpos := List.length_pos_iff.2 hafter
    simp only [List.length_append, List.length_cons, List.length_nil] at hlength
    omega

/-- The pieces of a text are the only texts that make it up, are not empty and within the limit,
and come off what is left of the text, except for the last, which is all that is left. -/
theorem splitText_eq_iff {pieces : List (List Char)} :
    splitText limit cs = pieces ↔
      pieces.flatten = cs ∧
      (∀ piece ∈ pieces, piece ≠ [] ∧ piece.length ≤ max limit 1) ∧
      ∀ before piece after, pieces = before ++ piece :: after → after ≠ [] →
        IsCutOff (max limit 1) piece (piece ++ after.flatten) := by
  constructor
  · rintro rfl
    refine ⟨flatten_splitText limit cs, fun piece hpiece => ?_, fun before piece after heq => ?_⟩
    · exact ⟨ne_nil_of_mem_splitText hpiece, length_le_of_mem_splitText hpiece⟩
    · exact isCutOff_of_splitText heq
  · rintro ⟨rfl, hpieces, hcut⟩
    induction pieces with
    | nil => exact splitText_of_le (Nat.zero_le _)
    | cons piece rest ih =>
      obtain ⟨⟨hne, hlength⟩, hrest⟩ := List.forall_mem_cons.1 hpieces
      cases rest with
      | nil =>
        rw [List.flatten_cons, List.flatten_nil, List.append_nil, splitText_of_le hlength,
          if_neg (mt List.isEmpty_iff.1 hne)]
      | cons next rest =>
        have hfirst := hcut [] piece (next :: rest) rfl (List.cons_ne_nil _ _)
        rw [List.flatten_cons, splitText_append hfirst]
        refine congrArg (piece :: ·) (ih hrest fun before other after heq hafter => ?_)
        exact hcut (piece :: before) other after (congrArg (piece :: ·) heq) hafter

end NoteBridge.Page
