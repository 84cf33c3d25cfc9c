import NoteBridge.Compose.Highlight
import NoteBridge.Proofs.Text.Search

/-!
Highlights by the marks of a text. The marks part a text into segments, and highlights are every
second segment that stands between two marks and holds something. This reads a text from its start,
where the search for highlights goes from mark to mark, and both show the same characters.
-/

namespace NoteBridge.Compose

/-- The segments of a text between its marks, from left to right. -/
def segments : List Char → List (List Char)
  | [] => [[]]
  | [c] => [[c]]
  | c :: d :: cs =>
    if [c, d] = mark then [] :: segments cs else (segments (d :: cs)).modifyHead (c :: ·)

/-- The characters that segments show, and which of them are highlighted. A mark without a partner
is shown, and so are two that enclose nothing. -/
def shownChars : List (List Char) → List (Char × Bool)
  | before :: inner :: after :: rest =>
    (if inner = [] then (before ++ mark ++ mark).map (·, false)
      else before.map (·, false) ++ inner.map (·, true)) ++ shownChars (after :: rest)
  | [before, after] => (before ++ mark ++ after).map (·, false)
  | [segment] => segment.map (·, false)
  | [] => []

/-- The characters of pieces, each with what its piece is. -/
def pieceChars (pieces : List Piece) : List (Char × Bool) :=
  pieces.flatMap fun piece => piece.1.map (·, piece.2)

variable {cs before after : List Char}

/-! ### Cutting at a mark -/

theorem cut?_mark_cons_cons (c d : Char) (cs : List Char) :
    Text.cut? mark (c :: d :: cs) =
      if [c, d] = mark then some ([], cs)
      else (Text.cut? mark (d :: cs)).map fun cut => (c :: cut.1, cut.2) := by
  have hstart : mark.isPrefixOf (c :: d :: cs) = true ↔ [c, d] = mark := by
    rw [List.isPrefixOf_iff_prefix]
    constructor
    · rintro ⟨rest, heq⟩
      cases heq
      rfl
    · intro heq
      cases heq
      exact ⟨cs, rfl⟩
  rw [Text.cut?]
  by_cases hmark : [c, d] = mark
  · rw [if_pos (hstart.2 hmark), if_pos hmark]
    rfl
  · rw [if_neg (mt hstart.1 hmark), if_neg hmark]

theorem segments_of_cut? (cs : List Char) :
    segments cs = match Text.cut? mark cs with
      | none => [cs]
      | some (before, after) => before :: segments after := by
  fun_induction segments cs with
  | case1 => rfl
  | case2 c =>
    have hshort : Text.cut? mark [c] = none := by simp [Text.cut?, mark]
    rw [hshort]
  | case3 c d cs hmark => rw [cut?_mark_cons_cons, if_pos hmark]
  | case4 c d cs hmark ih =>
    rw [cut?_mark_cons_cons, if_neg hmark, ih]
    cases Text.cut? mark (d :: cs) with
    | none => rfl
    | some cut => rfl

theorem segments_eq_single (h : Text.cut? mark cs = none) : segments cs = [cs] := by
  rw [segments_of_cut?, h]

theorem segments_eq_cons (h : Text.cut? mark cs = some (before, after)) :
    segments cs = before :: segments after := by
  rw [segments_of_cut?, h]

theorem exists_segments (cs : List Char) : ∃ first rest, segments cs = first :: rest := by
  rw [segments_of_cut?]
  split
  · exact ⟨cs, [], rfl⟩
  · next before after _ => exact ⟨before, segments after, rfl⟩

@[simp] theorem length_mark : mark.length = 2 := rfl

/-- Segments with the marks between them are the text. -/
theorem join_segments (cs : List Char) : Text.join mark (segments cs) = cs := by
  fun_induction segments cs with
  | case1 => rfl
  | case2 c => rfl
  | case3 c d cs hmark ih =>
    obtain ⟨first, rest, hsegments⟩ := exists_segments cs
    rw [Text.join_cons [] (by rw [hsegments]; exact List.cons_ne_nil _ _), ih, ← hmark]
    rfl
  | case4 c d cs hmark ih =>
    obtain ⟨first, rest, hsegments⟩ := exists_segments (d :: cs)
    rw [hsegments] at ih ⊢
    rw [List.modifyHead_cons]
    cases rest with
    | nil => exact congrArg (c :: ·) ih
    | cons next rest =>
      rw [Text.join] at ih ⊢
      rw [← ih]
      rfl

/-! ### Highlights -/

/-- Whether the text has characters that are highlighted. -/
def HasHighlight (cs : List Char) : Prop := ∃ c, (c, true) ∈ shownChars (segments cs)

theorem shownChars_of_forall_not_mem {segments : List (List Char)}
    (h : ∀ c, (c, true) ∉ shownChars segments) :
    shownChars segments = (Text.join mark segments).map (·, false) := by
  fun_induction shownChars segments with
  | case1 before inner after rest ih =>
    have hinner : inner = [] := by
      cases inner with
      | nil => rfl
      | cons c cs => exact absurd (by simp) (h c)
    have hrest := ih fun c hc => h c (List.mem_append_right _ hc)
    rw [if_pos hinner, hrest, hinner, Text.join_cons _ (List.cons_ne_nil _ _),
      Text.join_cons _ (List.cons_ne_nil _ _)]
    simp
  | case2 before after => rfl
  | case3 segment => rfl
  | case4 => rfl

theorem length_shownChars_le (segments : List (List Char)) :
    (shownChars segments).length ≤ (Text.join mark segments).length := by
  fun_induction shownChars segments with
  | case1 before inner after rest ih =>
    rw [Text.join_cons _ (List.cons_ne_nil _ _), Text.join_cons _ (List.cons_ne_nil _ _)]
    split <;> simp at * <;> omega
  | case2 before after => simp [Text.join]
  | case3 segment => simp [Text.join]
  | case4 => exact Nat.le_refl _

/-- The marks around a highlight are not shown. -/
theorem length_shownChars_lt {segments : List (List Char)} {c : Char}
    (h : (c, true) ∈ shownChars segments) :
    (shownChars segments).length < (Text.join mark segments).length := by
  fun_induction shownChars segments with
  | case1 before inner after rest ih =>
    have hle := length_shownChars_le (after :: rest)
    rw [Text.join_cons _ (List.cons_ne_nil _ _), Text.join_cons _ (List.cons_ne_nil _ _)]
    by_cases hinner : inner = []
    · rw [if_pos hinner] at h ⊢
      have hlt := ih (by simpa using h)
      simp [hinner] at *
      omega
    · rw [if_neg hinner]
      simp at *
      omega
  | case2 before after => simp at h
  | case3 segment => simp at h
  | case4 => cases h

theorem plainPiece_eq_nil_iff : plainPiece cs = [] ↔ cs = [] := by
  cases cs with
  | nil => exact ⟨fun _ => rfl, fun _ => rfl⟩
  | cons c cs => exact ⟨nofun, nofun⟩

theorem highlights_eq_nil_iff : highlights cs = [] ↔ cs = [] := by
  fun_induction highlights cs with
  | case1 cs _ => exact plainPiece_eq_nil_iff
  | case2 cs _ _ _ _ => exact plainPiece_eq_nil_iff
  | case3 cs before rest hopen inner after hclose _ _ hempty ih =>
    rw [Text.eq_append_of_cut? hopen]
    simp [mark]
  | case4 cs before rest hopen inner after hclose _ _ hinner ih =>
    rw [Text.eq_append_of_cut? hopen]
    simp [mark]

theorem pieceChars_plainPiece (cs : List Char) :
    pieceChars (plainPiece cs) = cs.map (·, false) := by
  cases cs with
  | nil => rfl
  | cons c cs => exact List.append_nil _

theorem pieceChars_highlights (cs : List Char) :
    pieceChars (highlights cs) = shownChars (segments cs) := by
  fun_induction highlights cs with
  | case1 cs hnone => rw [pieceChars_plainPiece, segments_eq_single hnone, shownChars]
  | case2 cs before rest hopen hnone =>
    rw [pieceChars_plainPiece, segments_eq_cons hopen, segments_eq_single hnone, shownChars,
      Text.eq_append_of_cut? hopen]
  | case3 cs before rest hopen inner after hclose _ _ hempty ih =>
    obtain ⟨first, others, hsegments⟩ := exists_segments after
    rw [segments_eq_cons hopen, segments_eq_cons hclose, hsegments, shownChars,
      if_pos (List.isEmpty_iff.1 hempty), ← hsegments, ← ih]
    rfl
  | case4 cs before rest hopen inner after hclose _ _ hinner ih =>
    obtain ⟨first, others, hsegments⟩ := exists_segments after
    rw [segments_eq_cons hopen, segments_eq_cons hclose, hsegments, shownChars,
      if_neg (mt List.isEmpty_iff.2 hinner), ← hsegments, ← ih, pieceChars, List.flatMap_append,
      List.flatMap_cons, ← pieceChars, pieceChars_plainPiece, List.append_assoc]
    rfl

/-- The third mark has no partner. -/
example : shownChars (segments "a==b==c==".toList) =
    [('a', false), ('b', true), ('c', false), ('=', false), ('=', false)] := by
  decide

end NoteBridge.Compose
