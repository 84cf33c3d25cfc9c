import NoteBridge.Text.Search

/-!
Highlights, which stand between two pairs of equals signs. A pair without a partner is text, and so
are four signs in a row, which enclose nothing.
-/

namespace NoteBridge.Compose

/-- A piece of a text, and whether it is highlighted. -/
abbrev Piece := List Char × Bool

def mark : List Char := ['=', '=']

theorem cut?_mark_length {cs before after : List Char}
    (h : Text.cut? mark cs = some (before, after)) : after.length < cs.length := by
  induction cs generalizing before with
  | nil => simp [Text.cut?, mark] at h
  | cons c cs ih =>
    unfold Text.cut? at h
    split at h
    · next hp =>
      cases h
      have := (List.isPrefixOf_iff_prefix.1 hp).length_le
      simp only [mark, List.length_cons, List.length_nil, List.length_drop] at *
      omega
    · obtain ⟨⟨b, a⟩, hb, heq⟩ := Option.map_eq_some_iff.1 h
      cases heq
      have := ih hb
      simp only [List.length_cons]
      omega

def plainPiece (cs : List Char) : List Piece := if cs.isEmpty then [] else [(cs, false)]

def highlights (cs : List Char) : List Piece :=
  match ho : Text.cut? mark cs with
  | none => plainPiece cs
  | some (before, rest) =>
    match hc : Text.cut? mark rest with
    | none => plainPiece cs
    | some (inner, after) =>
      have := cut?_mark_length ho
      have := cut?_mark_length hc
      if inner.isEmpty then (before ++ mark ++ mark, false) :: highlights after
      else plainPiece before ++ (inner, true) :: highlights after
termination_by cs.length
decreasing_by all_goals omega

end NoteBridge.Compose
