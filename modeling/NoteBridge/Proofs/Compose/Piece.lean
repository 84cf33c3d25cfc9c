import NoteBridge.Proofs.Compose.Highlight

/-!
The pieces of a text with highlights. With the marks around the highlights they are the text, and a
plain piece holds no pair of marks with something in between: it has no mark, or two at its end with
nothing between them, or one behind which no other follows. This leaves no choice, since a plain
piece without a mark ends where the next highlight begins.
-/

namespace NoteBridge.Compose

open Text (cut? cut?_eq_none_iff cut?_pair_eq_some_iff eq_append_of_cut?)

variable {cs before rest inner after text : List Char}

/-- The text of a piece, with the marks around a highlight. -/
def Piece.source (piece : Piece) : List Char :=
  if piece.2 then mark ++ piece.1 ++ mark else piece.1

/-- Whether a mark behind the text is the first one: none is in the text, and none begins with its
last character. -/
def Unmarked (cs : List Char) : Prop := ¬mark <:+: cs ∧ cs.getLast? ≠ some '='

/-- Whether a plain text misses no highlight, the pieces `after` being what follows. It has no mark,
and only a highlight can follow, the mark of which is the first one; or it ends with its first mark
and another one right behind; or it is the last, and behind its first mark there is none. -/
def MissesNone (text : List Char) (after : List Piece) : Prop :=
  (¬mark <:+: text ∧ ∀ next ∈ after.head?, next.2 = true ∧ text.getLast? ≠ some '=') ∨
    (∃ lead, text = lead ++ mark ++ mark ∧ Unmarked lead) ∨
    (after = [] ∧ ∃ lead rest, text = lead ++ mark ++ rest ∧ Unmarked lead ∧ ¬mark <:+: rest)

/-- Whether no piece is empty, each highlight ends at the first mark, and no plain piece misses a
highlight. -/
def AreProper : List Piece → Prop
  | [] => True
  | piece :: after =>
    piece.1 ≠ [] ∧ (if piece.2 then Unmarked piece.1 else MissesNone piece.1 after) ∧
      AreProper after

/-! ### Cutting at marks -/

theorem cut?_mark_eq_some_iff :
    cut? mark cs = some (before, after) ↔ cs = before ++ mark ++ after ∧ Unmarked before :=
  cut?_pair_eq_some_iff

theorem highlights_of_not_infix (h : ¬mark <:+: cs) : highlights cs = plainPiece cs := by
  have hnone : cut? mark cs = none := cut?_eq_none_iff.2 h
  rw [highlights]
  split
  · rfl
  · next hopen => cases hnone.symm.trans hopen

theorem highlights_of_lone_mark (hbefore : Unmarked before) (hrest : ¬mark <:+: rest) :
    highlights (before ++ mark ++ rest) = plainPiece (before ++ mark ++ rest) := by
  have hopen : cut? mark (before ++ mark ++ rest) = some (before, rest) :=
    cut?_mark_eq_some_iff.2 ⟨rfl, hbefore⟩
  have hnone : cut? mark rest = none := cut?_eq_none_iff.2 hrest
  rw [highlights]
  split
  · rfl
  · next hopen' =>
    cases hopen.symm.trans hopen'
    split
    · rfl
    · next hclose => cases hnone.symm.trans hclose

theorem highlights_of_pair (hbefore : Unmarked before) (hinner : Unmarked inner)
    (after : List Char) :
    highlights (before ++ mark ++ (inner ++ mark ++ after)) =
      if inner.isEmpty then (before ++ mark ++ mark, false) :: highlights after
      else plainPiece before ++ (inner, true) :: highlights after := by
  have hopen := cut?_mark_eq_some_iff.2
    ⟨(rfl : before ++ mark ++ (inner ++ mark ++ after) = _), hbefore⟩
  have hclose := cut?_mark_eq_some_iff.2 ⟨(rfl : inner ++ mark ++ after = _), hinner⟩
  rw [highlights]
  split
  · next hnone => cases hopen.symm.trans hnone
  · next hopen' =>
    cases hopen.symm.trans hopen'
    split
    · next hnone => cases hclose.symm.trans hnone
    · next hclose' =>
      cases hclose.symm.trans hclose'
      rfl

/-! ### The pieces of a text -/

theorem plainPiece_of_ne_nil (h : cs ≠ []) : plainPiece cs = [(cs, false)] :=
  if_neg (mt List.isEmpty_iff.1 h)

theorem flatMap_source_plainPiece (cs : List Char) : (plainPiece cs).flatMap Piece.source = cs := by
  cases cs with
  | nil => rfl
  | cons c cs => exact List.append_nil _

theorem flatMap_source_highlights (cs : List Char) :
    (highlights cs).flatMap Piece.source = cs := by
  fun_induction highlights cs with
  | case1 cs hnone => exact flatMap_source_plainPiece cs
  | case2 cs before rest hopen hnone => exact flatMap_source_plainPiece cs
  | case3 cs before rest hopen inner after hclose _ _ hempty ih =>
    rw [List.flatMap_cons, ih, eq_append_of_cut? hopen, eq_append_of_cut? hclose,
      List.isEmpty_iff.1 hempty]
    simp [Piece.source]
  | case4 cs before rest hopen inner after hclose _ _ hinner ih =>
    rw [List.flatMap_append, flatMap_source_plainPiece, List.flatMap_cons, ih,
      eq_append_of_cut? hopen, eq_append_of_cut? hclose]
    simp [Piece.source]

theorem areProper_plainPiece (h : MissesNone cs []) : AreProper (plainPiece cs) := by
  by_cases hcs : cs = []
  · rw [hcs]
    trivial
  · rw [plainPiece_of_ne_nil hcs]
    exact ⟨hcs, h, trivial⟩

theorem areProper_highlights (cs : List Char) : AreProper (highlights cs) := by
  fun_induction highlights cs with
  | case1 cs hnone =>
    exact areProper_plainPiece (.inl ⟨cut?_eq_none_iff.1 hnone, by simp⟩)
  | case2 cs before rest hopen hnone =>
    obtain ⟨rfl, hbefore⟩ := cut?_mark_eq_some_iff.1 hopen
    apply areProper_plainPiece
    exact .inr (.inr ⟨rfl, before, rest, rfl, hbefore, cut?_eq_none_iff.1 hnone⟩)
  | case3 cs before rest hopen inner after hclose _ _ hempty ih =>
    have hbefore := (cut?_mark_eq_some_iff.1 hopen).2
    exact ⟨by simp [mark], .inr (.inl ⟨before, rfl, hbefore⟩), ih⟩
  | case4 cs before rest hopen inner after hclose _ _ hinner ih =>
    obtain ⟨hnone, hlast⟩ := (cut?_mark_eq_some_iff.1 hopen).2
    have hproper : AreProper ((inner, true) :: highlights after) :=
      ⟨mt List.isEmpty_iff.2 hinner, (cut?_mark_eq_some_iff.1 hclose).2, ih⟩
    by_cases hcs : before = []
    · rw [hcs]
      exact hproper
    · rw [plainPiece_of_ne_nil hcs]
      refine ⟨hcs, .inl ⟨hnone, ?_⟩, hproper⟩
      rintro next ⟨⟩
      exact ⟨rfl, hlast⟩

/-! ### Pieces found again -/

theorem unmarked_nil : Unmarked [] := ⟨by simp [mark], nofun⟩

theorem highlights_append_source (htext : Unmarked text) (hne : inner ≠ [])
    (hinner : Unmarked inner) (after : List Char) :
    highlights (text ++ (Piece.source (inner, true) ++ after)) =
      plainPiece text ++ (inner, true) :: highlights after := by
  have hpair := highlights_of_pair htext hinner after
  rw [if_neg (mt List.isEmpty_iff.1 hne)] at hpair
  rw [← hpair]
  simp [Piece.source]

/-- Pieces that fit together are found again in the text that they make up. -/
theorem highlights_flatMap_source {pieces : List Piece} (h : AreProper pieces) :
    highlights (pieces.flatMap Piece.source) = pieces := by
  induction pieces with
  | nil => exact highlights_eq_nil_iff.2 rfl
  | cons piece after ih =>
    obtain ⟨text, highlighted⟩ := piece
    obtain ⟨hne, hpiece, hafter⟩ := h
    have hrest := ih hafter
    rw [List.flatMap_cons]
    cases highlighted with
    | true =>
      have hfirst := highlights_append_source unmarked_nil hne hpiece (after.flatMap Piece.source)
      rw [hrest] at hfirst
      exact hfirst
    | false =>
      rcases hpiece with ⟨hnone, hnext⟩ | ⟨lead, rfl, hlead⟩ | ⟨rfl, lead, rest, rfl, hlead, hlone⟩
      · have hplain : plainPiece text = [(text, false)] := plainPiece_of_ne_nil hne
        cases after with
        | nil =>
          rw [List.flatMap_nil, List.append_nil, ← hplain]
          exact highlights_of_not_infix hnone
        | cons next after =>
          obtain ⟨inner, highlighted⟩ := next
          obtain ⟨rfl, hlast⟩ := hnext _ rfl
          obtain ⟨hne', hinner, -⟩ := hafter
          have hwhole := highlights_append_source ⟨hnone, hlast⟩ hne' hinner
            (after.flatMap Piece.source)
          have hlater := highlights_append_source unmarked_nil hne' hinner
            (after.flatMap Piece.source)
          rw [hplain] at hwhole
          exact hwhole.trans (congrArg ((text, false) :: ·) (hlater.symm.trans hrest))
      · have hpair := highlights_of_pair hlead unmarked_nil (after.flatMap Piece.source)
        rw [hrest] at hpair
        refine (congrArg highlights ?_).trans hpair
        exact List.append_assoc ..
      · rw [List.flatMap_nil, List.append_nil, ← plainPiece_of_ne_nil hne]
        exact highlights_of_lone_mark hlead hlone

/-- The pieces of a text are the only ones that make it up, with marks around the highlights, of
which none is empty, no highlight has a mark inside, and no plain one misses a highlight. -/
theorem highlights_eq_iff {pieces : List Piece} :
    highlights cs = pieces ↔ pieces.flatMap Piece.source = cs ∧ AreProper pieces := by
  constructor
  · rintro rfl
    exact ⟨flatMap_source_highlights cs, areProper_highlights cs⟩
  · rintro ⟨rfl, hproper⟩
    exact highlights_flatMap_source hproper

end NoteBridge.Compose
