/-!
Levels of a tree whose nodes stand in lists. A step leads from a level to one below it and says how
many levels deeper that one counts, which is none where a node only groups others. A count of levels
that no step exceeds, and that some step attains wherever there is more than one, tells how deep the
levels lie that hold something.
-/

namespace NoteBridge

variable {α : Type} {step : Nat → List α → List α → Prop} {top level below : List α}
  {depth extra limit : Nat}

/-- A list is a level of the tree at a depth: the top one, or one that steps lead to. -/
inductive LevelAt (step : Nat → List α → List α → Prop) (top : List α) : Nat → List α → Prop
  | top : LevelAt step top 0 top
  | descend {depth n : Nat} {level below : List α} : LevelAt step top depth level →
      step n level below → LevelAt step top (depth + n) below

/-- Some level that is not empty lies deeper than the limit. -/
def DeeperThan (step : Nat → List α → List α → Prop) (limit : Nat) (top : List α) : Prop :=
  ∃ depth level, LevelAt step top depth level ∧ level ≠ [] ∧ limit < depth

theorem LevelAt.trans (h : LevelAt step top depth level) (h' : LevelAt step level extra below) :
    LevelAt step top (depth + extra) below := by
  induction h' with
  | top => exact h
  | descend _ hstep ih =>
    rw [← Nat.add_assoc]
    exact ih.descend hstep

/-- What a function has to obey to count the levels that steps lead to. -/
structure CountsLevels [SizeOf α] (step : Nat → List α → List α → Prop) (levels : List α → Nat) :
    Prop where
  nil : levels [] = 0
  pos : ∀ {level}, level ≠ [] → 0 < levels level
  le : ∀ {n level below}, step n level below → n + levels below ≤ levels level
  attained : ∀ {level}, 1 < levels level →
    ∃ n below, step n level below ∧ below ≠ [] ∧ levels level = n + levels below
  smaller : ∀ {n level below}, step n level below → sizeOf below < sizeOf level

namespace CountsLevels

variable [SizeOf α] {levels : List α → Nat}

theorem depth_add_le (h : CountsLevels step levels) (hlevel : LevelAt step top depth level) :
    depth + levels level ≤ levels top := by
  induction hlevel with
  | top => omega
  | descend _ hstep ih =>
    have hle := h.le hstep
    omega

/-- The deepest level that is not empty: attaining steps are followed until one level is left. -/
theorem exists_deepest (h : CountsLevels step levels) {top : List α} (htop : top ≠ []) :
    ∃ depth level, LevelAt step top depth level ∧ level ≠ [] ∧ levels top = depth + 1 := by
  by_cases hone : 1 < levels top
  · obtain ⟨n, below, hstep, hbelow, hcount⟩ := h.attained hone
    have hsmaller := h.smaller hstep
    obtain ⟨depth, level, hlevel, hne, hdepth⟩ := exists_deepest h hbelow
    have hfirst : LevelAt step top (0 + n) below := LevelAt.top.descend hstep
    refine ⟨0 + n + depth, level, hfirst.trans hlevel, hne, ?_⟩
    omega
  · have hpos := h.pos htop
    exact ⟨0, top, .top, htop, by omega⟩
termination_by sizeOf top

theorem deeperThan_iff (h : CountsLevels step levels) :
    DeeperThan step limit top ↔ limit + 1 < levels top := by
  constructor
  · rintro ⟨depth, level, hlevel, hne, hdeep⟩
    have hle := h.depth_add_le hlevel
    have hpos := h.pos hne
    omega
  · intro hdeep
    have htop : top ≠ [] := by
      rintro rfl
      rw [h.nil] at hdeep
      omega
    obtain ⟨depth, level, hlevel, hne, hcount⟩ := h.exists_deepest htop
    exact ⟨depth, level, hlevel, hne, by omega⟩

end CountsLevels
end NoteBridge
