import Mathlib.Data.List.Infix
import NoteBridge.Markdown.TableRow
import NoteBridge.Proofs.Text.Blank

/-!
Reading the rows of tables. A bar that no backslash stands right before ends a cell, and the text
before it is the cell, with the backslashes before its own bars removed.
-/

namespace NoteBridge.Markdown.TableRow

open Text

variable {place : Nat} {escaped : Bool} {cs rest : List Char}

/-! ### Bars -/

/-- The places of the bars that no backslash stands right before, in a text that begins at `place`
and, if `escaped`, behind a backslash. -/
def barsFrom (place : Nat) (escaped : Bool) : List Char → List Nat
  | [] => []
  | c :: cs =>
    let later := barsFrom (place + 1) (c == '\\') cs
    if c = '|' ∧ !escaped then place :: later else later

/-- The places of the bars in a line that no backslash stands right before. -/
def bars (line : List Char) : List Nat := barsFrom 0 false line

/-- A space takes what stands behind it out of the reach of a backslash. -/
theorem barsFrom_append_space (place : Nat) (escaped : Bool) (cs rest : List Char) :
    barsFrom place escaped (cs ++ ' ' :: rest) =
      barsFrom place escaped cs ++ barsFrom (place + cs.length + 1) false rest := by
  induction cs generalizing place escaped with
  | nil => rfl
  | cons c cs ih =>
    have hplace : place + 1 + cs.length = place + (cs.length + 1) := by omega
    rw [List.cons_append, barsFrom, barsFrom, ih, List.length_cons, hplace]
    split <;> rfl

/-! ### Cells -/

/-- A text without bars is all of its cell. -/
theorem cellAt_append_space (h : barsFrom place escaped cs = []) (rest : List Char) :
    cellAt escaped (cs ++ ' ' :: '|' :: rest) = (cs ++ [' '], '|' :: rest) := by
  induction cs generalizing place escaped with
  | nil => simp [cellAt]
  | cons c cs ih =>
    rw [barsFrom] at h
    split at h
    · cases h
    · next hbar => rw [List.cons_append, cellAt, if_neg hbar, ih h, List.cons_append]

theorem freeBars_cons {c : Char} (h : c = '\\' → cs.head? ≠ some '|') :
    freeBars (c :: cs) = c :: freeBars cs := by
  cases cs with
  | nil => rfl
  | cons d cs =>
    rw [freeBars, if_neg]
    rintro ⟨hc, rfl⟩
    exact h hc rfl

theorem freeBars_append {before : List Char} (h : '\\' ∉ before) (cs : List Char) :
    freeBars (before ++ cs) = before ++ freeBars cs := by
  induction before with
  | nil => rfl
  | cons c before ih =>
    obtain ⟨hc, hbefore⟩ := List.ne_and_not_mem_of_not_mem_cons h
    rw [List.cons_append, freeBars_cons fun heq => absurd heq.symm hc, ih hbefore]
    rfl

/-- What stands behind the bar that ends a cell is read on its own. -/
theorem cellsFrom_append {cell : List Char}
    (h : cellAt false (cell ++ '|' :: rest) = (cell, '|' :: rest)) :
    cellsFrom (cell ++ '|' :: rest) =
      trimSpacing (freeBars cell) :: cellsFrom (rest.dropWhile isLineSpace) := by
  have hshort : (rest.dropWhile isLineSpace).length ≤ rest.length :=
    (List.dropWhile_suffix _).length_le
  rw [cellsFrom, h]
  refine if_pos ?_
  rw [List.length_append, List.length_cons]
  omega

end NoteBridge.Markdown.TableRow
