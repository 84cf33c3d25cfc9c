/-!
Sets of characters, as tables of ranges of code points in ascending order.
-/

namespace NoteBridge.Text

def inRanges (ranges : Array (Nat × Nat)) (c : Char) : Bool :=
  ranges.any fun (first, last) => first ≤ c.toNat && c.toNat ≤ last

theorem inRanges_eq_false_iff {ranges : Array (Nat × Nat)} {c : Char} :
    inRanges ranges c = false ↔
      ∀ range ∈ ranges.toList, c.toNat < range.1 ∨ range.2 < c.toNat := by
  simp only [inRanges, ← Array.any_toList, List.any_eq_false, Bool.and_eq_true, decide_eq_true_eq]
  refine forall_congr' fun range => forall_congr' fun _ => ?_
  omega

end NoteBridge.Text
