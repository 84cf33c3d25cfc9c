import NoteBridge.Proofs.Text.Blank
import NoteBridge.Text.Letter

/-!
Letters are neither blanks nor marks. The table of letters is checked range by range: a code that
lies outside of every range is no letter.
-/

namespace NoteBridge.Text

/-- Whether a range of codes has none of the given ones. -/
def isApart (codes : List Nat) (range : Nat × Nat) : Bool :=
  codes.all fun code => Nat.blt code range.1 || Nat.blt range.2 code

theorem inRanges_eq_false {ranges : Array (Nat × Nat)} {codes : List Nat}
    (h : ranges.toList.all (isApart codes) = true) {c : Char} (hc : c.toNat ∈ codes) :
    inRanges ranges c = false := by
  refine inRanges_eq_false_iff.2 fun range hrange => ?_
  have hapart := List.all_eq_true.1 (List.all_eq_true.1 h range hrange) _ hc
  rwa [Bool.or_eq_true, Nat.blt_eq, Nat.blt_eq] at hapart

def blankCodes : List Nat :=
  [9, 10, 11, 12, 13, 0x20, 0x85, 0xA0, 0x1680, 0x2000, 0x2001, 0x2002, 0x2003, 0x2004, 0x2005,
    0x2006, 0x2007, 0x2008, 0x2009, 0x200A, 0x2028, 0x2029, 0x202F, 0x205F, 0x3000]

theorem mem_blankCodes {c : Char} (h : isBlank c = true) : c.toNat ∈ blankCodes := by
  simp only [isBlank, Bool.or_eq_true, Bool.and_eq_true, decide_eq_true_eq, beq_iff_eq] at h
  simp only [blankCodes, List.mem_cons, List.not_mem_nil, or_false]
  omega

theorem blankCodes_apart : letterRanges.toList.all (isApart blankCodes) = true := by
  decide +kernel

theorem not_isBlank_of_isLetter {c : Char} (h : isLetter c = true) : ¬isBlank c := by
  intro hblank
  rw [isLetter, inRanges_eq_false blankCodes_apart (mem_blankCodes hblank)] at h
  cases h

/-- The characters that stand for something other than themselves somewhere in a line. -/
def marks : List Char :=
  ['\\', '*', '_', '[', ']', '\x60', '<', '>', '~', '$', '#', '-', '+', '=', '.', ')', '!']

theorem marks_apart : letterRanges.toList.all (isApart (marks.map Char.toNat)) = true := by
  decide +kernel

theorem not_mem_marks_of_isLetter {c : Char} (h : isLetter c = true) : c ∉ marks := by
  intro hmark
  rw [isLetter, inRanges_eq_false marks_apart (List.mem_map_of_mem hmark)] at h
  cases h

/-! ### Plain lines -/

/-- A character that is no blank and no mark. -/
def IsPlain (c : Char) : Prop := ¬isBlank c ∧ c ∉ marks

theorem isPlain_of_isLetter {c : Char} (h : isLetter c = true) : IsPlain c :=
  ⟨not_isBlank_of_isLetter h, not_mem_marks_of_isLetter h⟩

/-- A line that shows something, of plain characters only. -/
def IsPlainLine (line : List Char) : Prop := line ≠ [] ∧ ∀ c ∈ line, IsPlain c

end NoteBridge.Text
