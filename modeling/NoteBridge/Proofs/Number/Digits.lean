import Mathlib.Algebra.Group.Nat.Defs
import Mathlib.Tactic.SplitIfs
import NoteBridge.Number.Reader
import NoteBridge.Json.Printer
import NoteBridge.Proofs.Text.Blank

/-!
Numbers as texts. The digits of a number read as this number, also behind zeros, and no text of a
number is empty or has a blank in it.
-/

namespace NoteBridge

open Text (Tight Unbroken isBlank unbroken_cons unbroken_replicate)

namespace Number

theorem isDigit_of_mem_toDigits {n : Nat} {c : Char} (h : c ∈ Nat.toDigits 10 n) :
    isDigit c = true :=
  Nat.isDigit_of_mem_toDigits (by decide) (by decide) h

theorem toNat_of_isDigit {c : Char} (h : isDigit c = true) : 48 ≤ c.toNat ∧ c.toNat ≤ 57 := by
  simpa [isDigit, Char.le_def, UInt32.le_iff_toNat_le] using h

theorem not_isBlank_of_isDigit {c : Char} (h : isDigit c = true) : ¬isBlank c := by
  have hbounds := toNat_of_isDigit h
  simp only [isBlank, Bool.or_eq_true, Bool.and_eq_true, beq_iff_eq, decide_eq_true_eq]
  omega

theorem natOfDigits_eq (cs : List Char) : natOfDigits cs = Nat.ofDigitChars 10 cs 0 :=
  Nat.ofDigitChars_eq_foldl.symm

theorem natOfDigits_toDigits (n : Nat) : natOfDigits (Nat.toDigits 10 n) = n := by
  rw [natOfDigits_eq, Nat.ofDigitChars_ten_toDigits]

theorem natOfDigits_zeros_append (count : Nat) (cs : List Char) :
    natOfDigits (List.replicate count '0' ++ cs) = natOfDigits cs := by
  rw [natOfDigits_eq, Nat.ofDigitChars_append, Nat.ofDigitChars_replicate_zero, Nat.mul_zero,
    natOfDigits_eq]

/-- As many digits as a number has bound it. -/
theorem natOfDigits_lt {cs : List Char} (h : ∀ c ∈ cs, isDigit c = true) :
    natOfDigits cs < 10 ^ cs.length := by
  rw [natOfDigits_eq]
  induction cs with
  | nil => simp
  | cons c cs ih =>
    obtain ⟨hc, hcs⟩ := List.forall_mem_cons.1 h
    have hrest := ih hcs
    have hdigit : c.toNat - 48 ≤ 9 := by
      have hbounds := toNat_of_isDigit hc
      omega
    have hscaled : 10 ^ cs.length * (c.toNat - 48) ≤ 10 ^ cs.length * 9 :=
      Nat.mul_le_mul_left _ hdigit
    rw [Nat.ofDigitChars_cons, Nat.ofDigitChars_eq_ofDigitChars_zero, List.length_cons,
      Nat.pow_succ]
    simp only [Nat.mul_zero, Nat.zero_add, Char.reduceToNat]
    omega

theorem toDigits_ne_nil (n : Nat) : Nat.toDigits 10 n ≠ [] :=
  List.ne_nil_of_length_pos Nat.length_toDigits_pos

theorem unbroken_toDigits (n : Nat) : Unbroken (Nat.toDigits 10 n) :=
  fun _ hc => not_isBlank_of_isDigit (isDigit_of_mem_toDigits hc)

end Number

/-! ### Texts of numbers -/

namespace Layout

theorem unbroken_magnitude (l : Layout) (d : Double.Decimal) : Unbroken (l.magnitude d) := by
  have hdigits : ∀ n, Unbroken (digitChars n) := Number.unbroken_toDigits
  have hzeros : ∀ n, Unbroken (zeros n) := fun n => unbroken_replicate (by decide) n.toNat
  have htake : ∀ n k, Unbroken ((digitChars n).take k) := fun n k =>
    (hdigits n).of_subset (List.take_subset k _)
  have hdrop : ∀ n k, Unbroken ((digitChars n).drop k) := fun n k =>
    (hdigits n).of_subset (List.drop_subset k _)
  have hmarks : isBlank '0' = false ∧ isBlank '.' = false ∧ isBlank 'e' = false ∧
      isBlank '+' = false ∧ isBlank '-' = false := by decide
  unfold magnitude
  dsimp only
  split_ifs <;> simp [hdigits, hzeros, htake, hdrop, hmarks, -List.drop_one]

theorem magnitude_ne_nil (l : Layout) (d : Double.Decimal) : l.magnitude d ≠ [] := by
  have hdigits : digitChars d.digits ≠ [] := Number.toDigits_ne_nil d.digits
  unfold magnitude
  dsimp only
  split_ifs <;> simp [hdigits]

/-- The text of a double is in one piece; infinity and what is not a number are words. -/
theorem tight_json_format (x : Double) : Tight (json.format x).toList := by
  have hword : Tight "null".toList := ⟨by decide, by decide⟩
  have hminus : ¬isBlank '-' := by decide
  have hmagnitude := unbroken_magnitude json x.shortest
  unfold format
  dsimp only
  split_ifs
  · exact hword
  · exact hword
  · exact hword
  · rw [String.toList_ofList]
    exact (unbroken_cons.2 ⟨hminus, hmagnitude⟩).tight (List.cons_ne_nil _ _)
  · rw [String.toList_ofList]
    exact hmagnitude.tight (magnitude_ne_nil json x.shortest)

end Layout

theorem Json.tight_toString_int (n : Int) : Tight (toString n).toList := by
  have hnat : ∀ m : Nat, (Nat.repr m).toList = Nat.toDigits 10 m := fun m => by
    rw [Nat.repr_eq_ofList_toDigits, String.toList_ofList]
  cases n with
  | ofNat m =>
    change Tight (Nat.repr m).toList
    rw [hnat]
    exact (Number.unbroken_toDigits m).tight (Number.toDigits_ne_nil m)
  | negSucc m =>
    change Tight ("-" ++ Nat.repr (m + 1)).toList
    rw [String.toList_append, hnat]
    have hminus : ¬isBlank '-' := by decide
    exact (unbroken_cons.2 ⟨hminus, Number.unbroken_toDigits (m + 1)⟩).tight
      (List.cons_ne_nil _ _)

end NoteBridge
