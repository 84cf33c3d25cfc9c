import Mathlib.Algebra.Group.Nat.Defs
import NoteBridge.Number.Double

/-!
Integers among the doubles. A double that is an integer is the nearest one to that integer, so
reading it as an integer and rounding it again gives the same double. Negative zero alone is lost,
because zero as an integer has no sign.
-/

namespace NoteBridge.Double

variable {x : Double} {n : Int}

theorem leadingBit_eq : leadingBit = 2 ^ 52 := by
  rw [leadingBit, Nat.one_shiftLeft]

/-- A quotient without a rest is not rounded. -/
theorem roundDiv_mul (q : Nat) {den : Nat} (h : 0 < den) : roundDiv (q * den) den = q := by
  have hdiv : q * den / den = q := Nat.mul_div_cancel q h
  have hmod : q * den % den = 0 := Nat.mul_mod_left q den
  rw [roundDiv, hdiv, hmod]
  exact if_pos (by omega)

theorem eq_zero_of_isZero (h : x.isZero = true) : x = zero x.negative := by
  obtain ⟨negative, code⟩ := x
  have hcode : code = 0 := Fin.ext (beq_iff_eq.1 h)
  subst hcode
  rfl

/-! ### Normal numbers -/

/-- Whether the significand has its leading bit. -/
def IsNormal (x : Double) : Prop := leadingBit ≤ x.code.val

theorem IsNormal.significand_bounds (h : x.IsNormal) :
    2 ^ 52 ≤ x.significand ∧ x.significand < 2 ^ 53 := by
  have hmod : x.code.val % leadingBit < leadingBit := Nat.mod_lt _ (by rw [leadingBit_eq]; omega)
  rw [significand, if_neg (Nat.not_lt.2 h), leadingBit_eq] at *
  omega

/-- The code of a normal number, put together from its exponent and its significand. -/
theorem IsNormal.code_eq (h : x.IsNormal) :
    (x.exponent + 1074).toNat * leadingBit + x.significand = x.code.val := by
  have hdiv : 1 ≤ x.code.val / leadingBit :=
    (Nat.le_div_iff_mul_le (by rw [leadingBit_eq]; omega)).2 (by rwa [Nat.one_mul])
  have hsplit := Nat.div_add_mod x.code.val leadingBit
  have hexponent : (x.exponent + 1074).toNat = x.code.val / leadingBit - 1 := by
    rw [exponent]
    omega
  rw [hexponent, significand, if_neg (Nat.not_lt.2 h), Nat.sub_mul, Nat.one_mul,
    Nat.mul_comm (x.code.val / leadingBit)]
  have hle : leadingBit ≤ leadingBit * (x.code.val / leadingBit) := Nat.le_mul_of_pos_right _ hdiv
  omega

/-- The integer that is exactly a normal number has the number's leading bit as its own. -/
theorem IsNormal.log2_eq (hnormal : x.IsNormal) {num : Nat}
    (h : num * 2 ^ (-x.exponent).toNat = x.significand * 2 ^ x.exponent.toNat) :
    (num.log2 : Int) = 52 + x.exponent := by
  obtain ⟨hlow, hhigh⟩ := hnormal.significand_bounds
  generalize ha : x.exponent.toNat = a at h
  generalize hb : (-x.exponent).toNat = b at h
  have hapos : 0 < 2 ^ a := Nat.two_pow_pos a
  have hbpos : 0 < 2 ^ b := Nat.two_pow_pos b
  have hlow' : 2 ^ (52 + a) ≤ num * 2 ^ b := by
    rw [h, Nat.pow_add]
    exact Nat.mul_le_mul_right _ hlow
  have hhigh' : num * 2 ^ b < 2 ^ (53 + a) := by
    rw [h, Nat.pow_add]
    exact Nat.mul_lt_mul_of_pos_right hhigh hapos
  have hnum : num ≠ 0 := by
    rintro rfl
    have := Nat.two_pow_pos (52 + a)
    omega
  have hb52 : b ≤ 52 + a := by
    have hle : 2 ^ b ≤ num * 2 ^ b := Nat.le_mul_of_pos_left _ (Nat.pos_of_ne_zero hnum)
    have hlt := (Nat.pow_lt_pow_iff_right (by omega : 1 < 2)).1 (Nat.lt_of_le_of_lt hle hhigh')
    omega
  have hlog : num.log2 = 52 + a - b := by
    rw [Nat.log2_eq_iff hnum]
    constructor
    · apply Nat.le_of_mul_le_mul_right _ hbpos
      rwa [← Nat.pow_add, Nat.sub_add_cancel hb52]
    · apply Nat.lt_of_mul_lt_mul_right (a := 2 ^ b)
      rwa [← Nat.pow_add, show 52 + a - b + 1 + b = 53 + a by omega]
  omega

/-- The integer that is exactly a normal number is rounded to this number. -/
theorem ofRatio_eq_of_isNormal (hfinite : x.isFinite = true) (hnormal : x.IsNormal) {num : Nat}
    (h : num * 2 ^ (-x.exponent).toNat = x.significand * 2 ^ x.exponent.toNat) :
    ofRatio x.negative num 1 = x := by
  obtain ⟨hlow, hhigh⟩ := hnormal.significand_bounds
  have hlog := hnormal.log2_eq h
  have hnum : num ≠ 0 := by
    rintro rfl
    have hpos : 0 < x.significand * 2 ^ x.exponent.toNat :=
      Nat.mul_pos (by omega) (Nat.two_pow_pos _)
    omega
  have hleast : -1074 ≤ x.exponent := by
    rw [exponent]
    omega
  have hguess : (num.log2 : Int) - (Nat.log2 1 : Nat) - 52 = x.exponent := by
    rw [hlog, show Nat.log2 1 = 0 from Nat.log2_two_pow (n := 0)]
    omega
  -- scaled by its exponent the quotient is the significand, with no rest
  obtain ⟨den, hden, hscaled⟩ : ∃ den, 0 < den ∧
      (if 0 ≤ x.exponent then (num, 1 <<< x.exponent.toNat)
        else (num <<< (-x.exponent).toNat, 1)) = (x.significand * den, den) := by
    split
    · next hpos =>
      rw [show (-x.exponent).toNat = 0 by omega, Nat.pow_zero, Nat.mul_one] at h
      exact ⟨2 ^ x.exponent.toNat, Nat.two_pow_pos _, by rw [Nat.one_shiftLeft, h]⟩
    · next hneg =>
      rw [show x.exponent.toNat = 0 by omega, Nat.pow_zero, Nat.mul_one] at h
      exact ⟨1, Nat.one_pos, by rw [Nat.shiftLeft_eq, h, Nat.mul_one]⟩
  have hquotient : x.significand * den / den = x.significand := Nat.mul_div_cancel _ hden
  have hbit : ¬x.significand < leadingBit := by
    rw [leadingBit_eq]
    omega
  have hcode : x.code.val < infinityCode := of_decide_eq_true hfinite
  simp only [ofRatio, hnum, hguess, hscaled, hquotient, hbit, roundDiv_mul _ hden,
    Int.max_eq_left hleast, hnormal.code_eq, Nat.min_eq_left (Nat.le_of_lt hcode), if_false,
    or_self, Nat.one_ne_zero]
  exact congrArg (Double.mk x.negative) (Fin.ofNat_val_eq_self x.code)

/-! ### Integers -/

/-- A number with so small an exponent that is an integer is zero. -/
theorem isNormal_of_toInt? (h : x.toInt? = some n) (hzero : x.isZero = false) : x.IsNormal := by
  apply Nat.le_of_not_lt
  intro hsmall
  have hpos : x.code.val ≠ 0 := by simpa [isZero] using hzero
  have hsignificand : x.significand = x.code.val := if_pos hsmall
  have hexponent : x.exponent = -1074 := by
    rw [exponent, Nat.div_eq_of_lt hsmall]
    rfl
  have hshift : 52 ≤ (-x.exponent).toNat := by omega
  have hlt : x.code.val < 1 <<< (-x.exponent).toNat := by
    rw [Nat.one_shiftLeft]
    rw [leadingBit_eq] at hsmall
    exact Nat.lt_of_lt_of_le hsmall (Nat.pow_le_pow_right Nat.two_pos hshift)
  rw [toInt?, hsignificand] at h
  split at h
  · cases h
  · rw [if_neg (by omega)] at h
    simp [Nat.mod_eq_of_lt hlt, hpos] at h

/-- The magnitude of an integer, scaled to the significand. -/
theorem exists_magnitude (h : x.toInt? = some n) :
    ∃ num : Nat, num * 2 ^ (-x.exponent).toNat = x.significand * 2 ^ x.exponent.toNat ∧
      n = if x.negative then -(num : Int) else num := by
  rw [toInt?] at h
  split at h
  · cases h
  · split at h
    · next hpos =>
      have hzero : (-x.exponent).toNat = 0 := by omega
      refine ⟨_, ?_, (Option.some.inj h).symm⟩
      rw [hzero, Nat.pow_zero, Nat.mul_one, Nat.shiftLeft_eq]
    · next hneg =>
      have hzero : x.exponent.toNat = 0 := by omega
      dsimp only at h
      split at h
      · next hrest =>
        refine ⟨_, ?_, (Option.some.inj h).symm⟩
        rw [Nat.one_shiftLeft] at hrest ⊢
        have hdvd := Nat.dvd_of_mod_eq_zero (beq_iff_eq.1 hrest)
        rw [hzero, Nat.pow_zero, Nat.mul_one, Nat.div_mul_cancel hdvd]
      · cases h

theorem isFinite_of_toInt? (h : x.toInt? = some n) : x.isFinite = true := by
  cases hfinite : x.isFinite with
  | true => rfl
  | false => simp [toInt?, hfinite] at h

/-- A double that is an integer is the nearest one to this integer, negative zero apart. -/
theorem ofInt_of_toInt? (h : x.toInt? = some n) (hx : x ≠ zero true) : ofInt n = x := by
  obtain ⟨num, hmagnitude, hsign⟩ := exists_magnitude h
  cases hzero : x.isZero with
  | true =>
    have hself := eq_zero_of_isZero hzero
    have hpositive : x.negative = false := by
      cases hnegative : x.negative with
      | false => rfl
      | true =>
        rw [hnegative] at hself
        exact absurd hself hx
    rw [hpositive] at hself
    subst hself
    have hn : n = 0 := by
      rw [toInt?] at h
      cases h
      rfl
    rw [hn]
    rfl
  | false =>
    have hnormal := isNormal_of_toInt? h hzero
    have hnum : num ≠ 0 := by
      rintro rfl
      have hlow := hnormal.significand_bounds.1
      have hpos : 0 < x.significand * 2 ^ x.exponent.toNat :=
        Nat.mul_pos (by omega) (Nat.two_pow_pos _)
      omega
    have hparts : decide (n < 0) = x.negative ∧ n.natAbs = num := by
      rw [hsign]
      cases x.negative with
      | false => simp
      | true =>
        simp only [if_true, decide_eq_true_eq]
        omega
    rw [ofInt, hparts.1, hparts.2]
    exact ofRatio_eq_of_isNormal (isFinite_of_toInt? h) hnormal hmagnitude

end NoteBridge.Double
