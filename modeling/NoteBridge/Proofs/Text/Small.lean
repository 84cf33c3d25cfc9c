import Mathlib.Data.List.Basic
import NoteBridge.Proofs.Text.Blank
import NoteBridge.Text.Small

/-!
Laws of small letters. No small letter of the table is a capital of it, so the small letters of a
text are those of its small letters. None of them is a blank or a backtick either, so these stay
where they are in a text.
-/

namespace NoteBridge.Text

/-! ### The table of capitals -/

/-- First and last code point, step between capitals, and distance to the small letter. -/
abbrev CapitalRow := Nat × Nat × Nat × Int

namespace CapitalRow

def holds (row : CapitalRow) (code : Nat) : Bool :=
  row.1 ≤ code && code ≤ row.2.1 && (code - row.1) % row.2.2.1 == 0

def capitals (row : CapitalRow) : List Nat :=
  List.range' row.1 ((row.2.1 - row.1) / row.2.2.1 + 1) row.2.2.1

def small (row : CapitalRow) (code : Nat) : Nat := (code + row.2.2.2).toNat

theorem mem_capitals {row : CapitalRow} {code : Nat} (h : row.holds code = true) :
    code ∈ row.capitals := by
  obtain ⟨first, last, step, distance⟩ := row
  simp only [holds, Bool.and_eq_true, decide_eq_true_eq, beq_iff_eq] at h
  obtain ⟨⟨hfirst, hlast⟩, hstep⟩ := h
  rw [capitals, List.mem_range']
  refine ⟨(code - first) / step, ?_, ?_⟩
  · exact Nat.lt_succ_of_le (Nat.div_le_div_right (Nat.sub_le_sub_right hlast first))
  · have hdiv := Nat.mod_add_div (code - first) step
    dsimp only at hdiv ⊢
    omega

end CapitalRow

def capitalCodes : List Nat := capitalRanges.toList.flatMap CapitalRow.capitals

def smallCodes : List Nat :=
  capitalRanges.toList.flatMap fun row => (CapitalRow.capitals row).map (CapitalRow.small row)

/-- A set of code points as the bits of a number. -/
def bits (codes : List Nat) : Nat := codes.foldr (fun code rest => 1 <<< code ||| rest) 0

theorem testBit_bits {codes : List Nat} {code : Nat} :
    (bits codes).testBit code = true ↔ code ∈ codes := by
  induction codes with
  | nil => simp [bits]
  | cons first codes ih =>
    have hbit : (1 <<< first).testBit code = true ↔ code = first := by
      rw [Nat.one_shiftLeft, Nat.testBit_two_pow, decide_eq_true_eq, eq_comm]
    have hcons : bits (first :: codes) = 1 <<< first ||| bits codes := rfl
    rw [hcons, Nat.testBit_or, Bool.or_eq_true, hbit, ih, List.mem_cons]

theorem bits_capitalCodes_and_smallCodes : bits capitalCodes &&& bits smallCodes = 0 := by
  decide +kernel

theorem not_mem_capitalCodes {code : Nat} (h : code ∈ smallCodes) : code ∉ capitalCodes := by
  intro hcapital
  have hboth : (bits capitalCodes &&& bits smallCodes).testBit code = true := by
    rw [Nat.testBit_and, testBit_bits.2 hcapital, testBit_bits.2 h]
    rfl
  rw [bits_capitalCodes_and_smallCodes, Nat.zero_testBit] at hboth
  cases hboth

/-- Where no small letter lies: among the capitals and marks of ASCII, the blanks and the dotted
capital, and where no character is. -/
def gaps : List (Nat × Nat) :=
  [(0, 0x60), (0x7B, 0xA0), (0x130, 0x130), (0x1680, 0x1680), (0x2000, 0x205F), (0x3000, 0x3000),
    (0xD800, 0xDFFF)]

def inGap (code : Nat) : Bool := gaps.any fun gap => Nat.ble gap.1 code && Nat.ble code gap.2

theorem all_smallCodes :
    (smallCodes.all fun code => !inGap code && Nat.blt code 0x110000) = true := by
  decide +kernel

/-- A letter of the table becomes a small one, any other stays as it is. -/
theorem smallLetter_cases {c : Char} (h : 0x80 ≤ c.toNat) :
    (c.toNat ∈ capitalCodes ∧ ∃ code ∈ smallCodes, smallLetter c = Char.ofNat code) ∨
      smallLetter c = c := by
  rw [smallLetter, if_neg (Nat.not_lt.2 h)]
  dsimp only
  split
  · next first last step distance hfind =>
    have hmem : (first, last, step, distance) ∈ capitalRanges :=
      Array.mem_of_find?_eq_some hfind
    have hrow : (first, last, step, distance) ∈ capitalRanges.toList := hmem.val
    have hholds := Array.find?_some hfind
    have hcapital : c.toNat ∈ CapitalRow.capitals (first, last, step, distance) :=
      CapitalRow.mem_capitals hholds
    refine .inl ⟨List.mem_flatMap.2 ⟨_, hrow, hcapital⟩, _, ?_, rfl⟩
    exact List.mem_flatMap.2 ⟨_, hrow, List.mem_map_of_mem hcapital⟩
  · exact .inr rfl

/-! ### Small letters of characters -/

/-- A character that small letters are made of: it is the small letter of itself. -/
def IsSmall (c : Char) : Prop := smallLetter c = c ∧ c ≠ 'Σ' ∧ c ≠ 'İ'

instance : DecidablePred IsSmall := fun _ => instDecidableAnd

/-- A blank or a backtick, which no letter becomes. -/
def IsMark (c : Char) : Prop := isBlank c ∨ c = '\x60'

instance : DecidablePred IsMark := fun _ => instDecidableOr

theorem toNat_ofNat {code : Nat} (h : code.isValidChar) : (Char.ofNat code).toNat = code := by
  rw [Char.ofNat, dif_pos h]
  rfl

theorem inGap_eq_true_iff {code : Nat} : inGap code = true ↔
    code ≤ 0x60 ∨ (0x7B ≤ code ∧ code ≤ 0xA0) ∨ code = 0x130 ∨ code = 0x1680 ∨
      (0x2000 ≤ code ∧ code ≤ 0x205F) ∨ code = 0x3000 ∨ (0xD800 ≤ code ∧ code ≤ 0xDFFF) := by
  simp only [inGap, gaps, List.any_cons, List.any_nil, Bool.or_false, Bool.or_eq_true,
    Bool.and_eq_true, Nat.ble_eq]
  omega

theorem not_inGap_of_mem_smallCodes {code : Nat} (h : code ∈ smallCodes) :
    ¬inGap code = true ∧ code.isValidChar := by
  have hcode := List.all_eq_true.1 all_smallCodes code h
  simp only [Bool.and_eq_true, Bool.not_eq_true', Nat.blt_eq] at hcode
  have hgap : ¬inGap code = true := by simp [hcode.1]
  refine ⟨hgap, ?_⟩
  rw [inGap_eq_true_iff] at hgap
  unfold Nat.isValidChar
  omega

theorem inGap_of_isMark {c : Char} (h : IsMark c) : inGap c.toNat = true := by
  rw [inGap_eq_true_iff]
  rcases h with h | rfl
  · simp only [isBlank, Bool.or_eq_true, Bool.and_eq_true, decide_eq_true_eq, beq_iff_eq] at h
    omega
  · decide

theorem ascii_small : ∀ code < 0x80, IsSmall (Char.ofNat code).toLower ∧
    (IsMark (Char.ofNat code).toLower ∨ ¬inGap code = true →
      (Char.ofNat code).toLower = Char.ofNat code) := by
  decide

theorem smallLetter_of_ascii {c : Char} (h : c.toNat < 0x80) : smallLetter c = c.toLower := by
  rw [smallLetter, if_pos h]

theorem isSmall_ofNat {code : Nat} (h : code ∈ smallCodes) : IsSmall (Char.ofNat code) := by
  obtain ⟨hgap, hvalid⟩ := not_inGap_of_mem_smallCodes h
  have hcode := toNat_ofNat hvalid
  have hself : smallLetter (Char.ofNat code) = Char.ofNat code := by
    by_cases hascii : code < 0x80
    · rw [smallLetter_of_ascii (by omega)]
      exact (ascii_small code hascii).2 (.inr hgap)
    · rcases smallLetter_cases (c := Char.ofNat code) (by omega) with ⟨hcapital, -⟩ | hself
      · rw [hcode] at hcapital
        exact absurd hcapital (not_mem_capitalCodes h)
      · exact hself
  refine ⟨hself, ?_, ?_⟩
  · rintro hsigma
    rw [hsigma] at hself
    revert hself
    decide +kernel
  · intro hdotted
    rw [hdotted] at hcode
    rw [← hcode] at hgap
    exact hgap (by decide)

/-- A small letter is the small letter of itself. -/
theorem isSmall_smallLetter {c : Char} (hsigma : c ≠ 'Σ') (hdotted : c ≠ 'İ') :
    IsSmall (smallLetter c) := by
  by_cases hascii : c.toNat < 0x80
  · have hsmall := (ascii_small c.toNat hascii).1
    rwa [Char.ofNat_toNat, ← smallLetter_of_ascii hascii] at hsmall
  · rcases smallLetter_cases (Nat.not_lt.1 hascii) with ⟨-, code, hcode, heq⟩ | hself
    · rw [heq]
      exact isSmall_ofNat hcode
    · rw [hself]
      exact ⟨hself, hsigma, hdotted⟩

/-- No other character has a blank or a backtick as its small letter. -/
theorem smallLetter_of_isMark {c : Char} (h : IsMark (smallLetter c)) : smallLetter c = c := by
  by_cases hascii : c.toNat < 0x80
  · have hmark := (ascii_small c.toNat hascii).2
    rw [Char.ofNat_toNat, ← smallLetter_of_ascii hascii] at hmark
    exact hmark (.inl h)
  · rcases smallLetter_cases (Nat.not_lt.1 hascii) with ⟨-, code, hcode, heq⟩ | hself
    · obtain ⟨hgap, hvalid⟩ := not_inGap_of_mem_smallCodes hcode
      rw [heq] at h
      have hinGap := inGap_of_isMark h
      rw [toNat_ofNat hvalid] at hinGap
      exact absurd hinGap hgap
    · exact hself

/-! ### Small letters of texts -/

variable {before cs : List Char} {c : Char}

/-- The letters that a sigma and the dotted capital become. -/
def setLetters : List Char := ['ς', 'σ', 'i', '\u0307']

theorem setLetters_small : ∀ c ∈ setLetters, IsSmall c ∧ ¬IsMark c := by
  have hall : (setLetters.all fun c => decide (IsSmall c ∧ ¬IsMark c)) = true := by decide +kernel
  simpa using hall

theorem mem_toSmallFrom (h : c ∈ toSmallFrom before cs) :
    c ∈ setLetters ∨ ∃ d ∈ cs, d ≠ 'Σ' ∧ d ≠ 'İ' ∧ c = smallLetter d := by
  induction cs generalizing before with
  | nil => cases h
  | cons d cs ih =>
    rcases List.mem_append.1 h with h | h
    · split at h
      · split at h
        · exact .inl (by simp_all [setLetters])
        · exact .inl (by simp_all [setLetters])
      · next hsigma =>
        split at h
        · exact .inl (by simp_all [setLetters])
        · next hdotted =>
          exact .inr ⟨d, List.mem_cons_self .., by simpa using hsigma, by simpa using hdotted,
            List.mem_singleton.1 h⟩
    · obtain hset | ⟨e, he, hletter⟩ := ih h
      · exact .inl hset
      · exact .inr ⟨e, List.mem_cons_of_mem _ he, hletter⟩

theorem isSmall_of_mem_toSmall (h : c ∈ toSmall cs) : IsSmall c := by
  obtain hset | ⟨d, -, hsigma, hdotted, rfl⟩ := mem_toSmallFrom h
  · exact (setLetters_small c hset).1
  · exact isSmall_smallLetter hsigma hdotted

theorem mem_of_mem_toSmall (hmark : IsMark c) (h : c ∈ toSmall cs) : c ∈ cs := by
  obtain hset | ⟨d, hd, -, -, rfl⟩ := mem_toSmallFrom h
  · exact absurd hmark (setLetters_small c hset).2
  · rwa [smallLetter_of_isMark hmark]

theorem toSmallFrom_cons_of_isSmall (h : IsSmall c) (before cs : List Char) :
    toSmallFrom before (c :: cs) = c :: toSmallFrom (c :: before) cs := by
  obtain ⟨hself, hsigma, hdotted⟩ := h
  simp [toSmallFrom, hself, hsigma, hdotted]

theorem mem_toSmall_of_isSmall (hsmall : IsSmall c) (h : c ∈ cs) : c ∈ toSmall cs := by
  suffices hfrom : ∀ before, c ∈ toSmallFrom before cs from hfrom []
  induction cs with
  | nil => cases h
  | cons d cs ih =>
    intro before
    rcases List.mem_cons.1 h with rfl | h
    · rw [toSmallFrom_cons_of_isSmall hsmall]
      exact List.mem_cons_self ..
    · exact List.mem_append_right _ (ih h _)

theorem toSmall_of_isSmall (h : ∀ c ∈ cs, IsSmall c) : toSmall cs = cs := by
  suffices hfrom : ∀ before, toSmallFrom before cs = cs from hfrom []
  induction cs with
  | nil => exact fun _ => rfl
  | cons c cs ih =>
    intro before
    obtain ⟨hc, hcs⟩ := List.forall_mem_cons.1 h
    rw [toSmallFrom_cons_of_isSmall hc, ih hcs]

@[simp] theorem toSmall_toSmall (cs : List Char) : toSmall (toSmall cs) = toSmall cs :=
  toSmall_of_isSmall fun _ => isSmall_of_mem_toSmall

theorem Unbroken.toSmall (h : Unbroken cs) : Unbroken (toSmall cs) :=
  fun c hc hblank => h c (mem_of_mem_toSmall (.inl hblank) hc) hblank

theorem backtick_mem_toSmall_iff : '\x60' ∈ toSmall cs ↔ '\x60' ∈ cs :=
  ⟨mem_of_mem_toSmall (.inr rfl), mem_toSmall_of_isSmall (by decide)⟩

end NoteBridge.Text
