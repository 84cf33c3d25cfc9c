import Mathlib.Data.List.Infix
import Mathlib.Tactic.MkIffOfInductiveProp
import NoteBridge.Markdown.Link

/-!
Destinations without angle brackets. A text that is put between parentheses is read as the
destination there, all of it, if and only if nothing in it ends the destination early or takes the
closing parenthesis for its own.
-/

namespace NoteBridge.Markdown

open Text

variable {url rest cs : List Char} {depth : Nat} {c : Char}

/-- The characters of a text that no backslash escapes, apart from the backslashes that escape. -/
def unescaped : List Char → List Char
  | [] => []
  | [c] => [c]
  | c :: d :: cs =>
    if c = '\\' ∧ isAsciiPunctuation d then unescaped cs else c :: unescaped (d :: cs)

theorem unescaped_eq_self (h : '\\' ∉ cs) : unescaped cs = cs := by
  fun_induction unescaped cs with
  | case1 => rfl
  | case2 c => rfl
  | case3 c d cs hescape => exact absurd (hescape.1 ▸ List.mem_cons_self ..) h
  | case4 c d cs _ ih => rw [ih (List.not_mem_of_not_mem_cons h)]

/-- A text that does not end in the middle of an escape is read apart from what stands behind it. -/
theorem unescape_append (h : '\\' ∉ unescaped cs) (behind : List Char) :
    unescape (cs ++ behind) = unescape cs ++ unescape behind ∧
      unescaped (cs ++ behind) = unescaped cs ++ unescaped behind := by
  fun_induction unescaped cs with
  | case1 => exact ⟨rfl, rfl⟩
  | case2 c =>
    have hc : c ≠ '\\' := fun hc => h (hc ▸ List.mem_singleton_self c)
    cases behind with
    | nil => exact ⟨rfl, rfl⟩
    | cons d behind => exact ⟨if_neg fun hescape => hc hescape.1, if_neg fun hescape => hc hescape.1⟩
  | case3 c d cs hescape ih =>
    obtain ⟨hread, hleft⟩ := ih h
    constructor
    · simp [unescape, hescape, hread]
    · simp [unescaped, hescape, hleft]
  | case4 c d cs hescape ih =>
    obtain ⟨hread, hleft⟩ := ih (List.not_mem_of_not_mem_cons h)
    rw [List.cons_append] at hread hleft
    constructor
    · simp [unescape, hescape, hread]
    · simp [unescaped, hescape, hleft]

theorem getLast?_cons_unescaped (hc : ¬isAsciiPunctuation c) (d : Char) :
    (d :: unescaped (c :: cs)).getLast? = (unescaped (c :: cs)).getLast? := by
  cases cs with
  | nil => simp [unescaped]
  | cons e cs =>
    have hescape : ¬(c = '\\' ∧ isAsciiPunctuation e) := by
      rintro ⟨rfl, -⟩
      exact hc (by decide)
    simp [unescaped, hescape]

/-! ### Parentheses -/

/-- Whether the parentheses of a text close `depth` others and are balanced for the rest, and are
never nested too deep. -/
@[mk_iff]
structure Balanced (depth : Nat) (cs : List Char) : Prop where
  closed : depth + cs.count '(' = cs.count ')'
  nested : ∀ start, start <+: cs → start.count ')' ≤ depth + start.count '(' ∧
    depth + start.count '(' ≤ start.count ')' + nestingLimit

theorem forall_prefix_cons {p : List Char → Prop} :
    (∀ start, start <+: c :: cs → p start) ↔ p [] ∧ ∀ start, start <+: cs → p (c :: start) := by
  constructor
  · intro h
    exact ⟨h [] List.nil_prefix, fun start hstart => h _ (List.cons_prefix_cons.2 ⟨rfl, hstart⟩)⟩
  · rintro ⟨hnil, hcons⟩ start hstart
    rcases List.prefix_cons_iff.1 hstart with rfl | ⟨tail, rfl, htail⟩
    · exact hnil
    · exact hcons tail htail

theorem balanced_nil : Balanced depth [] ↔ depth = 0 := by
  simp only [balanced_iff, List.prefix_nil, forall_eq, List.count_nil]
  omega

theorem balanced_open :
    Balanced depth ('(' :: cs) ↔ depth < nestingLimit ∧ Balanced (depth + 1) cs := by
  rw [balanced_iff, forall_prefix_cons, balanced_iff]
  simp only [List.count_nil, List.count_cons_self, List.count_cons_of_ne (show '(' ≠ ')' by decide)]
  constructor
  · rintro ⟨hclosed, -, hnested⟩
    have hfirst := hnested [] List.nil_prefix
    simp only [List.count_nil] at hfirst
    refine ⟨by omega, by omega, fun start hstart => ?_⟩
    have hstart := hnested start hstart
    omega
  · rintro ⟨hlimit, hclosed, hnested⟩
    refine ⟨by omega, by omega, fun start hstart => ?_⟩
    have hstart := hnested start hstart
    omega

theorem balanced_close (hdepth : depth ≤ nestingLimit) :
    Balanced depth (')' :: cs) ↔ 0 < depth ∧ Balanced (depth - 1) cs := by
  rw [balanced_iff, forall_prefix_cons, balanced_iff]
  simp only [List.count_nil, List.count_cons_self, List.count_cons_of_ne (show ')' ≠ '(' by decide)]
  constructor
  · rintro ⟨hclosed, -, hnested⟩
    have hfirst := hnested [] List.nil_prefix
    simp only [List.count_nil] at hfirst
    refine ⟨by omega, by omega, fun start hstart => ?_⟩
    have hstart := hnested start hstart
    omega
  · rintro ⟨hpositive, hclosed, hnested⟩
    refine ⟨by omega, by omega, fun start hstart => ?_⟩
    have hstart := hnested start hstart
    omega

theorem balanced_cons (hdepth : depth ≤ nestingLimit) (hopen : c ≠ '(') (hclose : c ≠ ')') :
    Balanced depth (c :: cs) ↔ Balanced depth cs := by
  rw [balanced_iff, forall_prefix_cons, balanced_iff]
  simp only [List.count_nil, List.count_cons_of_ne hopen, List.count_cons_of_ne hclose]
  have hfirst : 0 ≤ depth + 0 ∧ depth + 0 ≤ 0 + nestingLimit := by omega
  rw [and_iff_right hfirst]

theorem balanced_of_not_mem (hopen : '(' ∉ cs) (hclose : ')' ∉ cs) : Balanced 0 cs := by
  have hcount (p : Char) (hp : p ∉ cs) {start : List Char} (hstart : start <+: cs) :
      start.count p = 0 :=
    List.count_eq_zero_of_not_mem fun hmem => hp (hstart.subset hmem)
  constructor
  · rw [hcount '(' hopen List.prefix_rfl, hcount ')' hclose List.prefix_rfl]
  · intro start hstart
    rw [hcount '(' hopen hstart, hcount ')' hclose hstart]
    decide

/-! ### Reading a destination -/

/-- Whether a character may stand in a destination. -/
def IsVisible (c : Char) : Prop := ¬isSpace c ∧ ¬isControl c

instance : DecidablePred IsVisible := fun _ => instDecidableAnd

theorem isVisible_iff : IsVisible c ↔ 0x20 < c.toNat ∧ c.toNat ≠ 0x7F := by
  have heq (d : Char) : c = d ↔ c.toNat = d.toNat := by
    rw [Char.toNat, Char.toNat, UInt32.toNat_inj, Char.ext_iff]
  have hle (a b : Char) : a ≤ b ↔ a.toNat ≤ b.toNat := UInt32.le_iff_toNat_le
  simp only [IsVisible, isSpace, isControl, Bool.or_eq_true, Bool.and_eq_true, decide_eq_true_eq,
    beq_iff_eq, heq, hle, show ' '.toNat = 0x20 from rfl, show '\t'.toNat = 9 from rfl,
    show '\r'.toNat = 13 from rfl]
  omega

theorem isVisible_of_isAsciiPunctuation (h : isAsciiPunctuation c = true) : IsVisible c := by
  have hle (a b : Char) : a ≤ b ↔ a.toNat ≤ b.toNat := UInt32.le_iff_toNat_le
  simp only [isAsciiPunctuation, Bool.or_eq_true, Bool.and_eq_true, decide_eq_true_eq, hle,
    show '!'.toNat = 0x21 from rfl, show '/'.toNat = 0x2F from rfl, show ':'.toNat = 0x3A from rfl,
    show '@'.toNat = 0x40 from rfl, show '['.toNat = 0x5B from rfl,
    show '\x60'.toNat = 0x60 from rfl, show '\x7b'.toNat = 0x7B from rfl,
    show '~'.toNat = 0x7E from rfl] at h
  rw [isVisible_iff]
  omega

theorem bare?_close_iff : bare? depth (')' :: rest) = some ([], ')' :: rest) ↔ depth = 0 := by
  simp [bare?]

/-- One character that is no backslash. -/
theorem bare?_cons_iff (hc : c ≠ '\\') {after : List Char} :
    bare? depth (c :: cs) = some (c :: url, after) ↔
      (c = '(' ∧ depth < nestingLimit ∧ bare? (depth + 1) cs = some (url, after)) ∨
      (c = ')' ∧ 0 < depth ∧ bare? (depth - 1) cs = some (url, after)) ∨
      (c ≠ '(' ∧ c ≠ ')' ∧ IsVisible c ∧ bare? depth cs = some (url, after)) := by
  rw [bare?]
  · by_cases hopen : c = '('
    · by_cases hlimit : depth < nestingLimit
      · simp [hopen, hlimit]
      · simp [hopen, hlimit]
    · by_cases hclose : c = ')'
      · by_cases hzero : depth = 0
        · simp [hclose, hzero]
        · simp [hclose, hzero, Nat.pos_of_ne_zero hzero]
      · by_cases hvisible : IsVisible c
        · have hends : ¬(isSpace c || isControl c) = true := by simpa [IsVisible] using hvisible
          simp [hopen, hclose, hends, hvisible]
        · have hends : (isSpace c || isControl c) = true := by
            simpa [IsVisible, or_iff_not_imp_left] using hvisible
          rw [if_neg hopen, if_neg hclose, if_pos hends]
          split <;> simp [hopen, hclose, hvisible]
  · rintro d rest rfl
    exact absurd rfl hc

/-- What is known of the text behind a character carries over to the text with it. -/
theorem bare?_cons_iff_of_iff {after us : List Char} {visible whole : Prop} (hc : c ≠ '\\')
    (hdepth : depth ≤ nestingLimit)
    (ih : ∀ {depth}, depth ≤ nestingLimit →
      (bare? depth cs = some (url, after) ↔ visible ∧ Balanced depth us ∧ whole)) :
    bare? depth (c :: cs) = some (c :: url, after) ↔
      (IsVisible c ∧ visible) ∧ Balanced depth (c :: us) ∧ whole := by
  rw [bare?_cons_iff hc]
  by_cases hopen : c = '('
  · subst hopen
    by_cases hlimit : depth < nestingLimit
    · simp [balanced_open, hlimit, ih hlimit, show IsVisible '(' by decide]
    · simp [balanced_open, hlimit]
  · by_cases hclose : c = ')'
    · subst hclose
      have hbelow : depth - 1 ≤ nestingLimit := by omega
      simp only [balanced_close hdepth, ih hbelow, show IsVisible ')' by decide]
      simp
      tauto
    · simp only [balanced_cons hdepth hopen hclose, ih hdepth]
      simp [hopen, hclose]
      tauto

theorem getLast?_cons_eq_iff {d : Char} (hc : c ≠ d) :
    (c :: cs).getLast? = some d ↔ cs.getLast? = some d := by
  cases cs with
  | nil => simp [hc]
  | cons e cs => simp

/-- A text that is read as a destination up to the parenthesis behind it. -/
theorem bare?_eq_some_iff (hdepth : depth ≤ nestingLimit) :
    bare? depth (url ++ ')' :: rest) = some (url, ')' :: rest) ↔
      (∀ c ∈ url, IsVisible c) ∧ Balanced depth (unescaped url) ∧
        (unescaped url).getLast? ≠ some '\\' := by
  fun_induction unescaped url generalizing depth with
  | case1 => simp [bare?_close_iff, balanced_nil]
  | case2 c =>
    by_cases hc : c = '\\'
    · -- The backslash takes the parenthesis behind it for its own.
      subst hc
      simp [bare?, isAsciiPunctuation]
    · have hend {depth : Nat} (_ : depth ≤ nestingLimit) :
          bare? depth (')' :: rest) = some ([], ')' :: rest) ↔ True ∧ Balanced depth [] ∧ True := by
        simp [bare?_close_iff, balanced_nil]
      rw [List.singleton_append, bare?_cons_iff_of_iff hc hdepth hend]
      simp [hc]
  | case3 c d cs h ih =>
    obtain ⟨rfl, hd⟩ := h
    rw [List.cons_append, List.cons_append, bare?, if_pos hd]
    have hvisible := isVisible_of_isAsciiPunctuation hd
    have hbackslash : IsVisible '\\' := by decide
    simp [hvisible, hbackslash, ← ih hdepth]
  | case4 c d cs h ih =>
    by_cases hc : c = '\\'
    · subst hc
      have hd : ¬isAsciiPunctuation d = true := fun hd => h ⟨rfl, hd⟩
      have hbackslash : IsVisible '\\' := by decide
      have ih := ih hdepth
      rw [List.cons_append] at ih
      rw [List.cons_append, List.cons_append, bare?, if_neg hd]
      simp [hbackslash, ih, balanced_cons hdepth, getLast?_cons_unescaped hd]
    · rw [List.cons_append, bare?_cons_iff_of_iff hc hdepth ih]
      simp [getLast?_cons_eq_iff hc]

theorem length_lt_of_enclosed? {after : List Char} (h : enclosed? cs = some (url, after)) :
    url.length + after.length < cs.length := by
  fun_induction enclosed? cs generalizing url with
  | case1 rest =>
    obtain ⟨rfl, rfl⟩ := h
    simp
  | case2 c rest ih =>
    obtain ⟨⟨inner, behind⟩, hinner, ⟨⟩⟩ := Option.map_eq_some_iff.1 h
    have := ih hinner
    simp only [List.length_cons]
    omega
  | case3 c rest => exact absurd h nofun
  | case4 c rest _ _ _ ih =>
    obtain ⟨⟨inner, behind⟩, hinner, ⟨⟩⟩ := Option.map_eq_some_iff.1 h
    have := ih hinner
    simp only [List.length_cons]
    omega
  | case5 => exact absurd h nofun

/-! ### Destinations -/

/-- A text that is the destination it is written as: no angle brackets stand around it, nothing in
it ends it early, it leaves the parenthesis behind it alone, and nothing in it stands for another
text. -/
structure IsDestination (url : List Char) : Prop where
  bare : url.head? ≠ some '<'
  visible : ∀ c ∈ url, IsVisible c
  balanced : Balanced 0 (unescaped url)
  whole : (unescaped url).getLast? ≠ some '\\'
  literal : literal url = url

theorem destination?_eq_some_iff :
    destination? (url ++ ')' :: rest) = some (url, ')' :: rest) ↔
      url.head? ≠ some '<' ∧ (∀ c ∈ url, IsVisible c) ∧ Balanced 0 (unescaped url) ∧
        (unescaped url).getLast? ≠ some '\\' := by
  by_cases hangle : url.head? = some '<'
  · obtain ⟨cs, rfl⟩ := List.head?_eq_some_iff.1 hangle
    simp only [hangle, ne_eq, not_true_eq_false, false_and, iff_false]
    rw [List.cons_append, destination?]
    intro h
    have hlength := length_lt_of_enclosed? (Option.filter_eq_some_iff.1 h).1
    simp only [List.length_append, List.length_cons] at hlength
    omega
  · rw [destination?]
    · simp [hangle, bare?_eq_some_iff (Nat.zero_le nestingLimit)]
    · intro cs hcs
      cases url with
      | nil => simp at hcs
      | cons c url => simp_all

theorem decode_eq_self (h : '&' ∉ cs) : decode cs = cs := by
  induction cs with
  | nil => simp [decode]
  | cons c cs ih =>
    rw [List.mem_cons, not_or] at h
    rw [decode, if_neg (Ne.symm h.1), ih h.2]

theorem unescape_eq_self (h : '\\' ∉ cs) : unescape cs = cs := by
  fun_induction unescape cs with
  | case1 => rfl
  | case2 c => rfl
  | case3 c d cs hescape => exact absurd (hescape.1 ▸ List.mem_cons_self ..) h
  | case4 c d cs _ ih => rw [ih (List.not_mem_of_not_mem_cons h)]

/-- Texts of which every character shows and has no meaning of its own are destinations. -/
theorem isDestination_of_forall_mem
    (h : ∀ c ∈ url, IsVisible c ∧ c ∉ ['\\', '&', '(', ')', '<']) : IsDestination url := by
  have hmem (c : Char) (hc : c ∈ ['\\', '&', '(', ')', '<']) : c ∉ url :=
    fun hurl => (h c hurl).2 hc
  have hbackslash := hmem '\\' (by decide)
  have hplain := unescaped_eq_self hbackslash
  refine ⟨?_, fun c hc => (h c hc).1, ?_, ?_, ?_⟩
  · exact fun hhead => hmem '<' (by decide) (List.mem_of_head? hhead)
  · rw [hplain]
    exact balanced_of_not_mem (hmem '(' (by decide)) (hmem ')' (by decide))
  · rw [hplain]
    exact fun hlast => hbackslash (List.mem_of_getLast? hlast)
  · rw [literal, decode_eq_self (hmem '&' (by decide)), unescape_eq_self hbackslash]

theorem isSpacing_of_isVisible (h : IsVisible c) : ¬isSpacing c := by
  rw [isVisible_iff] at h
  simp only [isSpacing, isSpaceOrTab, Bool.or_eq_true, beq_iff_eq]
  rintro (((rfl | rfl) | rfl) | rfl) <;> exact absurd h.1 (by decide)

theorem trimSpacing_eq_self (h : ∀ c ∈ url, IsVisible c) : trimSpacing url = url := by
  have hkept {cs : List Char} (hcs : ∀ c ∈ cs, IsVisible c) : cs.dropWhile isSpacing = cs := by
    cases cs with
    | nil => rfl
    | cons c cs => exact List.dropWhile_cons_of_neg (isSpacing_of_isVisible (hcs c (by simp)))
  rw [trimSpacing, dropEndWhile, hkept h, hkept (by simpa using h), List.reverse_reverse]

/-- What is written between parentheses as a destination is read back as the same. -/
theorem inline?_of_isDestination (h : IsDestination url) :
    Link.inline? ('(' :: url ++ ')' :: rest) = some (⟨url, []⟩, rest) := by
  have hread : destination? (url ++ ')' :: rest) = some (url, ')' :: rest) :=
    destination?_eq_some_iff.2 ⟨h.bare, h.visible, h.balanced, h.whole⟩
  have hparen : (')' :: rest).dropWhile isSpace = ')' :: rest :=
    List.dropWhile_cons_of_neg (by decide)
  have hstart : (url ++ ')' :: rest).dropWhile isSpace = url ++ ')' :: rest := by
    cases url with
    | nil => exact hparen
    | cons c cs => exact List.dropWhile_cons_of_neg (h.visible c (by simp)).1
  have htitle : Link.titled (')' :: rest) = ([], ')' :: rest) := by simp [Link.titled, hparen]
  have hempty : Markdown.literal [] = [] := by simp [Markdown.literal, decode, unescape]
  rw [List.cons_append, Link.inline?, hstart, hread]
  simp [htitle, Link.closed?, hparen, Target.ofParts, trimSpacing_eq_self h.visible, h.literal,
    hempty]

end NoteBridge.Markdown
