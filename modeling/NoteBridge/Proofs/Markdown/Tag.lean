import NoteBridge.Markdown.Tag
import NoteBridge.Proofs.Text.Letter

/-!
The tags of a text, place by place. Whether a tag begins at a place can be told from the character
before it and from what stands there; since no name holds a number sign, a blank or a parenthesis,
the names that are read one behind the other are all of them.
-/

namespace NoteBridge.Markdown.Tag

open Text

/-! ### What stands in no name -/

/-- The characters that a tag can stand behind, the sign that it begins with, and the mark of an
embedding. -/
def borderCodes : List Nat := '#'.toNat :: '('.toNat :: '!'.toNat :: blankCodes

theorem letters_apart : letterRanges.toList.all (isApart borderCodes) = true := by
  decide +kernel

theorem numerals_apart : decimalRanges.toList.all (isApart borderCodes) = true ∧
    letterNumberRanges.toList.all (isApart borderCodes) = true ∧
    otherNumberRanges.toList.all (isApart borderCodes) = true := by
  decide +kernel

theorem inName_eq_false {c : Char} (h : c.toNat ∈ borderCodes) : inName c = false := by
  have hmark : ∀ mark : Char, mark.toNat ∉ borderCodes → (c == mark) = false := by
    rintro mark hmark
    exact beq_eq_false_iff_ne.2 fun heq => hmark (heq ▸ h)
  rw [inName, startsName, isLetter, isNumeral, isDecimalDigit, inRanges_eq_false letters_apart h,
    inRanges_eq_false numerals_apart.1 h, inRanges_eq_false numerals_apart.2.1 h,
    inRanges_eq_false numerals_apart.2.2 h, hmark '_' (by decide), hmark '/' (by decide),
    hmark '-' (by decide)]
  rfl

/-- Whether a tag can begin behind a character. -/
def opensName (c : Char) : Bool := isBlank c || c == '('

theorem opensName_eq_false {c : Char} (h : inName c = true) : opensName c = false := by
  rw [Bool.eq_false_iff]
  intro hopens
  have hcode : c.toNat ∈ borderCodes := by
    rcases Bool.or_eq_true_iff.1 hopens with hblank | hparen
    · exact List.mem_append_right ['#'.toNat, '('.toNat, '!'.toNat] (mem_blankCodes hblank)
    · rw [beq_iff_eq.1 hparen]
      decide
  rw [inName_eq_false hcode] at h
  cases h

theorem ne_sign_of_inName {c : Char} (h : inName c = true) : c ≠ '#' := by
  rintro rfl
  rw [inName_eq_false (by decide)] at h
  cases h

/-! ### Places -/

/-- The tag that begins at a place, if one does: behind a character after which a tag can begin, or
at the start of the text, a number sign and a name that is not made of digits alone. -/
def tagAt? (last : Option Char) : List Char → Option (List Char)
  | '#' :: rest =>
    let name := rest.takeWhile inName
    if last.all opensName && rest.head?.any startsName && isTag name then some name else none
  | _ => none

/-- The tags at the places of a text, from the left to the right. -/
def tagsFrom (last : Option Char) : List Char → List (List Char)
  | [] => []
  | c :: cs => (tagAt? last (c :: cs)).toList ++ tagsFrom (some c) cs

/-- The tags of a text, place by place. -/
def tagsIn (cs : List Char) : List String := (tagsFrom none cs).map String.ofList

theorem tagAt?_eq_none {c : Char} (h : c ≠ '#') (last : Option Char) (cs : List Char) :
    tagAt? last (c :: cs) = none := by
  unfold tagAt?
  split
  · next heq => exact absurd (List.cons.inj heq).1 h
  · rfl

theorem takeWhile_inName_ne_nil {cs : List Char} (h : cs.head?.any startsName = true) :
    cs.takeWhile inName ≠ [] := by
  cases cs with
  | nil => cases h
  | cons c cs =>
    rw [List.head?_cons, Option.any_some] at h
    have hname : inName c = true := by rw [inName, h, Bool.true_or, Bool.true_or]
    rw [List.takeWhile_cons_of_pos hname]
    exact List.cons_ne_nil _ _

/-- No tag begins inside a name. -/
theorem exists_tagsFrom_append {name : List Char} (h : ∀ c ∈ name, inName c = true)
    (hne : name ≠ []) (last : Option Char) (rest : List Char) :
    ∃ c, inName c = true ∧ tagsFrom last (name ++ rest) = tagsFrom (some c) rest := by
  induction name generalizing last with
  | nil => exact absurd rfl hne
  | cons c name ih =>
    obtain ⟨hc, hname⟩ := List.forall_mem_cons.1 h
    rw [List.cons_append, tagsFrom, tagAt?_eq_none (ne_sign_of_inName hc), Option.toList_none,
      List.nil_append]
    cases name with
    | nil => exact ⟨c, hc, rfl⟩
    | cons d name => exact ih hname (List.cons_ne_nil d name) (some c)

theorem tagAt?_of_opens {last : Option Char} {c : Char} {cs : List Char}
    (h : (last.all opensName && c == '#' && cs.head?.any startsName) = true) :
    (tagAt? last (c :: cs)).toList = [cs.takeWhile inName].filter isTag := by
  simp only [Bool.and_eq_true] at h
  obtain ⟨⟨hlast, hc⟩, hname⟩ := h
  rw [beq_iff_eq.1 hc, tagAt?, hlast, hname]
  cases htag : isTag (cs.takeWhile inName) <;> simp [htag]

theorem tagAt?_of_not_opens {last : Option Char} {c : Char} {cs : List Char}
    (h : ¬(last.all opensName && c == '#' && cs.head?.any startsName) = true) :
    tagAt? last (c :: cs) = none := by
  unfold tagAt?
  split
  · next rest heq =>
    cases heq
    refine if_neg fun hall => h ?_
    simp only [Bool.and_eq_true] at hall ⊢
    exact ⟨⟨hall.1.1, rfl⟩, hall.1.2⟩
  · rfl

/-- The names that are read one behind the other are those at the places of the text. -/
theorem filter_names (last : Option Char) (cs : List Char) :
    (names (last.all opensName) cs).filter isTag = tagsFrom last cs := by
  generalize hcan : last.all opensName = canStart
  fun_induction names canStart cs generalizing last with
  | case1 => rfl
  | case2 canStart c cs hopens name ih =>
    subst hcan
    have hne : name ≠ [] := takeWhile_inName_ne_nil (Bool.and_eq_true_iff.1 hopens).2
    have hrest : name ++ cs.drop name.length = cs :=
      List.prefix_iff_eq_append.1 (List.takeWhile_prefix inName)
    obtain ⟨d, hd, hbehind⟩ := exists_tagsFrom_append (fun d hd => List.mem_takeWhile_imp hd) hne
      (some c) (cs.drop name.length)
    rw [hrest] at hbehind
    rw [tagsFrom, tagAt?_of_opens hopens, hbehind, ← ih (some d) (opensName_eq_false hd)]
    exact List.filter_append [name] _
  | case3 canStart c cs hopens ih =>
    subst hcan
    rw [ih (some c) rfl, tagsFrom, tagAt?_of_not_opens hopens]
    rfl

theorem inText_eq (cs : List Char) : inText cs = tagsIn cs := by
  rw [inText, tagsIn, ← filter_names]
  rfl

/-- The mark of an embedding belongs to no tag before it. -/
theorem tagsFrom_concat_mark (last : Option Char) (cs : List Char) :
    tagsFrom last (cs ++ ['!']) = tagsFrom last cs := by
  have hmark : inName '!' = false := inName_eq_false (by decide)
  have hstart : startsName '!' = false := by
    rw [inName, Bool.or_assoc, Bool.or_eq_false_iff] at hmark
    exact hmark.1
  induction cs generalizing last with
  | nil => rfl
  | cons c cs ih =>
    have hname : (cs ++ ['!']).takeWhile inName = cs.takeWhile inName := by
      rw [List.takeWhile_append, List.takeWhile_cons_of_neg (by simpa using hmark)]
      split
      · next hall => rw [(List.takeWhile_prefix inName).eq_of_length hall, List.append_nil]
      · rfl
    have hhead : (cs ++ ['!']).head?.any startsName = cs.head?.any startsName := by
      cases cs with
      | nil => rw [List.nil_append, List.head?_cons, Option.any_some, hstart]; rfl
      | cons d cs => rfl
    have hhere : tagAt? last (c :: (cs ++ ['!'])) = tagAt? last (c :: cs) := by
      by_cases hc : c = '#'
      · rw [hc, tagAt?, tagAt?, hname, hhead]
      · rw [tagAt?_eq_none hc, tagAt?_eq_none hc]
    rw [List.cons_append, tagsFrom, tagsFrom, hhere, ih]

theorem tagsIn_concat_mark (cs : List Char) : tagsIn (cs ++ ['!']) = tagsIn cs := by
  rw [tagsIn, tagsIn, tagsFrom_concat_mark]

end NoteBridge.Markdown.Tag
