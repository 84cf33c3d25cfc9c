import Mathlib.Tactic.MkIffOfInductiveProp
import NoteBridge.Proofs.Markup.WikiLink

/-!
Names between brackets. A name of a note is read as the target of a reference, alone and with a bar
and a label behind it. What encloses an inner text in brackets is read as a reference with this
text, unless brackets that close it come earlier.
-/

namespace NoteBridge.Markup

open Text (Tight trim)

variable {name inner cs : List Char}

/-! ### What stands between the brackets -/

namespace CrossRef

/-- A text that is the target of a reference, whatever label stands behind it. -/
@[mk_iff]
structure IsName (cs : List Char) : Prop where
  tight : Tight cs
  bar : '|' ∉ cs
  numberSign : '#' ∉ cs
  closing : ¬WikiLink.closing <:+: cs
  lineFeed : '\n' ∉ cs

instance : DecidablePred IsName := fun cs => decidable_of_iff _ (isName_iff cs).symm

theorem cutAt_of_not_mem {mark : Char} (h : mark ∉ cs) : cutAt mark cs = (cs, none) := by
  have hcut : Text.cut? [mark] cs = none := by
    rwa [Text.cut?_eq_none_iff, List.singleton_infix_iff]
  rw [cutAt, hcut]

theorem cutAt_append {mark : Char} (h : mark ∉ cs) (after : List Char) :
    cutAt mark (cs ++ mark :: after) = (cs, nonEmpty? (trim after)) := by
  rw [cutAt, Text.cut?_single h]

/-- A text with the mark loses it. -/
theorem length_cutAt_lt {mark : Char} (h : mark ∈ cs) : (cutAt mark cs).1.length < cs.length := by
  obtain ⟨before, after, rfl, hbefore⟩ := List.eq_append_cons_of_mem h
  rw [cutAt_append hbefore, List.length_append, List.length_cons]
  exact Nat.lt_add_of_pos_right (Nat.succ_pos _)

theorem nonEmpty?_of_ne_nil (h : cs ≠ []) : nonEmpty? cs = some (String.ofList cs) :=
  if_neg (mt List.isEmpty_iff.1 h)

theorem parseChars_name (h : IsName name) (embed : Bool) :
    parseChars name embed = { target := String.ofList name, embed } := by
  rw [parseChars, cutAt_of_not_mem h.bar]
  dsimp only
  rw [cutAt_of_not_mem h.numberSign, h.tight.2]

/-- The text before the marks is all of a trimmed text only if the text has neither of them. -/
theorem target_parseChars_eq_iff (cs : List Char) (embed : Bool) :
    (parseChars cs embed).target = String.ofList cs ↔ trim cs = cs ∧ '|' ∉ cs ∧ '#' ∉ cs := by
  constructor
  · intro h
    have htarget : trim (cutAt '#' (cutAt '|' cs).1).1 = cs := String.ofList_inj.1 h
    have hlength := congrArg List.length htarget
    have hplace := (length_cutAt_le '|' cs).1
    have hfirst := (length_cutAt_le '#' (cutAt '|' cs).1).1
    have htrim := Text.length_trim_le (cutAt '#' (cutAt '|' cs).1).1
    have hbar : '|' ∉ cs := by
      intro hmem
      have hlt := length_cutAt_lt hmem
      omega
    have hsign : '#' ∉ cs := by
      intro hmem
      rw [cutAt_of_not_mem hbar] at hlength htrim
      have hlt := length_cutAt_lt hmem
      dsimp only at hlength htrim
      omega
    refine ⟨?_, hbar, hsign⟩
    rw [← htarget, Text.trim_trim]
  · rintro ⟨htrim, hbar, hsign⟩
    rw [parseChars, cutAt_of_not_mem hbar]
    dsimp only
    rw [cutAt_of_not_mem hsign, htrim]

theorem parseChars_labelled (h : IsName name) (label : List Char) (embed : Bool) :
    parseChars (name ++ '|' :: label) embed =
      { target := String.ofList name, label := nonEmpty? (trim label), embed } := by
  rw [parseChars, cutAt_append h.bar]
  dsimp only
  rw [cutAt_of_not_mem h.numberSign, h.tight.2]

end CrossRef

/-! ### The brackets -/

namespace WikiLink

/-- An inner text in the brackets of a reference. -/
def enclosed (inner : List Char) : List Char := opening ++ inner ++ closing

theorem tight_bracketed (inner : List Char) : Tight ('[' :: inner ++ [']']) := by
  refine ⟨nofun, Text.trim_eq_self ?_ ?_⟩
  · intro c hc
    cases hc
    decide
  · intro c hc
    rw [List.getLast?_concat] at hc
    cases hc
    decide

theorem enclosed_eq (inner : List Char) :
    enclosed inner = '[' :: ('[' :: inner ++ [']']) ++ [']'] := by
  simp [enclosed, opening, closing]

theorem tight_enclosed (inner : List Char) : Tight (enclosed inner) := by
  rw [enclosed_eq]
  exact tight_bracketed _

theorem length_enclosed (inner : List Char) : (enclosed inner).length = inner.length + 4 := by
  simp [enclosed, opening, closing]

theorem not_closing_infix_labelled {label : List Char} (hname : ¬closing <:+: name)
    (hlabel : ¬closing <:+: label) : ¬closing <:+: name ++ '|' :: label := fun h =>
  (Text.infix_or_infix_of_not_mem (by decide) h).elim hname hlabel

theorem not_closing_infix_concat (h : ¬closing <:+: cs) (hlast : cs.getLast? ≠ some ']') :
    ¬closing <:+: cs ++ [']'] :=
  mt Text.pair_infix_concat_iff.1 (not_or.2 ⟨h, hlast⟩)

theorem splitFrom_of_cut? {rest after : List Char} (hopen : Text.cut? opening cs = some ([], rest))
    (hclose : Text.cut? closing rest = some (inner, after)) (hne : inner ≠ [])
    (hline : '\n' ∉ inner) :
    splitFrom [] cs = .crossRef (CrossRef.parseChars inner false) :: splitFrom [] after := by
  have hskip : ¬(inner.isEmpty || inner.contains '\n') = true := by simp [hne, hline]
  rw [splitFrom]
  split
  · next hnone => cases hopen.symm.trans hnone
  · next before' rest' hopen' =>
    cases hopen.symm.trans hopen'
    split
    · next hnone => cases hclose.symm.trans hnone
    · next inner' after' hclose' =>
      cases hclose.symm.trans hclose'
      rw [if_neg hskip]
      rfl

/-- What encloses a text is read as a reference with this text. -/
theorem split_enclosed (hne : inner ≠ []) (hline : '\n' ∉ inner)
    (hclosing : ¬closing <:+: inner ++ [']']) :
    split (String.ofList (enclosed inner)) = [.crossRef (CrossRef.parseChars inner false)] := by
  have hopen : Text.cut? opening (enclosed inner) = some ([], inner ++ closing) := by
    rw [enclosed, List.append_assoc]
    rfl
  have hclose : Text.cut? closing (inner ++ closing) = some (inner, []) := by
    have hcut := Text.cut?_append (List.cons_ne_nil ']' [']']) hclosing []
    rwa [List.append_nil] at hcut
  rw [split, String.toList_ofList, splitFrom_of_cut? hopen hclose hne hline,
    splitFrom_of_not_hasLink (not_hasLink_of_cut?_opening rfl)]
  rfl

end WikiLink
end NoteBridge.Markup
