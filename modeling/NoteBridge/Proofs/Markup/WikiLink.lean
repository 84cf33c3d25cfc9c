import NoteBridge.Markup.WikiLink
import NoteBridge.Proofs.Text.Blank
import NoteBridge.Proofs.Text.Search

/-!
Where a text has a reference. Brackets open one if the next brackets that close it come on the same
line, and not at once. A text without such brackets is split into itself; any other loses brackets.
-/

namespace NoteBridge.Markup

/-! ### The length of references -/

namespace CrossRef

theorem length_cutAt_le (mark : Char) (cs : List Char) : (cutAt mark cs).1.length ≤ cs.length ∧
    ∀ s ∈ (cutAt mark cs).2, s.toList.length ≤ cs.length := by
  unfold cutAt
  split
  · next before after hcut =>
    have hlength := WikiLink.length_cut? (List.cons_ne_nil _ _) hcut
    have htrim := Text.length_trim_le after
    have hbefore : before.length ≤ cs.length := by omega
    refine ⟨hbefore, fun s hs => ?_⟩
    dsimp only at hs
    unfold nonEmpty? at hs
    split at hs
    · cases hs
    · cases hs
      rw [String.toList_ofList]
      omega
  · refine ⟨Nat.le_refl _, fun s hs => ?_⟩
    cases hs

/-- A reference shows no more than what stands between its brackets. -/
theorem length_shown_parseChars_le (inner : List Char) (embed : Bool) :
    (parseChars inner embed).shown.toList.length ≤ inner.length := by
  obtain ⟨hplace, hlabel⟩ := length_cutAt_le '|' inner
  have htarget := (length_cutAt_le '#' (cutAt '|' inner).1).1
  have htrim := Text.length_trim_le (cutAt '#' (cutAt '|' inner).1).1
  have hshown : (parseChars inner embed).shown =
      (cutAt '|' inner).2.getD (String.ofList (Text.trim (cutAt '#' (cutAt '|' inner).1).1)) := rfl
  rw [hshown]
  cases hcut : (cutAt '|' inner).2 with
  | some label => exact hlabel label hcut
  | none =>
    rw [Option.getD_none, String.toList_ofList]
    omega

end CrossRef

/-! ### Brackets that open a reference -/

namespace WikiLink

open Text (cut? eq_append_of_cut? length_le_of_cut? cut?_eq_none_iff)

variable {cs rest pending before inner after place : List Char}

/-- Whether the brackets that stand behind `place` open a reference. -/
def OpensAt (place cs : List Char) : Prop :=
  ∃ rest inner after, cs = place ++ opening ++ rest ∧
    cut? closing rest = some (inner, after) ∧ inner ≠ [] ∧ '\n' ∉ inner

/-- Whether brackets somewhere in the text open a reference. -/
def HasLink (cs : List Char) : Prop :=
  ∃ before rest inner after, cs = before ++ opening ++ rest ∧
    cut? closing rest = some (inner, after) ∧ inner ≠ [] ∧ '\n' ∉ inner

theorem not_hasLink_of_cut?_opening (h : cut? opening cs = none) : ¬HasLink cs := by
  rintro ⟨before, rest, -, -, rfl, -⟩
  exact cut?_eq_none_iff.1 h ⟨before, rest, rfl⟩

theorem cut?_closing_cons_opening (rest : List Char) :
    cut? closing ('[' :: rest) = (cut? closing rest).map fun cut => ('[' :: cut.1, cut.2) := by
  rw [cut?]
  exact if_neg (by simp [closing])

/-- No reference opens before the first brackets. -/
theorem OpensAt.prefix_of_cut? (h : OpensAt place cs)
    (hopen : cut? opening cs = some (before, rest)) : before <+: place := by
  obtain ⟨rest', inner, after, hcs, -⟩ := h
  apply List.prefix_of_prefix_length_le _ _ (length_le_of_cut? hopen hcs)
  · exact cs
  · exact ⟨opening ++ rest, by rw [eq_append_of_cut? hopen, List.append_assoc]⟩
  · exact ⟨opening ++ rest', by rw [hcs, List.append_assoc]⟩

/-- Behind the first brackets, if they open no reference, are all that do. -/
theorem OpensAt.exists_append (h : OpensAt place cs) (hopen : cut? opening cs = some (before, rest))
    (hskip : ∀ inner after, cut? closing rest = some (inner, after) → inner = [] ∨ '\n' ∈ inner) :
    ∃ later, place = before ++ opening ++ later ∧ OpensAt later rest := by
  -- the first opening brackets are these, overlap with these, or stand before them
  obtain ⟨middle, rfl⟩ := prefix_of_cut? h hopen
  obtain ⟨rest', inner, after, hcs', hclose, hne, hline⟩ := h
  have hcs := eq_append_of_cut? hopen
  have hmiddle : opening ++ rest = middle ++ (opening ++ rest') := by
    rw [hcs, List.append_assoc, List.append_assoc, List.append_assoc] at hcs'
    exact List.append_cancel_left hcs'
  match middle with
  | [] =>
    have hrest : rest = rest' := List.append_cancel_left hmiddle
    rw [← hrest] at hclose
    rcases hskip inner after hclose with hinner | hinner
    · exact absurd hinner hne
    · exact absurd hinner hline
  | [c] =>
    cases hmiddle
    have hover : cut? closing ('[' :: rest') = some ('[' :: inner, after) := by
      rw [cut?_closing_cons_opening, hclose]
      rfl
    rcases hskip _ _ hover with hinner | hinner
    · cases hinner
    · simp [hline] at hinner
  | c :: d :: middle =>
    cases hmiddle
    have hlater : before ++ '[' :: '[' :: middle = before ++ opening ++ middle :=
      (List.append_assoc before opening middle).symm
    exact ⟨middle, hlater, rest', inner, after, (List.append_assoc ..).symm, hclose, hne, hline⟩

theorem opensAt_append_left (more place cs : List Char) :
    OpensAt (more ++ place) (more ++ cs) ↔ OpensAt place cs := by
  simp only [OpensAt, List.append_assoc, List.append_cancel_left_eq]

/-- What stands behind brackets that open no reference has all the references of the text. -/
theorem hasLink_iff_of_cut? (h : cut? opening cs = some (before, rest))
    (hskip : ∀ inner after, cut? closing rest = some (inner, after) → inner = [] ∨ '\n' ∈ inner) :
    HasLink cs ↔ HasLink rest := by
  constructor
  · rintro ⟨place, hplace⟩
    obtain ⟨later, -, hlater⟩ := OpensAt.exists_append hplace h hskip
    exact ⟨later, hlater⟩
  · rintro ⟨place, hplace⟩
    rw [eq_append_of_cut? h]
    exact ⟨_, (opensAt_append_left (before ++ opening) place rest).2 hplace⟩

theorem not_hasLink_of_cut?_closing (h : cut? closing cs = none) : ¬HasLink cs := by
  rintro ⟨before, rest, inner, after, rfl, hclose, -⟩
  apply cut?_eq_none_iff.1 h
  refine ⟨before ++ opening ++ inner, after, ?_⟩
  rw [eq_append_of_cut? hclose]
  simp only [List.append_assoc]

/-! ### Splitting -/

theorem splitFrom_of_not_hasLink (h : ¬HasLink cs) (pending : List Char) :
    splitFrom pending cs = textNode (pending ++ cs) := by
  fun_induction splitFrom pending cs with
  | case1 => rfl
  | case2 => rfl
  | case3 pending cs before rest hopen inner after hclose hlength hlength' hskip ih =>
    have hrest : HasLink cs ↔ HasLink rest := by
      apply hasLink_iff_of_cut? hopen
      intro inner' after' hclose'
      cases hclose.symm.trans hclose'
      simpa using hskip
    rw [ih (mt hrest.2 h), eq_append_of_cut? hopen]
    simp only [List.append_assoc]
  | case4 pending cs before rest hopen inner after hclose hlength hlength' hlink embed lead ih =>
    have hinner : inner ≠ [] ∧ '\n' ∉ inner := by simpa using hlink
    exact absurd ⟨before, rest, inner, after, eq_append_of_cut? hopen, hclose, hinner⟩ h

theorem mem_splitFrom {node : Inline} (h : node ∈ splitFrom pending cs) :
    (∃ s, node = .text s) ∨ ∃ ref, node = .crossRef ref := by
  have htext : ∀ {cs}, node ∈ textNode cs → ∃ s, node = .text s := by
    intro cs hnode
    unfold textNode at hnode
    split at hnode
    · cases hnode
    · exact ⟨_, List.mem_singleton.1 hnode⟩
  fun_induction splitFrom pending cs with
  | case1 => exact .inl (htext h)
  | case2 => exact .inl (htext h)
  | case3 _ _ _ _ _ _ _ _ _ _ _ ih => exact ih h
  | case4 _ _ _ _ _ _ _ _ _ _ _ _ _ ih =>
    rcases List.mem_append.1 h with h | h
    · exact .inl (htext h)
    · rcases List.mem_cons.1 h with rfl | h
      · exact .inr ⟨_, rfl⟩
      · exact ih h

@[simp] theorem plainCharsAll_textNode (cs : List Char) :
    Inline.plainCharsAll (textNode cs) = cs := by
  unfold textNode
  split
  · next hempty =>
    rw [List.isEmpty_iff.1 hempty]
    rfl
  · simp [Inline.plainCharsAll, Inline.plainChars]

theorem plainCharsAll_append (as bs : List Inline) :
    Inline.plainCharsAll (as ++ bs) = Inline.plainCharsAll as ++ Inline.plainCharsAll bs := by
  induction as with
  | nil => rfl
  | cons a as ih => simp [Inline.plainCharsAll, ih]

/-- The brackets around a reference are not shown. -/
theorem length_plainCharsAll_splitFrom (h : HasLink cs) (pending : List Char) :
    (Inline.plainCharsAll (splitFrom pending cs)).length < pending.length + cs.length := by
  fun_induction splitFrom pending cs with
  | case1 _ _ hopen => exact absurd h (not_hasLink_of_cut?_opening hopen)
  | case2 pending cs before rest hopen hclose =>
    have hrest := (hasLink_iff_of_cut? hopen fun _ _ hsome => by cases hclose.symm.trans hsome).1 h
    exact absurd hrest (not_hasLink_of_cut?_closing hclose)
  | case3 pending cs before rest hopen inner after hclose hlength hlength' hskip ih =>
    have hrest : HasLink cs ↔ HasLink rest := by
      apply hasLink_iff_of_cut? hopen
      intro inner' after' hclose'
      cases hclose.symm.trans hclose'
      simpa using hskip
    have hlt := ih (hrest.1 h)
    simp only [List.length_append] at hlt
    omega
  | case4 pending cs before rest hopen inner after hclose hlength hlength' hlink embed lead ih =>
    have hafter : (Inline.plainCharsAll (splitFrom [] after)).length ≤ after.length := by
      by_cases hmore : HasLink after
      · have hlt := ih hmore
        rw [List.length_nil] at hlt
        omega
      · rw [splitFrom_of_not_hasLink hmore, plainCharsAll_textNode]
        exact Nat.le_refl _
    have hlead : lead.length ≤ before.length := by
      unfold lead
      split
      · exact (List.dropLast_prefix before).length_le
      · exact Nat.le_refl _
    have hshown := CrossRef.length_shown_parseChars_le inner embed
    rw [plainCharsAll_append, plainCharsAll_textNode, Inline.plainCharsAll, Inline.plainChars]
    simp only [List.length_append, opening, closing, List.length_cons, List.length_nil] at *
    omega

end WikiLink
end NoteBridge.Markup
