import Mathlib.Data.List.Infix
import NoteBridge.Proofs.Text.Blank
import NoteBridge.Text.Search

/-!
Laws of cutting. What stands after a start is what completes it to the whole text, and a text that
is cut at a needle is put together from the needle and what stands around it. The words of a text
have no blanks, and a text without blanks is one word.
-/

namespace NoteBridge.Text

theorem after?_eq_some_iff {start cs rest : List Char} :
    after? start cs = some rest ↔ cs = start ++ rest := by
  induction start generalizing cs with
  | nil =>
    rw [after?, Option.some_inj]
    exact Iff.rfl
  | cons s start ih =>
    cases cs with
    | nil => simp [after?]
    | cons c cs =>
      rw [after?, List.cons_append, List.cons.injEq]
      split
      · next h => rw [ih, and_iff_right h.symm]
      · next h => exact ⟨nofun, fun hc => absurd hc.1.symm h⟩

theorem after?_eq_none_iff {start cs : List Char} : after? start cs = none ↔ ¬start <+: cs := by
  rw [Option.eq_none_iff_forall_ne_some]
  constructor
  · rintro h ⟨rest, rfl⟩
    exact h rest (after?_eq_some_iff.2 rfl)
  · rintro h rest hrest
    exact h ⟨rest, (after?_eq_some_iff.1 hrest).symm⟩

theorem before?_eq_some_iff {ending cs rest : List Char} :
    before? ending cs = some rest ↔ cs = rest ++ ending := by
  rw [before?, Option.map_eq_some_iff]
  constructor
  · rintro ⟨reversed, hafter, rfl⟩
    rw [← List.reverse_inj, after?_eq_some_iff.1 hafter]
    simp
  · rintro rfl
    exact ⟨rest.reverse, after?_eq_some_iff.2 List.reverse_append, List.reverse_reverse rest⟩

theorem before?_eq_none_of_not_mem {c : Char} {cs : List Char} (h : c ∉ cs) :
    before? [c] cs = none := by
  rw [Option.eq_none_iff_forall_ne_some]
  intro rest hrest
  rw [before?_eq_some_iff.1 hrest] at h
  exact h List.mem_concat_self

theorem eq_append_of_cut? {needle cs before after : List Char}
    (h : cut? needle cs = some (before, after)) : cs = before ++ needle ++ after := by
  induction cs generalizing before with
  | nil =>
    rw [cut?] at h
    split at h
    · next hempty =>
      cases h
      rw [List.isEmpty_iff.1 hempty]
      rfl
    · cases h
  | cons c cs ih =>
    rw [cut?] at h
    split at h
    · next hstart =>
      cases h
      obtain ⟨rest, hrest⟩ := List.isPrefixOf_iff_prefix.1 hstart
      rw [← hrest, List.drop_left, List.nil_append]
    · obtain ⟨⟨before', after'⟩, hcut, heq⟩ := Option.map_eq_some_iff.1 h
      cases heq
      rw [ih hcut]
      rfl

theorem cut?_eq_none_iff {needle cs : List Char} : cut? needle cs = none ↔ ¬needle <:+: cs := by
  induction cs with
  | nil => simp [cut?]
  | cons c cs ih =>
    rw [cut?, List.infix_cons_iff, ← List.isPrefixOf_iff_prefix]
    split
    · next hstart => simp [hstart]
    · next hstart => simp [hstart, ih]

/-- No occurrence of the needle begins before the place of the cut. -/
theorem length_le_of_cut? {needle cs before after pre post : List Char}
    (h : cut? needle cs = some (before, after)) (hcs : cs = pre ++ needle ++ post) :
    before.length ≤ pre.length := by
  induction cs generalizing before pre with
  | nil =>
    have hempty := eq_append_of_cut? h
    simp only [List.nil_eq, List.append_eq_nil_iff] at hempty
    simp [hempty.1.1]
  | cons c cs ih =>
    rw [cut?] at h
    split at h
    · cases h
      exact Nat.zero_le _
    · next hstart =>
      obtain ⟨⟨before', after'⟩, hcut, heq⟩ := Option.map_eq_some_iff.1 h
      cases heq
      cases pre with
      | nil =>
        refine absurd (List.isPrefixOf_iff_prefix.2 ⟨post, ?_⟩) hstart
        rw [hcs, List.nil_append]
      | cons p pre =>
        have hrest : cs = pre ++ needle ++ post := (List.cons.inj hcs).2
        have hle := ih hcut hrest
        simp only [List.length_cons]
        omega

/-- A text is cut where a needle is put, unless an earlier one begins before it. -/
theorem cut?_append {needle before : List Char} (hne : needle ≠ [])
    (h : ¬needle <:+: before ++ needle.dropLast) (after : List Char) :
    cut? needle (before ++ needle ++ after) = some (before, after) := by
  induction before with
  | nil =>
    cases needle with
    | nil => exact absurd rfl hne
    | cons c rest =>
      have hstart : (c :: rest).isPrefixOf (c :: (rest ++ after)) = true :=
        List.isPrefixOf_iff_prefix.2 ⟨after, rfl⟩
      rw [List.nil_append, List.cons_append, cut?, if_pos hstart, ← List.cons_append,
        List.drop_left]
  | cons c before ih =>
    have hrest : ¬needle <:+: before ++ needle.dropLast := fun hlater =>
      h (hlater.trans (List.suffix_cons c _).isInfix)
    have hstart : ¬needle.isPrefixOf (c :: (before ++ needle ++ after)) = true := by
      intro hprefix
      -- an occurrence that begins here ends before the last character of the needle that was put
      have hshort : needle.length ≤ (c :: before ++ needle.dropLast).length := by
        simp only [List.cons_append, List.length_cons, List.length_append, List.length_dropLast]
        omega
      have hwhole : c :: before ++ needle.dropLast <+: c :: (before ++ needle ++ after) := by
        refine ⟨[needle.getLast hne] ++ after, ?_⟩
        rw [← List.append_assoc, List.append_assoc (c :: before), List.dropLast_append_getLast hne]
        rfl
      have hstarts := List.isPrefixOf_iff_prefix.1 hprefix
      exact h (List.prefix_of_prefix_length_le hstarts hwhole hshort).isInfix
    rw [List.cons_append, List.cons_append, cut?, if_neg hstart, ih hrest]
    rfl

/-- A text is cut at the first occurrence, also among those that overlap it. -/
theorem not_infix_of_cut? {needle cs before after : List Char} (hne : needle ≠ [])
    (h : cut? needle cs = some (before, after)) : ¬needle <:+: before ++ needle.dropLast := by
  rintro ⟨pre, post, hearlier⟩
  have hcs : cs = pre ++ needle ++ (post ++ [needle.getLast hne] ++ after) := by
    rw [eq_append_of_cut? h]
    nth_rewrite 1 [← List.dropLast_append_getLast hne]
    simp only [← hearlier, ← List.append_assoc]
  have hle := length_le_of_cut? h hcs
  have hlength := congrArg List.length hearlier
  have hpos := List.length_pos_iff.2 hne
  simp only [List.length_append, List.length_dropLast] at hlength
  omega

theorem cut?_eq_some_iff {needle cs before after : List Char} (hne : needle ≠ []) :
    cut? needle cs = some (before, after) ↔
      cs = before ++ needle ++ after ∧ ¬needle <:+: before ++ needle.dropLast := by
  constructor
  · exact fun h => ⟨eq_append_of_cut? h, not_infix_of_cut? hne h⟩
  · rintro ⟨rfl, hearlier⟩
    exact cut?_append hne hearlier after

theorem pair_infix_concat_iff {c : Char} {cs : List Char} :
    [c, c] <:+: cs ++ [c] ↔ [c, c] <:+: cs ∨ cs.getLast? = some c := by
  rw [List.infix_concat_iff, or_comm]
  refine or_congr_right ?_
  rw [List.getLast?_eq_some_iff]
  constructor
  · rintro ⟨before, h⟩
    have hcs : cs ++ [c] = before ++ [c] ++ [c] := by
      rw [← h, List.append_assoc]
      rfl
    exact ⟨before, List.append_cancel_right hcs⟩
  · rintro ⟨before, rfl⟩
    exact ⟨before, by rw [List.append_assoc]; rfl⟩

/-- A text is cut at the first pair of a character, so the text before ends with another one. -/
theorem cut?_pair_eq_some_iff {c : Char} {cs before after : List Char} :
    cut? [c, c] cs = some (before, after) ↔
      cs = before ++ [c, c] ++ after ∧ ¬[c, c] <:+: before ∧ before.getLast? ≠ some c := by
  rw [cut?_eq_some_iff (List.cons_ne_nil c [c]), ← not_or, ← pair_infix_concat_iff]
  rfl

/-- A text is cut at the same place, whatever more stands behind it. -/
theorem cut?_append_right {needle cs before after : List Char} (hne : needle ≠ [])
    (h : cut? needle cs = some (before, after)) (more : List Char) :
    cut? needle (cs ++ more) = some (before, after ++ more) := by
  obtain ⟨rfl, hearlier⟩ := (cut?_eq_some_iff hne).1 h
  rw [List.append_assoc]
  exact cut?_append hne hearlier _

theorem cut?_single {mark : Char} {before : List Char} (h : mark ∉ before) (after : List Char) :
    cut? [mark] (before ++ mark :: after) = some (before, after) := by
  have hearlier : ¬[mark] <:+: before ++ [mark].dropLast := by
    rwa [List.dropLast_singleton, List.append_nil, List.singleton_infix_iff]
  have hcut := cut?_append (List.cons_ne_nil mark []) hearlier after
  rwa [List.append_assoc, List.singleton_append] at hcut

/-- A text does not stand across a mark that it does not have. -/
theorem infix_or_infix_of_not_mem {mark : Char} {needle before after : List Char}
    (hmark : mark ∉ needle) (h : needle <:+: before ++ mark :: after) :
    needle <:+: before ∨ needle <:+: after := by
  have hstart : ∀ {before}, needle <+: before ++ mark :: after → needle <+: before := by
    intro before hprefix
    rcases Nat.lt_or_ge before.length needle.length with hlong | hshort
    · have hwhole : before ++ [mark] <+: before ++ mark :: after := ⟨after, by simp⟩
      have hmarked : before ++ [mark] <+: needle :=
        List.prefix_of_prefix_length_le hwhole hprefix (by simpa [Nat.succ_le_iff] using hlong)
      exact absurd (hmarked.subset (by simp)) hmark
    · exact List.prefix_of_prefix_length_le hprefix (List.prefix_append before _) hshort
  induction before with
  | nil =>
    rcases List.infix_cons_iff.1 h with hhere | hlater
    · exact .inl (hstart hhere).isInfix
    · exact .inr hlater
  | cons c before ih =>
    rcases List.infix_cons_iff.1 h with hhere | hlater
    · exact .inl (hstart hhere).isInfix
    · exact (ih hlater).imp_left fun hbefore => hbefore.trans (List.suffix_cons c _).isInfix

/-! ### Joining -/

theorem join_cons {separator : List Char} (piece : List Char) {pieces : List (List Char)}
    (h : pieces ≠ []) :
    join separator (piece :: pieces) = piece ++ separator ++ join separator pieces := by
  obtain ⟨next, pieces, rfl⟩ := List.exists_cons_of_ne_nil h
  rfl

theorem join_append {separator : List Char} {as bs : List (List Char)} (has : as ≠ [])
    (hbs : bs ≠ []) :
    join separator (as ++ bs) = join separator as ++ separator ++ join separator bs := by
  induction as with
  | nil => exact absurd rfl has
  | cons piece pieces ih =>
    cases pieces with
    | nil => exact join_cons piece hbs
    | cons next pieces =>
      have hne : next :: pieces ≠ [] := List.cons_ne_nil _ _
      rw [List.cons_append, join_cons piece (List.append_ne_nil_of_left_ne_nil hne bs), ih hne,
        join_cons piece hne]
      simp only [List.append_assoc]

theorem join_append_cons {separator : List Char} (start piece : List Char)
    (pieces : List (List Char)) :
    join separator ((start ++ piece) :: pieces) = start ++ join separator (piece :: pieces) := by
  cases pieces with
  | nil => rfl
  | cons next pieces => simp only [join, List.append_assoc]

theorem mem_join {separator : List Char} {pieces : List (List Char)} {c : Char}
    (h : c ∈ join separator pieces) : c ∈ separator ∨ ∃ piece ∈ pieces, c ∈ piece := by
  induction pieces with
  | nil => cases h
  | cons piece rest ih =>
    cases rest with
    | nil => exact .inr ⟨piece, List.mem_singleton_self piece, h⟩
    | cons next rest =>
      rw [join, List.mem_append, List.mem_append] at h
      rcases h with (hpiece | hseparator) | hrest
      · exact .inr ⟨piece, List.mem_cons_self .., hpiece⟩
      · exact .inl hseparator
      · refine (ih hrest).imp_right fun ⟨other, hother, hc⟩ => ?_
        exact ⟨other, List.mem_cons_of_mem _ hother, hc⟩

/-! ### Replacing -/

theorem replaceChar_append (old : Char) (new as bs : List Char) :
    replaceChar old new (as ++ bs) = replaceChar old new as ++ replaceChar old new bs :=
  List.flatMap_append ..

theorem replaceChar_cons (old c : Char) (new cs : List Char) :
    replaceChar old new (c :: cs) = (if c = old then new else [c]) ++ replaceChar old new cs :=
  List.flatMap_cons ..

theorem replaceChar_cons_self (old : Char) (new cs : List Char) :
    replaceChar old new (old :: cs) = new ++ replaceChar old new cs := by
  rw [replaceChar_cons, if_pos rfl]

theorem replaceChar_of_not_mem {old : Char} {new cs : List Char} (h : old ∉ cs) :
    replaceChar old new cs = cs := by
  have hsame : ∀ c ∈ cs, (if c = old then new else [c]) = [c] := by
    intro c hc
    rw [if_neg]
    rintro rfl
    exact h hc
  rw [replaceChar, List.flatMap_congr hsame, List.flatMap_singleton']

theorem not_mem_replaceChar {old : Char} {new : List Char} (h : old ∉ new) (cs : List Char) :
    old ∉ replaceChar old new cs := by
  intro hmem
  obtain ⟨c, -, hc⟩ := List.mem_flatMap.1 hmem
  split at hc
  · exact h hc
  · next hne => exact hne (List.mem_singleton.1 hc).symm

/-! ### Pieces between marks -/

theorem splitWhere_ne_nil (p : Char → Bool) (cs : List Char) : splitWhere p cs ≠ [] := by
  cases cs with
  | nil => exact List.cons_ne_nil _ _
  | cons c cs =>
    rw [splitWhere]
    split
    · exact List.cons_ne_nil _ _
    · split <;> exact List.cons_ne_nil _ _

theorem not_of_mem_splitWhere {p : Char → Bool} {cs piece : List Char}
    (h : piece ∈ splitWhere p cs) : ∀ c ∈ piece, ¬p c := by
  induction cs generalizing piece with
  | nil =>
    cases List.mem_singleton.1 h
    exact List.forall_mem_nil _
  | cons c cs ih =>
    rw [splitWhere] at h
    split at h
    · next hnil => exact absurd hnil (splitWhere_ne_nil p cs)
    · next first pieces hsplit =>
      rw [hsplit] at ih
      split at h
      · rcases List.mem_cons.1 h with rfl | h
        · exact List.forall_mem_nil _
        · exact ih h
      · next hc =>
        rcases List.mem_cons.1 h with rfl | h
        · exact List.forall_mem_cons.2 ⟨hc, ih (List.mem_cons_self ..)⟩
        · exact ih (List.mem_cons_of_mem _ h)

theorem splitWhere_of_forall_not {p : Char → Bool} {cs : List Char} (h : ∀ c ∈ cs, ¬p c) :
    splitWhere p cs = [cs] := by
  induction cs with
  | nil => rfl
  | cons c cs ih =>
    obtain ⟨hc, hcs⟩ := List.forall_mem_cons.1 h
    rw [splitWhere, ih hcs]
    exact if_neg hc

theorem splitWhere_append {p : Char → Bool} {piece : List Char} (h : ∀ c ∈ piece, ¬p c)
    {mark : Char} (hmark : p mark) (rest : List Char) :
    splitWhere p (piece ++ mark :: rest) = piece :: splitWhere p rest := by
  induction piece with
  | nil =>
    obtain ⟨first, pieces, hrest⟩ := List.exists_cons_of_ne_nil (splitWhere_ne_nil p rest)
    rw [List.nil_append, splitWhere, hrest]
    exact if_pos hmark
  | cons c piece ih =>
    obtain ⟨hc, hpiece⟩ := List.forall_mem_cons.1 h
    rw [List.cons_append, splitWhere, ih hpiece]
    exact if_neg hc

/-- Pieces without the mark are found again between the marks that join them. -/
theorem splitWhere_join {p : Char → Bool} {mark : Char} (hmark : p mark)
    {pieces : List (List Char)} (hne : pieces ≠ []) (h : ∀ piece ∈ pieces, ∀ c ∈ piece, ¬p c) :
    splitWhere p (join [mark] pieces) = pieces := by
  induction pieces with
  | nil => exact absurd rfl hne
  | cons piece pieces ih =>
    obtain ⟨hpiece, hpieces⟩ := List.forall_mem_cons.1 h
    cases pieces with
    | nil => exact splitWhere_of_forall_not hpiece
    | cons next pieces =>
      rw [join, List.append_assoc, List.singleton_append, splitWhere_append hpiece hmark,
        ih (List.cons_ne_nil _ _) hpieces]

/-- Between marks of one kind, the pieces make up the text. -/
theorem join_splitWhere (mark : Char) (cs : List Char) :
    join [mark] (splitWhere (· == mark) cs) = cs := by
  induction cs with
  | nil => rfl
  | cons c cs ih =>
    obtain ⟨piece, pieces, hsplit⟩ :=
      List.exists_cons_of_ne_nil (splitWhere_ne_nil (· == mark) cs)
    rw [hsplit] at ih
    rw [splitWhere, hsplit]
    dsimp only
    split
    · next hmark =>
      rw [join_cons [] (List.cons_ne_nil _ _), ih, List.nil_append, beq_iff_eq.1 hmark]
      rfl
    · exact (join_append_cons [c] piece pieces).trans (congrArg _ ih)

theorem infix_join_of_mem {separator piece : List Char} {pieces : List (List Char)}
    (h : piece ∈ pieces) : piece <:+: join separator pieces := by
  induction pieces with
  | nil => cases h
  | cons first pieces ih =>
    cases pieces with
    | nil => exact List.mem_singleton.1 h ▸ List.infix_rfl
    | cons next pieces =>
      rw [join]
      rcases List.mem_cons.1 h with rfl | h
      · exact ((List.prefix_append piece separator).trans (List.prefix_append _ _)).isInfix
      · exact (ih h).trans (List.suffix_append _ _).isInfix

theorem infix_of_mem_splitWhere {mark : Char} {cs piece : List Char}
    (h : piece ∈ splitWhere (· == mark) cs) : piece <:+: cs := by
  conv_rhs => rw [← join_splitWhere mark cs]
  exact infix_join_of_mem h

theorem unbroken_of_mem_words {cs word : List Char} (h : word ∈ words cs) : Unbroken word :=
  not_of_mem_splitWhere (List.mem_of_mem_filter h)

theorem words_of_unbroken {cs : List Char} (h : Unbroken cs) :
    words cs = if cs.isEmpty then [] else [cs] := by
  rw [words, splitWhere_of_forall_not h]
  cases cs <;> rfl

end NoteBridge.Text
