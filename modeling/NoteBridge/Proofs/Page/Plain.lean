import Mathlib.Data.List.Basic
import NoteBridge.Proofs.Page.Stream

/-!
Runs of plain text, without style and link. Merging and cutting leave no run that shows nothing, so
whether the runs of a page are plain can be seen from their stream, which the limit on their length
does not change.
-/

namespace NoteBridge.Page

variable {run : Run} {runs : List Run} {cs : List Char}

/-- Whether a run is text in the default style, without a link. -/
def Run.IsPlain (run : Run) : Prop := run.kind = .text none ∧ run.style = {}

/-- Whether an item is a character of such a run. -/
def Item.IsPlain (item : Item) : Prop := ∃ c, item = .char c {} none

/-! ### Runs that show something -/

theorem ne_nil_of_mem_splitText {limit : Nat} {piece : List Char}
    (h : piece ∈ splitText limit cs) : piece ≠ [] := by
  fun_induction splitText limit cs with
  | case1 cs hlong _ ih =>
    rcases List.mem_cons.1 h with rfl | h
    · have hcut : 0 < cutPoint (max limit 1) cs := cutPoint_pos (by omega) cs
      apply List.ne_nil_of_length_pos
      rw [List.length_take]
      omega
    · exact ih h
  | case2 => cases h
  | case3 cs hshort hne =>
    rw [List.mem_singleton.1 h]
    simpa using hne

theorem items_ne_nil_of_mem_mergeRuns (h : run ∈ mergeRuns runs) : run.items ≠ [] := by
  induction runs generalizing run with
  | nil => cases h
  | cons first rest ih =>
    rw [mergeRuns] at h
    split at h
    · exact ih h
    · next hfirst =>
      have hshown : first.items ≠ [] := mt Run.items_eq_nil_iff.1 hfirst
      split at h
      · rw [List.mem_singleton.1 h]
        exact hshown
      · next next others hrest =>
        split at h
        · next hjoins =>
          rcases List.mem_cons.1 h with rfl | h
          · rw [Run.items_withChars_append hjoins]
            exact List.append_ne_nil_of_left_ne_nil hshown _
          · exact ih (hrest ▸ List.mem_cons_of_mem _ h)
        · rcases List.mem_cons.1 h with rfl | h
          · exact hshown
          · exact ih (hrest ▸ h)

theorem Run.items_ne_nil_of_mem_bounded {piece : Run} (hrun : run.items ≠ [])
    (h : piece ∈ run.bounded) : piece.items ≠ [] := by
  obtain ⟨content, style, kind⟩ := run
  unfold Run.bounded at h
  split at h
  · rwa [List.mem_singleton.1 h]
  · cases kind with
    | text link =>
      obtain ⟨cs, hcs, rfl⟩ := List.mem_map.1 h
      simpa [Run.items, Run.withChars, Run.chars, charItems] using ne_nil_of_mem_splitText hcs
    | mention page =>
      rw [List.mem_singleton.1 h]
      exact List.cons_ne_nil _ _
    | equation =>
      obtain ⟨cs, hcs, rfl⟩ := List.mem_map.1 h
      simpa [Run.items, Run.text, Run.chars, charItems] using ne_nil_of_mem_splitText hcs

theorem items_ne_nil_of_mem_boundRuns (hruns : ∀ run ∈ runs, run.items ≠ [])
    (h : run ∈ boundRuns runs) : run.items ≠ [] := by
  obtain ⟨whole, hwhole, hrun⟩ := List.mem_flatMap.1 h
  exact Run.items_ne_nil_of_mem_bounded (hruns whole hwhole) hrun

/-! ### Plain runs -/

theorem Run.IsPlain.items_eq (h : run.IsPlain) : run.items = charItems {} none run.chars := by
  obtain ⟨content, style, kind⟩ := run
  obtain ⟨hkind, hstyle⟩ := h
  dsimp only at hkind hstyle
  rw [hkind, hstyle]
  rfl

theorem Run.isPlain_of_mem_items {item : Item} (h : item ∈ run.items) (hitem : item.IsPlain) :
    run.IsPlain := by
  obtain ⟨content, style, kind⟩ := run
  obtain ⟨c, rfl⟩ := hitem
  cases kind with
  | text link =>
    obtain ⟨d, -, hd⟩ := List.mem_map.1 h
    cases hd
    exact ⟨rfl, rfl⟩
  | mention page => cases List.mem_singleton.1 h
  | equation => cases List.mem_singleton.1 h

theorem stream_of_forall_isPlain (h : ∀ run ∈ runs, run.IsPlain) :
    stream runs = charItems {} none (plainChars runs) := by
  induction runs with
  | nil => rfl
  | cons run runs ih =>
    obtain ⟨hrun, hruns⟩ := List.forall_mem_cons.1 h
    rw [stream_cons, hrun.items_eq, ih hruns, charItems, charItems, ← List.map_append]
    rfl

theorem isPlain_of_mem_charItems {item : Item} (h : item ∈ charItems {} none cs) :
    item.IsPlain := by
  obtain ⟨c, -, rfl⟩ := List.mem_map.1 h
  exact ⟨c, rfl⟩

/-- Runs that show something are plain exactly when their stream is. -/
theorem stream_eq_charItems_iff (hruns : ∀ run ∈ runs, run.items ≠ []) :
    stream runs = charItems {} none cs ↔ (∀ run ∈ runs, run.IsPlain) ∧ plainChars runs = cs := by
  constructor
  · intro h
    have hplain : ∀ run ∈ runs, run.IsPlain := by
      intro run hrun
      obtain ⟨item, hitem⟩ := List.exists_mem_of_ne_nil _ (hruns run hrun)
      have hplain : item.IsPlain := by
        apply isPlain_of_mem_charItems
        rw [← h]
        exact List.mem_flatMap.2 ⟨run, hrun, hitem⟩
      exact Run.isPlain_of_mem_items hitem hplain
    refine ⟨hplain, ?_⟩
    rw [stream_of_forall_isPlain hplain] at h
    refine List.map_injective_iff.2 ?_ h
    intro c d hcd
    cases hcd
    rfl
  · rintro ⟨hplain, rfl⟩
    exact stream_of_forall_isPlain hplain

/-! ### The limit -/

/-- The limit makes nothing plain that was not. -/
theorem Item.bounded_eq_self {item : Item} (h : ∀ piece ∈ item.bounded, piece.IsPlain) :
    item.bounded = [item] := by
  cases item with
  | char c style link => rfl
  | mention shown page style =>
    obtain ⟨c, hc⟩ := h _ (List.mem_singleton_self _)
    cases hc
  | equation expression style =>
    rw [bounded] at h ⊢
    split at h
    · next hshort => rw [if_pos hshort]
    · next hlong =>
      have hne : expression.toList ≠ [] := by
        intro hnil
        exact hlong (by rw [hnil]; exact Nat.zero_le _)
      obtain ⟨d, ds, hds⟩ := List.exists_cons_of_ne_nil hne
      obtain ⟨c, hc⟩ := h (.char d { style with code := true } none) (by
        rw [hds]
        exact List.mem_cons_self ..)
      cases style
      cases hc

theorem flatMap_bounded_eq_charItems_iff {items : List Item} :
    items.flatMap Item.bounded = charItems {} none cs ↔ items = charItems {} none cs := by
  constructor
  · intro h
    have hself : ∀ item ∈ items, item.bounded = [item] := by
      intro item hitem
      apply Item.bounded_eq_self
      intro piece hpiece
      apply isPlain_of_mem_charItems
      rw [← h]
      exact List.mem_flatMap.2 ⟨item, hitem, hpiece⟩
    rw [← h, List.flatMap_congr hself, List.flatMap_singleton']
  · rintro rfl
    exact flatMap_bounded_charItems {} none cs

end NoteBridge.Page
