import Mathlib.Data.List.Basic
import Mathlib.Data.List.Nodup
import Mathlib.Data.List.Infix

/-!
What a list adds to what was seen before: its elements that are new, each at its first place. Two
lists may stand in either order when what they add begins alike, as far as both go, and in no other
case.
-/

namespace NoteBridge

variable {α : Type*} [DecidableEq α] {seen xs xs' ys ys' zs rest : List α} {x : α}

/-- The elements of a list that are not seen yet, each at its first place. -/
def unseen (seen xs : List α) : List α := (xs.filter (· ∉ seen)).eraseDups

@[simp] theorem unseen_nil (seen : List α) : unseen seen [] = [] := List.eraseDups_nil

theorem unseen_congr {seen' : List α} (h : ∀ x, x ∈ seen ↔ x ∈ seen') (xs : List α) :
    unseen seen xs = unseen seen' xs := by
  simp only [unseen, h]

@[simp] theorem mem_unseen : x ∈ unseen seen xs ↔ x ∈ xs ∧ x ∉ seen := by
  simp [unseen]

theorem unseen_cons_of_mem (h : x ∈ seen) (xs : List α) :
    unseen seen (x :: xs) = unseen seen xs := by
  rw [unseen, List.filter_cons_of_neg (by simpa using h), unseen]

theorem unseen_cons_of_not_mem (h : x ∉ seen) (xs : List α) :
    unseen seen (x :: xs) = x :: unseen (x :: seen) xs := by
  have hlater : ∀ y, decide (y ∉ x :: seen) = (!y == x && decide (y ∉ seen)) := by
    intro y
    rw [Bool.eq_iff_iff]
    simp
  simp only [unseen, hlater, ← List.filter_filter]
  rw [List.filter_cons_of_pos (by simpa using h), List.eraseDups_cons]

theorem nodup_unseen (seen xs : List α) : (unseen seen xs).Nodup := by
  induction xs generalizing seen with
  | nil => simp
  | cons x xs ih =>
    by_cases h : x ∈ seen
    · rw [unseen_cons_of_mem h]
      exact ih seen
    · rw [unseen_cons_of_not_mem h, List.nodup_cons]
      exact ⟨fun hmem => (mem_unseen.1 hmem).2 (List.mem_cons_self ..), ih _⟩

/-- What is seen later on counts as well. -/
theorem unseen_append_left (seen more xs : List α) :
    unseen (seen ++ more) xs = (unseen seen xs).filter (· ∉ more) := by
  induction xs generalizing seen with
  | nil => simp
  | cons x xs ih =>
    by_cases h : x ∈ seen
    · rw [unseen_cons_of_mem h, unseen_cons_of_mem (List.mem_append_left more h), ih]
    · rw [unseen_cons_of_not_mem h]
      by_cases hmore : x ∈ more
      · rw [unseen_cons_of_mem (List.mem_append_right seen hmore),
          List.filter_cons_of_neg (by simpa using hmore), ← ih]
        refine unseen_congr (fun y => ?_) xs
        simp only [List.cons_append, List.mem_cons, List.mem_append]
        refine (or_iff_right_of_imp ?_).symm
        rintro rfl
        exact .inr hmore
      · rw [unseen_cons_of_not_mem (by simp [h, hmore]),
          List.filter_cons_of_pos (by simpa using hmore), ← ih]
        rfl

theorem eraseDups_eq_unseen (xs : List α) : xs.eraseDups = unseen [] xs := by
  simp [unseen]

theorem unseen_eq_self (hnodup : xs.Nodup) (h : ∀ x ∈ xs, x ∉ seen) : unseen seen xs = xs := by
  induction xs generalizing seen with
  | nil => simp
  | cons x xs ih =>
    obtain ⟨hx, hxs⟩ := List.forall_mem_cons.1 h
    obtain ⟨hfirst, hnodup⟩ := List.nodup_cons.1 hnodup
    rw [unseen_cons_of_not_mem hx, ih hnodup]
    intro y hy hmem
    rcases List.mem_cons.1 hmem with rfl | hseen
    · exact hfirst hy
    · exact hxs y hy hseen

theorem unseen_eraseDups (seen xs : List α) : unseen seen xs.eraseDups = unseen seen xs := by
  have hfirst : ∀ ys, unseen seen ys = (unseen [] ys).filter (· ∉ seen) :=
    fun ys => unseen_append_left [] seen ys
  rw [eraseDups_eq_unseen, hfirst, hfirst xs, unseen_eq_self (nodup_unseen [] xs) (by simp)]

theorem eraseDups_append_eq (xs ys : List α) :
    (xs ++ ys).eraseDups = xs.eraseDups ++ unseen xs ys := by
  have hfilter : ys.removeAll xs = ys.filter (· ∉ xs) :=
    List.filter_congr fun y _ => by rw [Bool.eq_iff_iff]; simp
  rw [List.eraseDups_append, hfilter, unseen]

theorem unseen_append (seen xs ys : List α) :
    unseen seen (xs ++ ys) = unseen seen xs ++ unseen (seen ++ xs) ys := by
  have hboth : ∀ y, (decide (y ∉ xs.filter (· ∉ seen)) && decide (y ∉ seen)) =
      decide (y ∉ seen ++ xs) := by
    intro y
    rw [Bool.eq_iff_iff]
    simp only [List.mem_filter, List.mem_append, Bool.and_eq_true, decide_eq_true_eq]
    tauto
  rw [unseen, List.filter_append, eraseDups_append_eq, unseen, List.filter_filter]
  simp only [hboth, unseen]

theorem unseen_eq_nil_iff : unseen seen xs = [] ↔ ∀ x ∈ xs, x ∈ seen := by
  simp [List.eq_nil_iff_forall_not_mem]

theorem length_unseen_of_perm (h : xs.Perm ys) (seen : List α) :
    (unseen seen xs).length = (unseen seen ys).length := by
  apply List.Perm.length_eq
  rw [List.perm_ext_iff_of_nodup (nodup_unseen seen xs) (nodup_unseen seen ys)]
  simp [h.mem_iff]

/-- Lists whose parts in front hold the same add the same exactly when each part does. -/
theorem unseen_append_eq_iff_of_perm (h : xs'.Perm xs) :
    unseen seen (xs ++ ys) = unseen seen (xs' ++ ys') ↔
      unseen seen xs = unseen seen xs' ∧ unseen (seen ++ xs) ys = unseen (seen ++ xs) ys' := by
  have hseen : unseen (seen ++ xs') ys' = unseen (seen ++ xs) ys' :=
    unseen_congr (fun x => by simp only [List.mem_append, h.mem_iff]) ys'
  rw [unseen_append, unseen_append, hseen]
  constructor
  · exact fun heq => List.append_inj heq (length_unseen_of_perm h.symm seen)
  · rintro ⟨hxs, hys⟩
    rw [hxs, hys]

/-! ### Order -/

/-- Whether what two lists add to the seen begins alike, as far as both go. -/
def BeginAlike (seen xs ys : List α) : Prop :=
  unseen seen xs <+: unseen seen ys ∨ unseen seen ys <+: unseen seen xs

theorem unseen_append_comm_of_begins (h : unseen seen xs <+: unseen seen ys) :
    unseen seen (xs ++ ys) = unseen seen (ys ++ xs) := by
  obtain ⟨more, hmore⟩ := h
  have hxs : unseen (seen ++ ys) xs = [] := by
    rw [unseen_eq_nil_iff]
    intro x hx
    by_cases hseen : x ∈ seen
    · exact List.mem_append_left ys hseen
    · have hmem : x ∈ unseen seen ys := by
        rw [← hmore]
        exact List.mem_append_left more (mem_unseen.2 ⟨hx, hseen⟩)
      exact List.mem_append_right seen (mem_unseen.1 hmem).1
  have hys : unseen (seen ++ xs) ys = more := by
    have hapart := (List.nodup_append.1 (hmore ▸ nodup_unseen seen ys)).2.2
    have hall : ∀ x ∈ unseen seen xs, ¬decide (x ∉ xs) = true := by
      intro x hx
      simpa using (mem_unseen.1 hx).1
    have hnone : ∀ x ∈ more, decide (x ∉ xs) = true := by
      intro x hx
      have hseen : x ∈ unseen seen ys := hmore ▸ List.mem_append_right _ hx
      refine decide_eq_true fun hmem => ?_
      exact hapart x (mem_unseen.2 ⟨hmem, (mem_unseen.1 hseen).2⟩) x hx rfl
    rw [unseen_append_left, ← hmore, List.filter_append, List.filter_eq_nil_iff.2 hall,
      List.filter_eq_self.2 hnone, List.nil_append]
  rw [unseen_append, unseen_append, hxs, hys, hmore, List.append_nil]

theorem unseen_append_comm (h : BeginAlike seen xs ys) :
    unseen seen (xs ++ ys) = unseen seen (ys ++ xs) :=
  h.elim unseen_append_comm_of_begins fun h => (unseen_append_comm_of_begins h).symm

/-- A list may stand in front of another or behind it exactly when what both add begins alike. -/
theorem unseen_append_eq_iff :
    unseen seen (xs ++ rest) = unseen seen (ys ++ (xs ++ zs)) ↔
      BeginAlike seen xs ys ∧ unseen (seen ++ xs) rest = unseen (seen ++ xs) (ys ++ zs) := by
  have hfirst : BeginAlike seen xs ys → unseen seen (ys ++ (xs ++ zs)) =
      unseen seen xs ++ unseen (seen ++ xs) (ys ++ zs) := by
    intro h
    have hseen : unseen (seen ++ (ys ++ xs)) zs = unseen (seen ++ (xs ++ ys)) zs :=
      unseen_congr (fun y => by simp only [List.mem_append, or_comm]) zs
    rw [← List.append_assoc, unseen_append, ← unseen_append_comm h, hseen, ← unseen_append,
      List.append_assoc, unseen_append]
  constructor
  · intro h
    have halike : BeginAlike seen xs ys := by
      have hxs : unseen seen xs <+: unseen seen (xs ++ rest) := by
        rw [unseen_append]
        exact List.prefix_append _ _
      have hys : unseen seen ys <+: unseen seen (xs ++ rest) := by
        rw [h, unseen_append]
        exact List.prefix_append _ _
      exact List.prefix_or_prefix_of_prefix hxs hys
    refine ⟨halike, ?_⟩
    rw [hfirst halike, unseen_append] at h
    exact List.append_cancel_left h
  · rintro ⟨halike, hrest⟩
    rw [hfirst halike, unseen_append, hrest]

end NoteBridge
