import NoteBridge.Page.Fault

/-!
Results that may be faults, taken apart: a step and what follows it succeed together, and results
that depend on nothing but whether levels fit a limit do so one after the other.
-/

namespace NoteBridge

theorem bind_eq_ok_iff {ε α β : Type} {x : Except ε α} {f : α → Except ε β} {b : β} :
    x >>= f = .ok b ↔ ∃ a, x = .ok a ∧ f a = .ok b := by
  cases x with
  | ok a =>
    constructor
    · intro h
      exact ⟨a, rfl, h⟩
    · rintro ⟨_, ha, h⟩
      cases ha
      exact h
  | error fault =>
    constructor
    · intro h
      cases h
    · rintro ⟨_, ha, _⟩
      cases ha

namespace Page

variable {limit levels levels' total : Nat} {α β γ : Type}

/-- A result if its levels fit the limit, and the fault that they do not otherwise. -/
def within (limit levels : Nat) (a : α) : Except Fault α :=
  if levels ≤ limit + 1 then .ok a else .error (.depthExceeded limit)

theorem within_ok (h : levels ≤ limit + 1) (a : α) :
    within limit levels a = .ok a :=
  if_pos h

theorem within_eq_ok_iff {a b : α} :
    within limit levels a = .ok b ↔ levels ≤ limit + 1 ∧ a = b := by
  unfold within
  split
  · next hfits => rw [Except.ok.injEq, and_iff_right hfits]
  · next hnot => exact ⟨nofun, fun h => absurd h.1 hnot⟩

theorem within_eq_error_iff {a : α} {fault : Fault} :
    within limit levels a = .error fault ↔ fault = .depthExceeded limit ∧ limit + 1 < levels := by
  unfold within
  split
  · next hfits => exact ⟨nofun, fun h => absurd h.2 (Nat.not_lt_of_le hfits)⟩
  · next hnot =>
    rw [Except.error.injEq, eq_comm]
    exact (and_iff_left (Nat.lt_of_not_le hnot)).symm

theorem within_map {a : α} (f : α → β) :
    (within limit levels a >>= fun a => pure (f a)) = within limit levels (f a) := by
  unfold within
  split <;> rfl

/-- Two results, the second one by means of the first, are one that needs the levels of both. -/
theorem within_bind_map {a : α} {b : β} (next : α → Except Fault β) (f : α → β → γ)
    (hnext : next a = within limit levels' b)
    (htotal : max levels levels' ≤ limit + 1 ↔ total ≤ limit + 1) :
    (do
      let a ← within limit levels a
      let b ← next a
      pure (f a b)) = within limit total (f a b) := by
  by_cases hfits : levels ≤ limit + 1
  · rw [within_ok hfits]
    change (next a >>= fun b => pure (f a b)) = _
    rw [hnext, within_map, within, within]
    congr 1
    rw [← htotal, eq_iff_iff]
    omega
  · have hnot : ¬total ≤ limit + 1 := by omega
    rw [within, within, if_neg hfits, if_neg hnot]
    rfl

end Page
end NoteBridge
