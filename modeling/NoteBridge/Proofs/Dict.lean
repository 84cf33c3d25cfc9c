import Mathlib.Data.List.Induction
import NoteBridge.Dict

/-!
Dictionaries by their entries and by what they give. A list that is sorted already is the list of
entries of the dictionary that it gives, and a dictionary gives for a key what its entry holds.
Insertions keep the last value of each key, and those that fill in only what is missing the first.
-/

namespace NoteBridge

variable {α β : Type}

namespace Entries

/-- An entry whose key comes after all others is put at the end. -/
theorem insert_of_forall_lt {key : String} {entries : List (String × α)}
    (h : ∀ e ∈ entries, e.1 < key) (value : α) :
    insert key value entries = entries ++ [(key, value)] := by
  induction entries with
  | nil => rfl
  | cons entry rest ih =>
    obtain ⟨k, v⟩ := entry
    have hk : k < key := h (k, v) (List.mem_cons_self ..)
    have hne : k ≠ key := by
      rintro rfl
      exact String.lt_irrefl k hk
    have hrest := ih fun e he => h e (List.mem_cons_of_mem _ he)
    rw [insert, if_neg hne, if_neg (String.lt_asymm hk), hrest, List.cons_append]

theorem ofList_of_sorted {entries : List (String × α)} (h : Sorted entries) :
    ofList entries = entries := by
  have insertion : ∀ done : List (String × α), Sorted (done ++ entries) →
      entries.foldl (fun done entry => insert entry.1 entry.2 done) done = done ++ entries := by
    clear h
    induction entries with
    | nil =>
      intro done _
      rw [List.foldl_nil, List.append_nil]
    | cons entry rest ih =>
      intro done hsorted
      obtain ⟨k, v⟩ := entry
      have hlast : ∀ e ∈ done, e.1 < k := fun e he =>
        (List.pairwise_append.1 hsorted).2.2 e he (k, v) (List.mem_cons_self ..)
      have hsplit : done ++ (k, v) :: rest = (done ++ [(k, v)]) ++ rest := by
        rw [List.append_assoc, List.singleton_append]
      rw [hsplit] at hsorted ⊢
      change rest.foldl _ (insert k v done) = _
      rw [insert_of_forall_lt hlast]
      exact ih _ hsorted
  exact insertion [] h

theorem find?_eq_some_iff {key : String} {value : α} {entries : List (String × α)}
    (h : Sorted entries) : find? key entries = some value ↔ (key, value) ∈ entries := by
  induction entries with
  | nil => simp [find?]
  | cons entry rest ih =>
    obtain ⟨k, v⟩ := entry
    obtain ⟨hhead, hrest⟩ := List.pairwise_cons.1 h
    rw [find?, List.mem_cons, Prod.mk.injEq]
    split
    · next hk =>
      subst hk
      have hlater : (k, value) ∉ rest := fun hmem => String.lt_irrefl k (hhead _ hmem)
      simp [hlater, eq_comm]
    · next hk => simp [ih hrest, Ne.symm hk]

end Entries

namespace Dict

theorem entries_ofList (pairs : List (String × α)) :
    (ofList pairs).entries = Entries.ofList pairs := by
  have insertion : ∀ d : Dict α, (pairs.foldl (fun d pair => d.insert pair.1 pair.2) d).entries =
      pairs.foldl (fun entries pair => Entries.insert pair.1 pair.2 entries) d.entries := by
    induction pairs with
    | nil => exact fun _ => rfl
    | cons pair rest ih => exact fun d => ih (d.insert pair.1 pair.2)
  exact insertion empty

theorem ofList_eq_iff {pairs : List (String × α)} (h : Entries.Sorted pairs) {d : Dict α} :
    ofList pairs = d ↔ pairs = d.entries := by
  have hentries : (ofList pairs).entries = pairs := by
    rw [entries_ofList, Entries.ofList_of_sorted h]
  constructor
  · rintro rfl
    exact hentries.symm
  · intro hd
    exact ext (hentries.trans hd)

/-! ### Looking up -/

variable {d : Dict α} {key : String} {value : α}

theorem find?_eq_some_iff : d.find? key = some value ↔ (key, value) ∈ d.entries :=
  Entries.find?_eq_some_iff d.sorted

@[simp] theorem find?_empty (key : String) : (∅ : Dict α).find? key = none := rfl

theorem ofList_concat (pairs : List (String × α)) (pair : String × α) :
    ofList (pairs ++ [pair]) = (ofList pairs).insert pair.1 pair.2 := by
  rw [ofList, List.foldl_append]
  rfl

/-- Of the elements that make an entry for the key, the last one counts. -/
theorem find?_ofList_map_eq_some_iff {bs : List β} {f : β → String} {g : β → α} :
    (ofList (bs.map fun b => (f b, g b))).find? key = some value ↔
      ∃ before b after, bs = before ++ b :: after ∧ f b = key ∧ g b = value ∧
        ∀ c ∈ after, f c ≠ key := by
  induction bs using List.reverseRecOn with
  | nil => simp [ofList, find?, empty, Entries.find?]
  | append_singleton bs b ih =>
    rw [List.map_append, List.map_singleton, ofList_concat, find?_insert]
    constructor
    · intro h
      split at h
      · next hkey => exact ⟨bs, b, [], rfl, hkey, Option.some.inj h, List.forall_mem_nil _⟩
      · next hkey =>
        obtain ⟨before, c, after, rfl, hc, hvalue, hafter⟩ := ih.1 h
        refine ⟨before, c, after ++ [b], List.append_assoc .., hc, hvalue, fun d hd => ?_⟩
        rcases List.mem_append.1 hd with hd | hd
        · exact hafter d hd
        · rwa [List.mem_singleton.1 hd]
    · rintro ⟨before, c, after, heq, hc, hvalue, hafter⟩
      rcases List.eq_nil_or_concat after with rfl | ⟨after, last, rfl⟩
      · obtain ⟨-, hb⟩ := List.append_inj' heq rfl
        cases hb
        rw [if_pos hc, hvalue]
      · rw [List.concat_eq_append] at heq hafter
        rw [← List.cons_append, ← List.append_assoc] at heq
        obtain ⟨rfl, hb⟩ := List.append_inj' heq rfl
        cases hb
        obtain ⟨hafter, hlast⟩ := List.forall_mem_append.1 hafter
        rw [if_neg (hlast b (List.mem_singleton_self _)), ih]
        exact ⟨before, c, after, rfl, hc, hvalue, hafter⟩

theorem find?_ofList_map_eq_none_iff {bs : List β} {f : β → String} {g : β → α} :
    (ofList (bs.map fun b => (f b, g b))).find? key = none ↔ ∀ b ∈ bs, f b ≠ key := by
  induction bs using List.reverseRecOn with
  | nil => simp [ofList, find?, empty, Entries.find?]
  | append_singleton bs b ih =>
    rw [List.map_append, List.map_singleton, ofList_concat, find?_insert, List.forall_mem_append,
      List.forall_mem_singleton, ← ih]
    by_cases hkey : f b = key <;> simp [hkey]

/-- What an insertion that is made only where nothing is yet, and only with a value, does. -/
theorem find?_fillIn (d : Dict α) (key : String) (filled : Option α) (other : String) :
    (if d.contains key then d else filled.elim d (d.insert key)).find? other =
      (d.find? other).or (if key = other then filled else none) := by
  rw [contains]
  split
  · next hthere =>
    by_cases hother : key = other
    · obtain ⟨value, hvalue⟩ := Option.isSome_iff_exists.1 hthere
      rw [← hother, hvalue, Option.some_or]
    · rw [if_neg hother, Option.or_none]
  · next hthere =>
    have hmissing : d.find? key = none := by simpa using hthere
    cases filled with
    | none => simp
    | some value =>
      rw [Option.elim_some, find?_insert]
      by_cases hother : key = other
      · rw [if_pos hother, if_pos hother, ← hother, hmissing, Option.none_or]
      · rw [if_neg hother, if_neg hother, Option.or_none]

/-- Steps that only fill in what is missing: under each key stays what was there, or else what the
first step has for it. -/
theorem find?_foldl {step : Dict α → β → Dict α} {fill : β → String → Option α}
    (hstep : ∀ d b key, (step d b).find? key = (d.find? key).or (fill b key)) (d : Dict α)
    (bs : List β) (key : String) :
    (bs.foldl step d).find? key = (d.find? key).or (bs.findSome? (fill · key)) := by
  induction bs generalizing d with
  | nil => simp
  | cons b bs ih =>
    rw [List.foldl_cons, ih, hstep, Option.or_assoc, List.findSome?_cons]
    cases fill b key <;> simp

/-! ### Keeping -/

/-- Whether every entry is in the other dictionary as well, with the same value. -/
def KeptIn (d d' : Dict α) : Prop := ∀ key value, d.find? key = some value → d'.find? key = some value

theorem KeptIn.refl (d : Dict α) : d.KeptIn d := fun _ _ h => h

/-- An insertion keeps what is not under its key, and under its key only the same value. -/
theorem KeptIn.insert_iff {d' : Dict α} (h : d.KeptIn d') :
    d.KeptIn (d'.insert key value) ↔ ∀ old, d.find? key = some old → old = value := by
  constructor
  · intro hinsert old hold
    have hnew := hinsert key old hold
    rw [find?_insert, if_pos rfl] at hnew
    exact (Option.some.inj hnew).symm
  · intro hsame other old hold
    rw [find?_insert]
    split
    · next heq =>
      subst heq
      rw [hsame old hold]
    · exact h other old hold

end Dict
end NoteBridge
