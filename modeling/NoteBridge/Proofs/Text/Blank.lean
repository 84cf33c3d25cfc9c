import Mathlib.Data.List.DropRight
import Mathlib.Data.List.TakeWhile
import NoteBridge.Text.Blank

/-!
Laws of trimming. Only characters of the given class are dropped, so a text that begins with any
other character keeps its beginning. A trimmed text has no blank at either end, and a text without
blanks there is trimmed already.
-/

namespace NoteBridge.Text

theorem dropEndWhile_cons_of_neg {p : Char → Bool} {c : Char} (h : ¬p c) (cs : List Char) :
    dropEndWhile p (c :: cs) = c :: dropEndWhile p cs := by
  rw [dropEndWhile, dropEndWhile, List.reverse_cons, List.dropWhile_append]
  split
  · next hall =>
    rw [List.isEmpty_iff.1 hall, List.dropWhile_cons_of_neg h]
    rfl
  · rw [List.reverse_append]
    rfl

theorem dropEndWhile_append_of_pos {p : Char → Bool} {bs : List Char} (h : ∀ c ∈ bs, p c)
    (as : List Char) : dropEndWhile p (as ++ bs) = dropEndWhile p as := by
  rw [dropEndWhile, List.reverse_append,
    List.dropWhile_append_of_pos fun c hc => h c (List.mem_reverse.1 hc)]
  rfl

theorem dropEndWhile_eq_self {p : Char → Bool} {cs : List Char}
    (h : ∀ c ∈ cs.getLast?, ¬p c) : dropEndWhile p cs = cs :=
  List.rdropWhile_eq_self_iff.2 fun hne => h _ (List.getLast?_eq_some_getLast hne)

theorem trim_cons_of_not_blank {c : Char} (h : ¬isBlank c) (cs : List Char) :
    trim (c :: cs) = c :: trimEnd cs := by
  rw [trim, trimStart, List.dropWhile_cons_of_neg h, trimEnd, dropEndWhile_cons_of_neg h]
  rfl

theorem head?_trim_of_not_blank {c : Char} {cs : List Char} (hc : cs.head? = some c)
    (h : ¬isBlank c) : (trim cs).head? = some c := by
  obtain ⟨rest, rfl⟩ := List.head?_eq_some_iff.1 hc
  rw [trim_cons_of_not_blank h]
  rfl

theorem forall_mem_takeEndWhile {p : Char → Bool} {cs : List Char} :
    ∀ c ∈ takeEndWhile p cs, p c := by
  intro c hc
  rw [takeEndWhile, List.mem_reverse] at hc
  exact List.mem_takeWhile_imp hc

theorem trimSpacing_append_space (cs : List Char) : trimSpacing (cs ++ [' ']) = trimSpacing cs := by
  have hspace : isSpacing ' ' = true := by decide
  rw [trimSpacing, trimSpacing, List.dropWhile_append]
  split
  · next hall =>
    rw [List.isEmpty_iff.1 hall]
    rfl
  · rw [dropEndWhile, List.reverse_append]
    exact congrArg List.reverse (List.dropWhile_cons_of_pos hspace)

/-! ### Ends of a trimmed text -/

/-- A text that neither begins nor ends with a blank is left as it is. -/
theorem trim_eq_self {cs : List Char} (hhead : ∀ c ∈ cs.head?, ¬isBlank c)
    (hlast : ∀ c ∈ cs.getLast?, ¬isBlank c) : trim cs = cs := by
  have hstart : trimStart cs = cs := by
    cases cs with
    | nil => rfl
    | cons c cs => exact List.dropWhile_cons_of_neg (hhead c rfl)
  have hend : trimEnd cs = cs := dropEndWhile_eq_self hlast
  rw [trim, hstart, hend]

theorem head?_trim {cs : List Char} {c : Char} (h : c ∈ (trim cs).head?) : ¬isBlank c := by
  -- what is dropped at the end leaves the start of the text as it was
  obtain ⟨rest, hrest⟩ : trim cs <+: trimStart cs := List.rdropWhile_prefix isBlank (trimStart cs)
  have hstart : c ∈ (trimStart cs).head? := by
    rw [← hrest]
    exact List.mem_head?_append_of_mem_head? h
  have hnot := List.head?_dropWhile_not isBlank cs
  rw [← trimStart, Option.mem_def.1 hstart] at hnot
  simpa using hnot

theorem getLast?_trim {cs : List Char} {c : Char} (h : c ∈ (trim cs).getLast?) : ¬isBlank c := by
  have hne : trim cs ≠ [] := by
    intro hnil
    rw [hnil] at h
    cases h
  have hlast := List.rdropWhile_last_not isBlank (trimStart cs) hne
  rw [List.getLast?_eq_some_getLast hne] at h
  cases h
  exact hlast

@[simp] theorem trim_trim (cs : List Char) : trim (trim cs) = trim cs :=
  trim_eq_self (fun _ => head?_trim) (fun _ => getLast?_trim)

theorem trim_eq_nil_iff {cs : List Char} : trim cs = [] ↔ allBlank cs = true := by
  have hnil : trim cs = [] ↔ ∀ c ∈ trimStart cs, isBlank c :=
    List.rdropWhile_eq_nil_iff
  rw [hnil, allBlank, List.all_eq_true]
  constructor
  · intro h
    have hstart : trimStart cs = [] := by
      apply List.head?_eq_none_iff.1
      rw [Option.eq_none_iff_forall_ne_some]
      intro c hc
      have hnot := List.head?_dropWhile_not isBlank cs
      rw [← trimStart, hc] at hnot
      simp [h c (List.mem_of_mem_head? hc)] at hnot
    exact List.dropWhile_eq_nil_iff.1 hstart
  · intro h c hc
    exact h c ((List.dropWhile_sublist isBlank).subset hc)

theorem forall_isBlank_of_trim {cs : List Char} (h : trim cs = []) : ∀ c ∈ cs, isBlank c :=
  List.all_eq_true.1 (trim_eq_nil_iff.1 h)

theorem length_trim_le (cs : List Char) : (trim cs).length ≤ cs.length := by
  have hend : (trim cs).length ≤ (trimStart cs).length :=
    (List.rdropWhile_prefix isBlank (trimStart cs)).length_le
  have hstart : (trimStart cs).length ≤ cs.length := (List.dropWhile_suffix isBlank).length_le
  omega

theorem mem_of_mem_trim {cs : List Char} {c : Char} (h : c ∈ trim cs) : c ∈ cs :=
  (List.dropWhile_sublist isBlank).subset ((List.rdropWhile_prefix isBlank (trimStart cs)).subset h)

/-- What is cut off at the end of a text does not reach beyond what is cut off at its start. -/
theorem takeEndWhile_trimStart {cs : List Char} (h : trim cs ≠ []) :
    takeEndWhile isBlank (trimStart cs) = takeEndWhile isBlank cs := by
  have hstop : ¬((trimStart cs).reverse.takeWhile isBlank).length =
      (trimStart cs).reverse.length := by
    intro hlength
    have hall : (trimStart cs).reverse.takeWhile isBlank = (trimStart cs).reverse :=
      (List.takeWhile_prefix isBlank).eq_of_length hlength
    refine h (List.rdropWhile_eq_nil_iff.2 fun c hc => ?_)
    exact List.takeWhile_eq_self_iff.1 hall c (List.mem_reverse.2 hc)
  conv_rhs => rw [← List.takeWhile_append_dropWhile (p := isBlank) (l := cs)]
  rw [takeEndWhile, takeEndWhile, List.reverse_append, List.takeWhile_append, ← trimStart,
    if_neg hstop]

/-- A text is what is cut off at both ends and what is left in between. -/
theorem takeWhile_trim_takeEndWhile {cs : List Char} (h : trim cs ≠ []) :
    cs.takeWhile isBlank ++ trim cs ++ takeEndWhile isBlank cs = cs := by
  have hend : trim cs ++ takeEndWhile isBlank (trimStart cs) = trimStart cs :=
    List.rdropWhile_append_rtakeWhile
  rw [List.append_assoc, ← takeEndWhile_trimStart h, hend]
  exact List.takeWhile_append_dropWhile

/-- A text that is not empty and has no blank at either end. -/
def Tight (cs : List Char) : Prop := cs ≠ [] ∧ trim cs = cs

instance : DecidablePred Tight := fun _ => instDecidableAnd

theorem tight_trim {cs : List Char} (h : trim cs ≠ []) : Tight (trim cs) := ⟨h, trim_trim cs⟩

theorem takeWhile_eq_nil {p : Char → Bool} {cs : List Char} (h : ∀ c ∈ cs.head?, ¬p c) :
    cs.takeWhile p = [] := by
  cases cs with
  | nil => rfl
  | cons c cs => exact List.takeWhile_cons_of_neg (h c rfl)

theorem Tight.head? {cs : List Char} (h : Tight cs) : ∀ c ∈ cs.head?, ¬isBlank c := by
  rw [← h.2]
  exact fun _ => head?_trim

theorem Tight.getLast? {cs : List Char} (h : Tight cs) : ∀ c ∈ cs.getLast?, ¬isBlank c := by
  rw [← h.2]
  exact fun _ => getLast?_trim

theorem Tight.takeWhile_isBlank {cs : List Char} (h : Tight cs) : cs.takeWhile isBlank = [] :=
  takeWhile_eq_nil h.head?

theorem Tight.takeEndWhile_isBlank {cs : List Char} (h : Tight cs) :
    takeEndWhile isBlank cs = [] := by
  have hnil : cs.reverse.takeWhile isBlank = [] :=
    takeWhile_eq_nil (List.head?_reverse ▸ h.getLast?)
  rw [takeEndWhile, hnil, List.reverse_nil]

/-- Blanks around a text are what trimming takes away. -/
theorem Tight.trim_surround {before cs after : List Char} (h : Tight cs)
    (hbefore : ∀ c ∈ before, isBlank c) (hafter : ∀ c ∈ after, isBlank c) :
    trim (before ++ cs ++ after) = cs := by
  obtain ⟨c, rest, rfl⟩ := List.exists_cons_of_ne_nil h.1
  have hstart : trimStart (before ++ c :: rest ++ after) = c :: rest ++ after := by
    rw [trimStart, List.append_assoc, List.dropWhile_append_of_pos hbefore]
    exact List.dropWhile_cons_of_neg (h.head? c rfl)
  have hend : trimEnd (c :: rest ++ after) = trimEnd (c :: rest) :=
    dropEndWhile_append_of_pos hafter _
  have hself : trimEnd (c :: rest) = c :: rest := dropEndWhile_eq_self h.getLast?
  rw [trim, hstart, hend, hself]

/-! ### Texts without blanks -/

def Unbroken (cs : List Char) : Prop := ∀ c ∈ cs, ¬isBlank c

instance : DecidablePred Unbroken := fun cs => cs.decidableBAll _

@[simp] theorem unbroken_nil : Unbroken [] := List.forall_mem_nil _

@[simp] theorem unbroken_cons {c : Char} {cs : List Char} :
    Unbroken (c :: cs) ↔ ¬isBlank c ∧ Unbroken cs :=
  List.forall_mem_cons

@[simp] theorem unbroken_append {as bs : List Char} :
    Unbroken (as ++ bs) ↔ Unbroken as ∧ Unbroken bs :=
  List.forall_mem_append

theorem Unbroken.of_subset {as bs : List Char} (h : Unbroken bs) (hsub : as ⊆ bs) : Unbroken as :=
  fun c hc => h c (hsub hc)

theorem unbroken_replicate {c : Char} (h : ¬isBlank c) (count : Nat) :
    Unbroken (List.replicate count c) := by
  intro d hd
  rwa [List.eq_of_mem_replicate hd]

theorem Unbroken.tight {cs : List Char} (h : Unbroken cs) (hne : cs ≠ []) : Tight cs :=
  ⟨hne, trim_eq_self (fun c hc => h c (List.mem_of_mem_head? hc))
    (fun c hc => h c (List.mem_of_mem_getLast? hc))⟩

end NoteBridge.Text
