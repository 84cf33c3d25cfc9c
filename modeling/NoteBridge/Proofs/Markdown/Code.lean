import NoteBridge.Markdown.Outline
import NoteBridge.Proofs.Markdown.LinkText
import NoteBridge.Proofs.Text.Search

/-!
Where code ends. Code in a line goes on from a row of backticks to the next row of the same length.
Fenced code goes on from such a row at the start of a line to the first line that is closed by a row
which is not shorter. So content with shorter rows only never ends its code early.
-/

namespace NoteBridge.Markdown

open Text

variable {n : Nat} {cs inner line rest : List Char}

/-! ### Code in a line -/

/-- The code that a text begins with, and the text behind it. -/
def codeAt? (cs : List Char) : Option (List Char × List Char) :=
  let n := rowLength '\x60' cs
  if n = 0 then none
  else (Verbatim.untilRow? '\x60' n (cs.drop n)).map fun (inner, rest) =>
    (Verbatim.codeText inner, rest)

/-- The scanner reads code so, from rows of backticks up to a limit. -/
theorem code?_eq_codeAt? (hrow : rowLength '\x60' cs ≠ 0) :
    Verbatim.code? (rowLength '\x60' cs) (cs.drop (rowLength '\x60' cs)) =
      if Verbatim.rowLimit < rowLength '\x60' cs then none
      else (codeAt? cs).map fun (content, rest) => (.code content, rest) := by
  rw [Verbatim.code?, codeAt?, if_neg hrow, Option.map_map]
  rfl

/-- The row of two in the middle belongs to the code between rows of one. -/
example : codeAt? "\x60a\x60\x60 b\x60 c".toList = some ("a\x60\x60 b".toList, " c".toList) := by
  cbv

/-- Rows of backticks enclose a text that has no row of that length and no backtick at its ends. -/
theorem codeAt?_delimited (hn : 0 < n) (hrow : ¬List.replicate n '\x60' <:+: inner)
    (hhead : inner.head? ≠ some '\x60') (hlast : inner.getLast? ≠ some '\x60') (hne : inner ≠ [])
    (hrest : rest.head? ≠ some '\x60') :
    codeAt? (List.replicate n '\x60' ++ inner ++ List.replicate n '\x60' ++ rest) =
      some (Verbatim.codeText inner, rest) := by
  have hbehind : (inner ++ List.replicate n '\x60' ++ rest).head? ≠ some '\x60' := by
    rwa [List.append_assoc, List.head?_append_of_ne_nil _ hne]
  have hopen : List.replicate n '\x60' ++ inner ++ List.replicate n '\x60' ++ rest =
      List.replicate n '\x60' ++ (inner ++ List.replicate n '\x60' ++ rest) := by
    simp only [List.append_assoc]
  have hdrop : (List.replicate n '\x60' ++ (inner ++ List.replicate n '\x60' ++ rest)).drop n =
      inner ++ List.replicate n '\x60' ++ rest :=
    List.drop_left' List.length_replicate
  rw [codeAt?, hopen, rowLength_replicate_append n hbehind, hdrop,
    untilRow?_append hn hrow hlast hrest]
  exact if_neg (Nat.ne_of_gt hn)

/-- A text on one line without a space at its start is code as it stands. -/
theorem codeText_of_head? (hline : '\n' ∉ cs) (hhead : cs.head? ≠ some ' ') :
    Verbatim.codeText cs = cs := by
  rw [Verbatim.codeText, replaceChar_of_not_mem hline]
  split
  · rfl
  · exact if_neg fun h => hhead h.1

/-- Of the spaces around a text on one line, one is dropped at both ends. -/
theorem codeText_surround {c : Char} (hline : '\n' ∉ cs) (hc : c ∈ cs) (hne : c ≠ ' ') :
    Verbatim.codeText (' ' :: cs ++ [' ']) = cs := by
  have hflat : '\n' ∉ ' ' :: cs ++ [' '] := by simp [hline]
  have hspaces : ¬(' ' :: cs ++ [' ']).all (· == ' ') = true := by
    intro hall
    have hspace := List.all_eq_true.1 hall c (by simp [hc])
    exact hne (beq_iff_eq.1 hspace)
  rw [Verbatim.codeText, replaceChar_of_not_mem hflat, if_neg hspaces,
    if_pos ⟨rfl, by rw [List.getLast?_concat]⟩, List.cons_append, List.tail_cons,
    List.dropLast_concat]

/-! ### Fenced code -/

/-- Whether a line closes code that was opened by a row of `n` backticks. It consists of up to three
spaces, a row of backticks that is not shorter, and spaces. -/
def isClosingLine (n : Nat) (line : List Char) : Bool :=
  let text := line.dropWhile (· == ' ')
  let row := rowLength '\x60' text
  line.length ≤ text.length + 3 && n ≤ row && (text.drop row).all (· == ' ')

/-- Three spaces may stand before the row, four may not. -/
example : isClosingLine 3 "   \x60\x60\x60\x60 ".toList = true ∧
    isClosingLine 3 "    \x60\x60\x60".toList = false ∧
    isClosingLine 3 "\x60\x60\x60 a".toList = false := by decide

@[simp] theorem rowLength_replicate (mark : Char) (n : Nat) :
    rowLength mark (List.replicate n mark) = n := by
  simp [rowLength]

/-- A row that is counted stands in the text. -/
theorem prefix_replicate_rowLength (mark : Char) (cs : List Char) :
    List.replicate (rowLength mark cs) mark <+: cs := by
  have hrow : cs.takeWhile (· == mark) = List.replicate (rowLength mark cs) mark :=
    List.eq_replicate_of_mem fun c hc => by simpa using List.mem_takeWhile_imp hc
  rw [← hrow]
  exact List.takeWhile_prefix _

theorem replicate_infix_of_le_rowLength {mark : Char} (h : n ≤ rowLength mark cs) :
    List.replicate n mark <:+: cs := by
  have hshort : List.replicate n mark <+: List.replicate (rowLength mark cs) mark :=
    List.prefix_replicate_iff.2 ⟨by rwa [List.length_replicate], by rw [List.length_replicate]⟩
  exact (hshort.trans (prefix_replicate_rowLength mark cs)).isInfix

/-- A closing line holds a row of backticks as long as the one it closes. -/
theorem replicate_infix_of_isClosingLine (h : isClosingLine n line = true) :
    List.replicate n '\x60' <:+: line := by
  simp only [isClosingLine, Bool.and_eq_true, decide_eq_true_eq] at h
  exact (replicate_infix_of_le_rowLength h.1.2).trans (List.dropWhile_suffix _).isInfix

/-- Whether lines are fenced code with nothing behind it: the first line opens it with a row of at
least three backticks, the last one is the first behind it that closes it, and the lines in between
are the code. -/
def IsFencedCode (lines : List (List Char)) (info code : List Char) : Prop :=
  ∃ n body closing, lines = (List.replicate n '\x60' ++ info) :: (body ++ [closing]) ∧ 3 ≤ n ∧
    '\x60' ∉ info ∧ isClosingLine n closing = true ∧
    (∀ line ∈ body, isClosingLine n line = false) ∧ join ['\n'] body = code

theorem isClosingLine_replicate (n : Nat) : isClosingLine n (List.replicate n '\x60') = true := by
  have hbare : (List.replicate n '\x60').dropWhile (· == ' ') = List.replicate n '\x60' := by
    cases n <;> rfl
  simp [isClosingLine, hbare]

/-- Text between rows of backticks on lines of their own is fenced code if it holds no such row. -/
theorem isFencedCode_of_not_infix {info : List Char} (hn : 3 ≤ n) (hinfo : '\x60' ∉ info)
    (hline : '\n' ∉ info) (hrow : ¬List.replicate n '\x60' <:+: cs) :
    IsFencedCode
      (splitWhere (· == '\n') (List.replicate n '\x60' ++ info ++ '\n' :: cs ++ '\n' ::
        List.replicate n '\x60')) info cs := by
  have hlines : List.replicate n '\x60' ++ info ++ '\n' :: cs ++ '\n' :: List.replicate n '\x60' =
      join ['\n'] ((List.replicate n '\x60' ++ info) ::
        (splitWhere (· == '\n') cs ++ [List.replicate n '\x60'])) := by
    rw [join_cons _ (by simp), join_append (splitWhere_ne_nil _ _) (by simp), join_splitWhere]
    simp [join]
  have hfence : ∀ c ∈ List.replicate n '\x60', ¬(c == '\n') = true := fun c hc => by
    rw [List.eq_of_mem_replicate hc]
    decide
  have hopen : ∀ c ∈ info, ¬(c == '\n') = true := fun c hc hfeed =>
    hline (beq_iff_eq.1 hfeed ▸ hc)
  refine ⟨n, splitWhere (· == '\n') cs, List.replicate n '\x60', ?_, hn, hinfo,
    isClosingLine_replicate n, fun line hmem => ?_, join_splitWhere '\n' cs⟩
  · rw [hlines, splitWhere_join (by decide) (List.cons_ne_nil _ _)]
    refine List.forall_mem_cons.2 ⟨List.forall_mem_append.2 ⟨hfence, hopen⟩, ?_⟩
    exact List.forall_mem_append.2
      ⟨fun _ hmem => not_of_mem_splitWhere hmem, List.forall_mem_singleton.2 hfence⟩
  · rw [← Bool.not_eq_true]
    exact fun hclosing => hrow <|
      (replicate_infix_of_isClosingLine hclosing).trans (infix_of_mem_splitWhere hmem)

end NoteBridge.Markdown
