import NoteBridge.Markdown.Scan
import NoteBridge.Proofs.Markdown.Destination
import NoteBridge.Proofs.Text.Blank

/-!
The text of a link. The bracket that closes it is the first one that nothing before it takes for
its own: no backslash, no code, no hypertext and no bracket inside the text. A blank line ends the
paragraph, and with it any text of a link. Links by a label and links between notes are left out.
-/

namespace NoteBridge.Markdown

open Text

/-! ### The closing bracket -/

/-- A bracket that was opened inside the text of a link: that of an image, one that may be that of a
link, or one that a link behind it keeps from being so, since no link holds another. -/
inductive Opener
  | image
  | link
  | text

/-- An opener after a link was closed behind it. -/
def Opener.pastLink : Opener → Opener
  | image => image
  | link | text => text

/-- What stands at a place in the text of a link or, if `image`, of an image: something inside,
behind which other brackets may be open; the bracket that closes it; or a link in a link. -/
inductive Construct
  | inside (openers : List Opener) (rest : List Char)
  | closing (rest : List Char)
  | nestedLink

/-- Behind an address or hypertext between angle brackets, from behind the first of them. -/
def behindAngle? (cs : List Char) : Option (List Char) :=
  (Verbatim.address? cs).map Prod.snd <|> (Verbatim.html true cs).1

/-- A bracket that closes the last opener makes a link of it if a target follows. -/
def closeOpener (image : Bool) (openers : List Opener) (cs : List Char) : Construct :=
  match openers with
  | [] => .closing cs
  | opener :: outer =>
    match opener, Link.inline? cs with
    | .image, some (_, rest) => .inside outer rest
    | .link, some (_, rest) => if image then .inside (outer.map .pastLink) rest else .nestedLink
    | _, _ => .inside outer cs

/-- The construct that begins with a character. -/
def construct (image : Bool) (openers : List Opener) (c : Char) (cs : List Char) : Construct :=
  match c with
  | '\\' => .inside openers (if cs.head?.any isAsciiPunctuation then cs.tail else cs)
  | '\x60' =>
    let row := rowLength '\x60' cs
    let behind := cs.drop row
    .inside openers (((Verbatim.untilRow? '\x60' (row + 1) behind).map Prod.snd).getD behind)
  | '<' => .inside openers ((behindAngle? cs).getD cs)
  | '!' => if cs.head? = some '[' then .inside (.image :: openers) cs.tail else .inside openers cs
  | '[' => .inside (.link :: openers) cs
  | ']' => closeOpener image openers cs
  | _ => .inside openers cs

/-- What stands behind the bracket that closes the text of a link, `openers` being open in it. -/
def closing? (image : Bool) (openers : List Opener) : List Char → Option (List Char)
  | [] => none
  | c :: cs =>
    match construct image openers c cs with
    | .inside openers rest =>
      if _shorter : rest.length < (c :: cs).length then closing? image openers rest else none
    | .closing rest => some rest
    | .nestedLink => none
termination_by cs => cs.length
decreasing_by exact _shorter

section Passing

variable {image : Bool} {openers : List Opener} {c : Char} {cs rest : List Char}

theorem closing?_of_inside {openers' : List Opener}
    (h : construct image openers c cs = .inside openers' rest) (hrest : rest.length ≤ cs.length) :
    closing? image openers (c :: cs) = closing? image openers' rest := by
  rw [closing?, h]
  exact dif_pos (Nat.lt_succ_of_le hrest)

/-- Whether a character has no meaning of its own inside the text of a link. -/
def IsInert (c : Char) : Prop := c ∉ ['\\', '\x60', '<', '!', '[', ']']

instance : DecidablePred IsInert := fun _ => inferInstanceAs (Decidable (¬_))

theorem closing?_inert (h : IsInert c) :
    closing? image openers (c :: cs) = closing? image openers cs := by
  simp only [IsInert, List.mem_cons, List.not_mem_nil, or_false, not_or] at h
  obtain ⟨h₁, h₂, h₃, h₄, h₅, h₆⟩ := h
  refine closing?_of_inside ?_ (Nat.le_refl _)
  unfold construct
  split <;> first | contradiction | rfl

theorem closing?_exclamation (h : cs.head? ≠ some '[') :
    closing? image openers ('!' :: cs) = closing? image openers cs :=
  closing?_of_inside (if_neg h) (Nat.le_refl _)

theorem closing?_escaped (h : isAsciiPunctuation c = true) :
    closing? image openers ('\\' :: c :: cs) = closing? image openers cs := by
  refine closing?_of_inside ?_ (Nat.le_succ _)
  simp [construct, h]

theorem closing?_bracket : closing? image [] (']' :: cs) = some cs := by
  rw [closing?]
  rfl

/-- A link holds no other link, an image may. -/
example : closing? false [] "a [b](c)](d)".toList = none ∧
    closing? true [] "a [b](c)](d)".toList = some "(d)".toList := by
  constructor <;> cbv

theorem closing?_inerts (h : ∀ c ∈ cs, IsInert c) :
    closing? image openers (cs ++ rest) = closing? image openers rest := by
  induction cs with
  | nil => rfl
  | cons c cs ih =>
    rw [List.forall_mem_cons] at h
    rw [List.cons_append, closing?_inert h.1, ih h.2]

/-! ### Hypertext in the text of a link -/

theorem closing?_tag {tag : List Char} (h : behindAngle? (tag ++ rest) = some rest) :
    closing? image openers ('<' :: tag ++ rest) = closing? image openers rest := by
  refine closing?_of_inside ?_ (by simp)
  simp [construct, h]

theorem closing?_underlined :
    closing? image openers ("<u>".toList ++ rest) = closing? image openers rest := by
  have hscheme : Verbatim.inScheme 'u' = true ∧ Verbatim.inScheme '>' = false := by decide
  have hmailbox : Verbatim.inMailbox 'u' = true ∧ Verbatim.inMailbox '>' = false := by decide
  have haddress : Verbatim.address? ('u' :: '>' :: rest) = none := by
    simp [Verbatim.address?, Verbatim.uri?, Verbatim.mail?, hscheme, hmailbox]
  have hattributes : Html.attributes ('>' :: rest) = '>' :: rest := by
    rw [Html.attributes]
    simp [Html.attribute?, isSpace]
  have htag : Html.tag? ('u' :: '>' :: rest) = some rest := by
    simp [Html.tag?, Html.openingTag?, Html.tagName?, hattributes, isSpace]
  have hbehind : behindAngle? (['u', '>'] ++ rest) = some rest := by
    simp [behindAngle?, haddress, Verbatim.html, htag]
  exact closing?_tag hbehind

theorem closing?_underlined_end :
    closing? image openers ("</u>".toList ++ rest) = closing? image openers rest := by
  have hscheme : Verbatim.inScheme '/' = false := by decide
  have hmailbox : Verbatim.inMailbox '/' = true ∧ Verbatim.inMailbox 'u' = true ∧
    Verbatim.inMailbox '>' = false := by decide
  have haddress : Verbatim.address? ('/' :: 'u' :: '>' :: rest) = none := by
    simp [Verbatim.address?, Verbatim.uri?, Verbatim.mail?, hscheme, hmailbox]
  have htag : Html.tag? ('/' :: 'u' :: '>' :: rest) = some rest := by
    simp [Html.tag?, Html.openingTag?, Html.closingTag?, Html.tagName?, isSpace]
  have hbehind : behindAngle? (['/', 'u', '>'] ++ rest) = some rest := by
    simp [behindAngle?, haddress, Verbatim.html, htag]
  exact closing?_tag hbehind

/-! ### Code in the text of a link -/

theorem rowLength_replicate_append {mark : Char} (n : Nat) (h : rest.head? ≠ some mark) :
    rowLength mark (List.replicate n mark ++ rest) = n := by
  have hrest : rest.takeWhile (· == mark) = [] :=
    takeWhile_eq_nil fun c hc heq => h (beq_iff_eq.1 heq ▸ hc)
  simp [rowLength, hrest]

/-- A text that ends with something else has something behind the row of marks it begins with. -/
theorem exists_eq_replicate_append {mark : Char} (h : (mark :: cs).getLast? ≠ some mark) :
    ∃ n inner, cs = List.replicate n mark ++ inner ∧ inner ≠ [] ∧ inner.head? ≠ some mark := by
  induction cs with
  | nil => exact absurd rfl h
  | cons c cs ih =>
    by_cases hc : c = mark
    · subst hc
      obtain ⟨n, inner, rfl, hne, hinner⟩ := ih (by rwa [List.getLast?_cons_cons] at h)
      exact ⟨n + 1, inner, rfl, hne, hinner⟩
    · exact ⟨0, c :: cs, rfl, by simp, by simpa using hc⟩

/-- Code is read up to its delimiter if it holds no row of marks as long as that and does not end
with a mark. -/
theorem untilRow?_append {mark : Char} {n : Nat} {cs : List Char} (hn : 0 < n)
    (hrow : ¬List.replicate n mark <:+: cs) (hlast : cs.getLast? ≠ some mark)
    (hrest : rest.head? ≠ some mark) :
    Verbatim.untilRow? mark n (cs ++ List.replicate n mark ++ rest) = some (cs, rest) := by
  match cs with
  | [] =>
    obtain ⟨m, rfl⟩ : ∃ m, n = m + 1 := ⟨n - 1, by omega⟩
    rw [List.nil_append, List.replicate_succ, List.cons_append, Verbatim.untilRow?, if_pos rfl]
    simp [rowLength_replicate_append m hrest]
  | c :: cs =>
    by_cases hc : c = mark
    · -- A row of marks inside: it is shorter than the delimiter and something follows it.
      subst hc
      obtain ⟨k, inner, rfl, hne, hinner⟩ := exists_eq_replicate_append hlast
      have hbehind : (inner ++ (List.replicate n c ++ rest)).head? ≠ some c := by
        rwa [List.head?_append_of_ne_nil _ hne]
      have hshort : k + 1 ≠ n := by
        rintro rfl
        exact hrow (List.prefix_append (List.replicate (k + 1) c) inner).isInfix
      have hlast : inner.getLast? ≠ some c := by
        rwa [← List.cons_append, List.getLast?_append_of_ne_nil _ hne] at hlast
      have hinfix : inner <:+: c :: (List.replicate k c ++ inner) :=
        ⟨c :: List.replicate k c, [], by simp⟩
      have hread := untilRow?_append hn (fun h => hrow (h.trans hinfix)) hlast hrest
      rw [List.append_assoc] at hread
      rw [List.cons_append, List.cons_append, Verbatim.untilRow?, if_pos rfl]
      simp [rowLength_replicate_append k hbehind, hshort, hread, List.replicate_succ]
    · have hcut : (c :: cs).getLast? = some mark ↔ cs.getLast? = some mark :=
        getLast?_cons_eq_iff hc
      have hread := untilRow?_append hn (fun h => hrow (h.trans (List.suffix_cons c cs).isInfix))
        (fun h => hlast (hcut.2 h)) hrest
      rw [List.cons_append, List.cons_append, Verbatim.untilRow?, if_neg hc, hread]
      rfl
termination_by cs.length

theorem closing?_row {n : Nat} {behind : List Char} (hbehind : behind.head? ≠ some '\x60')
    (hread : Verbatim.untilRow? '\x60' (n + 1) behind = some (cs, rest))
    (hrest : rest.length ≤ behind.length) :
    closing? image openers (List.replicate (n + 1) '\x60' ++ behind) =
      closing? image openers rest := by
  have hdrop : (List.replicate n '\x60' ++ behind).drop n = behind :=
    List.drop_left' List.length_replicate
  rw [List.replicate_succ, List.cons_append]
  refine closing?_of_inside ?_ (by simp; omega)
  simp [construct, rowLength_replicate_append n hbehind, hdrop, hread]

theorem closing?_code {n : Nat} (hn : 0 < n) (hrow : ¬List.replicate n '\x60' <:+: cs)
    (hhead : cs.head? ≠ some '\x60') (hlast : cs.getLast? ≠ some '\x60') (hne : cs ≠ [])
    (hrest : rest.head? ≠ some '\x60') :
    closing? image openers
        (List.replicate n '\x60' ++ (cs ++ List.replicate n '\x60' ++ rest)) =
      closing? image openers rest := by
  obtain ⟨m, rfl⟩ : ∃ m, n = m + 1 := ⟨n - 1, by omega⟩
  have hbehind : (cs ++ List.replicate (m + 1) '\x60' ++ rest).head? ≠ some '\x60' := by
    rwa [List.append_assoc, List.head?_append_of_ne_nil _ hne]
  exact closing?_row hbehind (untilRow?_append hn hrow hlast hrest) (by simp; omega)

end Passing

/-! ### Blank lines -/

/-- What stands in a line before a place: something that shows, spaces and tabs at most, or the
carriage return that ended the line before, of which a line feed may still be a part. -/
inductive LineStart
  | shown
  | blank
  | returned
deriving DecidableEq

/-- Reads on by a character, up to the end of a line that shows nothing. -/
def LineStart.next? (start : LineStart) (c : Char) : Option LineStart :=
  if c = '\n' then if start = blank then none else some blank
  else if c = '\r' then if start = shown then some returned else none
  else if isSpaceOrTab c ∧ start ≠ shown then some blank
  else some shown

/-- Whether there is a blank line inside a text that begins behind something in its line. -/
def HasBlankLine (cs : List Char) : Prop := cs.foldlM LineStart.next? .shown = none

instance : DecidablePred HasBlankLine := fun _ => inferInstanceAs (Decidable (_ = none))

def IsLineEnd (c : Char) : Prop := c = '\n' ∨ c = '\r'

instance : DecidablePred IsLineEnd := fun _ => inferInstanceAs (Decidable (_ ∨ _))

section BlankLines

variable {start : LineStart} {c : Char} {before cs after : List Char}

theorem next?_of_isVisible (h : IsVisible c) : start.next? c = some .shown := by
  have hspacing := isSpacing_of_isVisible h
  simp only [isSpacing, Bool.or_eq_true, beq_iff_eq, not_or] at hspacing
  simp [LineStart.next?, hspacing]

theorem next?_shown (h : ¬IsLineEnd c) : LineStart.next? .shown c = some .shown := by
  simp only [IsLineEnd, not_or] at h
  simp [LineStart.next?, h]

theorem exists_next? (h : ¬IsLineEnd c) : ∃ next, start.next? c = some next := by
  simp only [IsLineEnd, not_or] at h
  rw [LineStart.next?, if_neg h.1, if_neg h.2]
  split <;> exact ⟨_, rfl⟩

theorem foldlM_next?_shown (h : ∀ c ∈ cs, ¬IsLineEnd c) :
    cs.foldlM LineStart.next? .shown = some .shown := by
  induction cs with
  | nil => rfl
  | cons c cs ih =>
    rw [List.forall_mem_cons] at h
    rw [List.foldlM_cons, next?_shown h.1]
    exact ih h.2

theorem foldlM_next?_ne_none (h : ∀ c ∈ cs, ¬IsLineEnd c) :
    cs.foldlM LineStart.next? start ≠ none := by
  induction cs generalizing start with
  | nil => exact Option.some_ne_none start
  | cons c cs ih =>
    rw [List.forall_mem_cons] at h
    obtain ⟨next, hnext⟩ : ∃ next, start.next? c = some next := exists_next? h.1
    rw [List.foldlM_cons, hnext]
    exact ih h.2

/-- What is put around a text without ending a line leaves its blank lines as they are. -/
theorem hasBlankLine_surround (hbefore : ∀ c ∈ before, ¬IsLineEnd c)
    (hafter : ∀ c ∈ after, ¬IsLineEnd c) :
    HasBlankLine (before ++ cs ++ after) ↔ HasBlankLine cs := by
  rw [HasBlankLine, HasBlankLine, List.foldlM_append, List.foldlM_append,
    foldlM_next?_shown hbefore]
  cases hfold : cs.foldlM LineStart.next? .shown with
  | none => simp [hfold]
  | some start => simp [hfold, foldlM_next?_ne_none hafter]

end BlankLines

/-! ### Inline links -/

/-- Whether the text of a link ends at its end, before the address in parentheses. -/
def ClosesBehind (image : Bool) (label url behind : List Char) : Prop :=
  closing? image [] (label ++ "](".toList ++ url ++ ')' :: behind) =
    some ('(' :: url ++ ')' :: behind)

/-- Whether a text in brackets with another in parentheses behind it is a link or, if `image`, an
image that leads to just that other text, `behind` being what follows. -/
structure IsInlineLink (image : Bool) (label url behind : List Char) : Prop where
  closes : ClosesBehind image label url behind
  unparted : ¬HasBlankLine label
  destination : destination? (url ++ ')' :: behind) = some (url, ')' :: behind)
  literal : literal url = url

variable {image : Bool} {label url behind : List Char}

theorem closesBehind_of_isInert (h : ∀ c ∈ label, IsInert c) :
    ClosesBehind image label url behind := by
  rw [ClosesBehind, List.append_assoc, List.append_assoc, closing?_inerts h]
  exact closing?_bracket

/-- A bracket that nothing opens or hides ends the text of a link before the rest of it. -/
theorem not_closesBehind_of_bracket {before after : List Char} (h : ∀ c ∈ before, IsInert c) :
    ¬ClosesBehind image (before ++ ']' :: after) url behind := by
  intro hcloses
  rw [ClosesBehind, List.append_assoc, List.append_assoc, List.append_assoc, closing?_inerts h,
    List.cons_append, closing?_bracket] at hcloses
  have hlength := congrArg List.length (Option.some.inj hcloses)
  simp at hlength
  omega

theorem isInlineLink_iff : IsInlineLink image label url behind ↔
    ClosesBehind image label url behind ∧ ¬HasBlankLine label ∧ IsDestination url := by
  constructor
  · rintro ⟨hcloses, hunparted, hdestination, hliteral⟩
    obtain ⟨hbare, hvisible, hbalanced, hwhole⟩ := destination?_eq_some_iff.1 hdestination
    exact ⟨hcloses, hunparted, hbare, hvisible, hbalanced, hwhole, hliteral⟩
  · rintro ⟨hcloses, hunparted, hbare, hvisible, hbalanced, hwhole, hliteral⟩
    exact ⟨hcloses, hunparted, destination?_eq_some_iff.2 ⟨hbare, hvisible, hbalanced, hwhole⟩,
      hliteral⟩

/-- Behind the text of an inline link the reader finds the target that was written. -/
theorem IsInlineLink.target? (h : IsInlineLink image label url behind) (refs : References)
    (content : List Char) (hasBracket : Bool) :
    ∃ rest, closing? image [] (label ++ "](".toList ++ url ++ ')' :: behind) = some rest ∧
      Link.target? refs content hasBracket rest = some (⟨url, []⟩, behind) := by
  obtain ⟨hcloses, -, hdestination⟩ := isInlineLink_iff.1 h
  refine ⟨_, hcloses, ?_⟩
  rw [Link.target?, inline?_of_isDestination hdestination]
  rfl

/-- A text that is no destination leaves the brackets as they are. -/
example : Span.read ∅ "[a](b)".toList = [.link ['b'] [] [.text ['a']]] ∧
    Span.read ∅ "[a](b c)".toList = [.text "[a](b c)".toList] := by
  constructor <;> cbv

end NoteBridge.Markdown
