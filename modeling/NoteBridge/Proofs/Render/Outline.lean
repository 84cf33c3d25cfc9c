import NoteBridge.Proofs.Text.Letter
import NoteBridge.Proofs.Text.Lines
import NoteBridge.Render.Block

/-!
Outlines: what the markup of nested lists shows. An item shows its lines below each other, and a
paragraph that opens what is nested in it only goes on with them; what follows that paragraph is
parted from it by an empty line. The lines of an outline determine it, since no line of a
paragraph begins like an item or like a line that is nested.
-/

namespace NoteBridge.Render

open Text

abbrev Line := List Char

/-- A paragraph or an item of a list, with its lines. `parted` says whether an empty line stands
between the lines of an item and what is nested in it. -/
inductive Outline
  | paragraph (lines : List Line)
  | item (lines : List Line) (parted : Bool) (inside : List Outline)

namespace Outline

def isItem : Outline → Bool
  | paragraph _ => false
  | item .. => true

end Outline

def indentLine (line : Line) : Line := if line.isEmpty then [] else indentation ++ line

/-- The lines of an item: its marker stands on the first, the others are indented. -/
def itemLines : List Line → List Line
  | [] => []
  | line :: lines => ("- ".toList ++ line) :: lines.map indentLine

/-- The empty line that parts what follows from what comes before. -/
def parting (parted : Bool) : List Line := if parted then [[]] else []

/-- Whether a part is parted from what follows it: always, unless two items follow each other. -/
def isParted (part : Outline) : List Outline → Bool
  | [] => false
  | next :: _ => !(part.isItem && next.isItem)

mutual

def Outline.lines : Outline → List Line
  | .paragraph lines => lines
  | .item lines parted inside => itemLines (lines ++ (parting parted ++ outlineLines inside))

def outlineLines : List Outline → List Line
  | [] => []
  | part :: parts => part.lines ++ (parting (isParted part parts) ++ outlineLines parts)

end

/-- The lines of an item and of a paragraph that opens what is nested in it are those of one
text. -/
def joinLead (lines : List Line) : List Outline → Outline
  | .paragraph more :: rest => .item (lines ++ more) (!rest.isEmpty) rest
  | rest => .item lines false rest

theorem lines_joinLead (lines : List Line) (parts : List Outline) :
    (joinLead lines parts).lines = itemLines (lines ++ outlineLines parts) := by
  cases parts with
  | nil => simp [joinLead, Outline.lines, parting]
  | cons part rest =>
    cases part with
    | item => simp [joinLead, Outline.lines, parting]
    | paragraph more =>
      cases rest <;> simp [joinLead, Outline.lines, outlineLines, isParted, Outline.isItem]

theorem isItem_joinLead (lines : List Line) (parts : List Outline) :
    (joinLead lines parts).isItem = true := by
  rcases parts with _ | ⟨_ | _, rest⟩ <;> rfl

/-- Whether a paragraph comes first. -/
def opensWithText : List Outline → Bool
  | .paragraph _ :: _ => true
  | _ => false

theorem opensWithText_cons (part : Outline) (parts : List Outline) :
    opensWithText (part :: parts) = !part.isItem := by
  cases part <;> rfl

theorem joinLead_of_not_opensWithText {parts : List Outline} (h : opensWithText parts = false)
    (lines : List Line) : joinLead lines parts = .item lines false parts := by
  rcases parts with _ | ⟨_ | _, rest⟩
  · rfl
  · cases h
  · rfl

/-- Outlines as documents have them: texts are of plain lines, and whatever follows the text of an
item at once is an item. -/
inductive IsOutline : List Outline → Prop
  | nil : IsOutline []
  | paragraph {lines : List Line} {rest : List Outline} :
      lines ≠ [] → (∀ line ∈ lines, IsPlainLine line) → IsOutline rest →
      IsOutline (.paragraph lines :: rest)
  | item {first : Line} {lines : List Line} {parted : Bool} {inside rest : List Outline} :
      (∀ c ∈ first, IsPlain c) → (∀ line ∈ lines, IsPlainLine line) →
      (parted = true → inside ≠ []) → (parted = false → opensWithText inside = false) →
      IsOutline inside → IsOutline rest →
      IsOutline (.item (first :: lines) parted inside :: rest)

theorem IsOutline.joinLead {first : Line} {lines : List Line} {parts rest : List Outline}
    (hfirst : ∀ c ∈ first, IsPlain c) (hlines : ∀ line ∈ lines, IsPlainLine line)
    (hparts : IsOutline parts) (hrest : IsOutline rest) :
    IsOutline (joinLead (first :: lines) parts :: rest) := by
  cases hparts with
  | nil => exact .item hfirst hlines nofun (fun _ => rfl) .nil hrest
  | item hfirst' hlines' hparted htext hinside hrest' =>
    exact .item hfirst hlines nofun (fun _ => rfl)
      (.item hfirst' hlines' hparted htext hinside hrest') hrest
  | @paragraph more after _ hmore hafter =>
    refine .item hfirst (List.forall_mem_append.2 ⟨hlines, hmore⟩) (fun hparted => ?_)
      (fun hparted => ?_) hafter hrest
    · simpa using hparted
    · have hnil : after = [] := by simpa using hparted
      rw [hnil]
      rfl

variable {part part' : Outline} {parts parts' rest rest' : List Outline} {line : Line}
  {lines : List Line}

/-! ### Plain and indented lines -/

theorem indentLine_injective : Function.Injective indentLine := by
  intro a b h
  cases a <;> cases b <;> simp_all [indentLine, indentation]

theorem ne_indentLine_of_isPlainLine (h : IsPlainLine line) (other : Line) :
    line ≠ indentLine other := by
  rintro rfl
  unfold indentLine at h
  split at h
  · exact h.1 rfl
  · exact (h.2 ' ' (List.mem_cons_self ..)).1 rfl

theorem item_ne_indentLine (line other : Line) : "- ".toList ++ line ≠ indentLine other := by
  unfold indentLine
  split <;> simp [indentation]

theorem not_isPlainLine_item (line : Line) : ¬IsPlainLine ("- ".toList ++ line) := fun h =>
  (h.2 '-' (List.mem_cons_self ..)).2 (by decide)

/-- The first line of an outline is not indented, and plain only if it is that of a paragraph. -/
theorem IsOutline.exists_first_line (h : IsOutline parts) (hne : parts ≠ []) :
    ∃ line lines, outlineLines parts = line :: lines ∧ (∀ other, line ≠ indentLine other) ∧
      (IsPlainLine line ↔ opensWithText parts = true) := by
  cases h with
  | nil => exact absurd rfl hne
  | @paragraph lines rest hlines hplain hrest =>
    obtain ⟨line, lines, rfl⟩ := List.exists_cons_of_ne_nil hlines
    have hline := hplain line (List.mem_cons_self ..)
    exact ⟨line, _, rfl, ne_indentLine_of_isPlainLine hline, fun _ => rfl, fun _ => hline⟩
  | @item first lines parted inside rest hfirst hlines _ _ hinside hrest =>
    refine ⟨"- ".toList ++ first, _, rfl, item_ne_indentLine first, fun h => ?_, nofun⟩
    exact absurd h (not_isPlainLine_item first)

theorem IsOutline.lines_ne_nil (h : IsOutline parts) : ∀ part ∈ parts, part.lines ≠ [] := by
  induction h with
  | nil => exact List.forall_mem_nil _
  | paragraph hlines _ _ ih => exact List.forall_mem_cons.2 ⟨hlines, ih⟩
  | item _ _ _ _ _ _ _ ihr => exact List.forall_mem_cons.2 ⟨List.cons_ne_nil _ _, ihr⟩

/-! ### Where nested lines end -/

/-- Lines of which every empty one stands before another one that is not. -/
def Guarded : List Line → Prop
  | [] => True
  | line :: lines => (line = [] → ∃ next ∈ lines.head?, next ≠ []) ∧ Guarded lines

theorem Guarded.append {as bs : List Line} (has : Guarded as) (hbs : Guarded bs) :
    Guarded (as ++ bs) := by
  induction as with
  | nil => exact hbs
  | cons line lines ih =>
    refine ⟨fun hline => ?_, ih has.2⟩
    obtain ⟨next, hnext, hne⟩ := has.1 hline
    exact ⟨next, List.mem_head?_append_of_mem_head? hnext, hne⟩

theorem guarded_of_isPlainLine (h : ∀ line ∈ lines, IsPlainLine line) : Guarded lines := by
  induction lines with
  | nil => trivial
  | cons line lines ih =>
    obtain ⟨hline, hlines⟩ := List.forall_mem_cons.1 h
    exact ⟨fun hnil => absurd hnil hline.1, ih hlines⟩

theorem Guarded.map_indentLine (h : Guarded lines) : Guarded (lines.map indentLine) := by
  induction lines with
  | nil => trivial
  | cons line lines ih =>
    refine ⟨fun hline => ?_, ih h.2⟩
    obtain ⟨next, hnext, hne⟩ := h.1 (indentLine_injective hline)
    refine ⟨indentLine next, ?_, fun hnil => hne (indentLine_injective hnil)⟩
    rw [List.head?_map]
    exact Option.mem_map_of_mem _ hnext

theorem Guarded.getLast?_ne (h : Guarded lines) : lines.getLast? ≠ some [] := by
  induction lines with
  | nil => nofun
  | cons line lines ih =>
    cases lines with
    | nil =>
      intro hlast
      obtain ⟨next, hnext, -⟩ := h.1 (by simpa using hlast)
      cases hnext
    | cons next lines =>
      rw [List.getLast?_cons_cons]
      exact ih h.2

/-! ### What determines an outline -/

variable {parted parted' : Bool}

theorem ne_nil_of_isParted (h : isParted part parts = true) : parts ≠ [] := by
  rintro rfl
  cases h

theorem IsOutline.guarded_parting (h : IsOutline parts) (hguarded : Guarded (outlineLines parts))
    (hparted : parted = true → parts ≠ []) : Guarded (parting parted ++ outlineLines parts) := by
  cases parted with
  | false => exact hguarded
  | true =>
    obtain ⟨line, lines, hlines, hfirst, -⟩ := h.exists_first_line (hparted rfl)
    refine ⟨fun _ => ⟨line, ?_, hfirst []⟩, hguarded⟩
    rw [hlines]
    rfl

theorem IsOutline.guarded (h : IsOutline parts) : Guarded (outlineLines parts) := by
  induction h with
  | nil => trivial
  | paragraph _ hplain hrest ih =>
    refine (guarded_of_isPlainLine hplain).append ?_
    exact hrest.guarded_parting ih ne_nil_of_isParted
  | item _ hplain hparted _ hinside hrest ihi ihr =>
    refine Guarded.append ⟨nofun, Guarded.map_indentLine (Guarded.append ?_ ?_)⟩ ?_
    · exact guarded_of_isPlainLine hplain
    · exact hinside.guarded_parting ihi hparted
    · exact hrest.guarded_parting ihr ne_nil_of_isParted

/-- No outline begins with an indented line or an empty one. -/
theorem IsOutline.outlineLines_ne (h : IsOutline parts) (line : Line) (lines : List Line) :
    outlineLines parts ≠ indentLine line :: lines := by
  intro heq
  have hne : parts ≠ [] := by
    rintro rfl
    cases heq
  obtain ⟨first, others, hlines, hfirst, -⟩ := h.exists_first_line hne
  rw [hlines] at heq
  cases heq
  exact hfirst line rfl

/-- Whether an outline is parted from what comes before can be seen from its lines. -/
theorem IsOutline.parting_append_inj (h : IsOutline parts) (h' : IsOutline parts')
    (heq : parting parted ++ outlineLines parts = parting parted' ++ outlineLines parts') :
    parted = parted' ∧ outlineLines parts = outlineLines parts' := by
  cases parted <;> cases parted'
  · exact ⟨rfl, heq⟩
  · exact absurd heq (h.outlineLines_ne [] _)
  · exact absurd heq.symm (h'.outlineLines_ne [] _)
  · exact ⟨rfl, List.tail_eq_of_cons_eq heq⟩

/-- Guarded lines that are indented do not reach into an outline that follows them. -/
theorem IsOutline.ne_map_indentLine_append (h : IsOutline parts) {as : List Line}
    (has : Guarded as) (hne : as ≠ []) (rest : List Line) :
    parting parted ++ outlineLines parts ≠ as.map indentLine ++ rest := by
  intro heq
  obtain ⟨line, lines, rfl⟩ := List.exists_cons_of_ne_nil hne
  cases parted with
  | false => exact h.outlineLines_ne line _ heq
  | true =>
    obtain ⟨hline, hlines⟩ := List.cons_eq_cons.1 heq
    have hempty : line = [] := indentLine_injective hline.symm
    obtain ⟨next, hnext, -⟩ := has.1 hempty
    obtain ⟨others, rfl⟩ := List.head?_eq_some_iff.1 hnext
    exact h.outlineLines_ne next _ hlines

theorem IsOutline.map_indentLine_append_inj (h : IsOutline parts) (h' : IsOutline parts')
    {as bs : List Line} (has : Guarded as) (hbs : Guarded bs)
    (heq : as.map indentLine ++ (parting parted ++ outlineLines parts) =
      bs.map indentLine ++ (parting parted' ++ outlineLines parts')) :
    as = bs ∧ parting parted ++ outlineLines parts = parting parted' ++ outlineLines parts' := by
  induction as generalizing bs with
  | nil =>
    cases bs with
    | nil => exact ⟨rfl, heq⟩
    | cons b bs => exact absurd heq (h.ne_map_indentLine_append hbs (List.cons_ne_nil _ _) _)
  | cons a as ih =>
    cases bs with
    | nil => exact absurd heq.symm (h'.ne_map_indentLine_append has (List.cons_ne_nil _ _) _)
    | cons b bs =>
      obtain ⟨hline, hlines⟩ := List.cons_eq_cons.1 heq
      obtain ⟨rfl, hafter⟩ := ih has.2 hbs.2 hlines
      rw [indentLine_injective hline]
      exact ⟨rfl, hafter⟩

theorem append_inj_of_forall {α : Type} {p : α → Prop} {as bs cs ds : List α}
    (has : ∀ a ∈ as, p a) (hbs : ∀ b ∈ bs, p b) (hcs : ∀ c ∈ cs.head?, ¬p c)
    (hds : ∀ d ∈ ds.head?, ¬p d) (heq : as ++ cs = bs ++ ds) : as = bs ∧ cs = ds := by
  induction as generalizing bs with
  | nil =>
    cases bs with
    | nil => exact ⟨rfl, heq⟩
    | cons b bs =>
      rw [List.nil_append] at heq
      exact absurd (hbs b (List.mem_cons_self ..)) (hcs b (heq ▸ rfl))
  | cons a as ih =>
    cases bs with
    | nil =>
      rw [List.nil_append] at heq
      exact absurd (has a (List.mem_cons_self ..)) (hds a (heq ▸ rfl))
    | cons b bs =>
      obtain ⟨rfl, hrest⟩ := List.cons_eq_cons.1 heq
      obtain ⟨rfl, hafter⟩ := ih (List.forall_mem_cons.1 has).2 (List.forall_mem_cons.1 hbs).2 hrest
      exact ⟨rfl, hafter⟩

/-- What follows the plain lines of an item is not plain. -/
theorem IsOutline.not_isPlainLine_head? (h : IsOutline parts)
    (hinside : parted = false → opensWithText parts = false) :
    ∀ line ∈ (parting parted ++ outlineLines parts).head?, ¬IsPlainLine line := by
  intro line hline hplain
  cases parted with
  | true =>
    cases hline
    exact hplain.1 rfl
  | false =>
    have hne : parts ≠ [] := by
      rintro rfl
      cases hline
    obtain ⟨first, others, hlines, -, hfirst⟩ := h.exists_first_line hne
    change line ∈ (outlineLines parts).head? at hline
    rw [hlines] at hline
    cases hline
    rw [hfirst.1 hplain] at hinside
    cases hinside rfl

theorem IsOutline.eq_nil_of_outlineLines (h : IsOutline parts) (hnil : outlineLines parts = []) :
    parts = [] := by
  by_contra hne
  obtain ⟨line, lines, hlines, -, -⟩ := h.exists_first_line hne
  rw [hnil] at hlines
  cases hlines

theorem IsOutline.opensWithText_eq (h : IsOutline parts) (h' : IsOutline parts')
    (heq : outlineLines parts = outlineLines parts') :
    opensWithText parts = opensWithText parts' := by
  by_cases hnil : parts = []
  · subst hnil
    rw [h'.eq_nil_of_outlineLines heq.symm]
  · have hnil' : parts' ≠ [] := by
      rintro rfl
      exact hnil (h.eq_nil_of_outlineLines heq)
    obtain ⟨line, lines, hlines, -, hopens⟩ := h.exists_first_line hnil
    obtain ⟨line', lines', hlines', -, hopens'⟩ := h'.exists_first_line hnil'
    rw [hlines, hlines'] at heq
    cases heq
    rw [Bool.eq_iff_iff, ← hopens, ← hopens']

theorem opensWithText_of_not_isParted (h : isParted (.paragraph lines) parts = false) :
    opensWithText parts = false := by
  cases parts with
  | nil => rfl
  | cons => cases h

/-- Outlines with the same lines are the same. -/
theorem IsOutline.eq_of_outlineLines (h : IsOutline parts) (h' : IsOutline parts')
    (heq : outlineLines parts = outlineLines parts') : parts = parts' := by
  induction h generalizing parts' with
  | nil => exact (h'.eq_nil_of_outlineLines heq.symm).symm
  | paragraph hlines hplain hrest ih =>
    have hopens := (IsOutline.paragraph hlines hplain hrest).opensWithText_eq h' heq
    cases h' with
    | nil => cases hopens
    | item => cases hopens
    | paragraph hlines' hplain' hrest' =>
      obtain ⟨rfl, hafter⟩ := append_inj_of_forall hplain hplain'
        (hrest.not_isPlainLine_head? opensWithText_of_not_isParted)
        (hrest'.not_isPlainLine_head? opensWithText_of_not_isParted) heq
      rw [ih hrest' (hrest.parting_append_inj hrest' hafter).2]
  | item hfirst hplain hparted htext hinside hrest ihi ihr =>
    have hitem := IsOutline.item hfirst hplain hparted htext hinside hrest
    have hopens := hitem.opensWithText_eq h' heq
    cases h' with
    | nil => exact absurd heq (List.cons_ne_nil _ _)
    | paragraph => cases hopens
    | item hfirst' hplain' hparted' htext' hinside' hrest' =>
      obtain ⟨hmarker, hbelow⟩ := List.cons_eq_cons.1 heq
      have hguarded := (guarded_of_isPlainLine hplain).append
        (hinside.guarded_parting hinside.guarded hparted)
      have hguarded' := (guarded_of_isPlainLine hplain').append
        (hinside'.guarded_parting hinside'.guarded hparted')
      obtain ⟨hown, hafter⟩ := hrest.map_indentLine_append_inj hrest' hguarded hguarded' hbelow
      obtain ⟨rfl, hnested⟩ := append_inj_of_forall hplain hplain'
        (hinside.not_isPlainLine_head? htext) (hinside'.not_isPlainLine_head? htext') hown
      obtain ⟨rfl, hinsides⟩ := hinside.parting_append_inj hinside' hnested
      rw [List.append_cancel_left hmarker, ihi hinside' hinsides,
        ihr hrest' (hrest.parting_append_inj hrest' hafter).2]

end NoteBridge.Render
