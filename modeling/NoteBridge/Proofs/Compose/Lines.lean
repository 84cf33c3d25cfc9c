import NoteBridge.Proofs.Compose.Literal
import NoteBridge.Proofs.Render.Plain

/-!
Plain lines as content: texts with a soft break between any two of them. They compose into runs
without style and link, and a paragraph or an item of them is just its text, which is written as
the lines are.
-/

namespace NoteBridge.Compose

open Markup (Inline)
open Page (Item charItems plainChars stream)
open Text

variable {context : Context} {line : List Char} {lines : List (List Char)}

def lineInlines : List (List Char) → List Inline
  | [] => []
  | [line] => [.text (String.ofList line)]
  | line :: next :: lines => .text (String.ofList line) :: .softBreak :: lineInlines (next :: lines)

theorem denote_plainLine (h : IsPlainLine line) :
    denote context {} none (.text (String.ofList line)) = charItems {} none line := by
  have hmark : Text.cut? mark line = none := by
    rw [Text.cut?_eq_none_iff]
    intro hmarked
    exact (h.2 '=' (hmarked.subset (List.mem_cons_self ..))).2 (by decide)
  rw [denote, String.toList_ofList, textItems, segments_eq_single hmark, shownChars, List.map_map]
  rfl

theorem denoteAll_lineInlines (h : ∀ line ∈ lines, IsPlainLine line) :
    denoteAll context {} none (lineInlines lines) = charItems {} none (join ['\n'] lines) := by
  induction lines with
  | nil => rfl
  | cons line rest ih =>
    obtain ⟨hline, hrest⟩ := List.forall_mem_cons.1 h
    cases rest with
    | nil => rw [lineInlines, denoteAll, denoteAll, denote_plainLine hline, List.append_nil, join]
    | cons next rest =>
      rw [lineInlines, denoteAll, denoteAll, denote_plainLine hline, ih hrest, join]
      simp only [charItems, List.map_append, List.append_assoc]
      rfl

/-- Plain lines compose into plain runs that show them. -/
theorem compose_lineInlines (context : Context) (h : ∀ line ∈ lines, IsPlainLine line) :
    (∀ run ∈ compose context (lineInlines lines), run.IsPlain) ∧
      plainChars (compose context (lineInlines lines)) = join ['\n'] lines := by
  rw [← Page.stream_eq_charItems_iff items_ne_nil_of_mem_compose, stream_compose_eq_denoteAll,
    Page.flatMap_bounded_eq_charItems_iff]
  exact denoteAll_lineInlines h

/-! ### Blocks of plain lines -/

theorem isBlank_plainLine (h : IsPlainLine line) :
    (Inline.text (String.ofList line)).isBlank = false := by
  obtain ⟨c, rest, rfl⟩ := List.exists_cons_of_ne_nil h.1
  have hc : isBlank c = false := by simpa using (h.2 c (List.mem_cons_self ..)).1
  rw [Inline.isBlank, String.toList_ofList, allBlank, List.all_cons, hc, Bool.false_and]

theorem visible_lineInlines (h : ∀ line ∈ lines, IsPlainLine line) :
    visible (lineInlines lines) = lines.map fun line => .text (String.ofList line) := by
  induction lines with
  | nil => rfl
  | cons line rest ih =>
    obtain ⟨hline, hrest⟩ := List.forall_mem_cons.1 h
    have hshown := isBlank_plainLine hline
    cases rest with
    | nil => simp [lineInlines, visible, hshown]
    | cons next rest =>
      have hbreak : Inline.softBreak.isBlank = true := rfl
      rw [List.map_cons, ← ih hrest]
      simp [lineInlines, visible, hshown, hbreak]

theorem plainCharsAll_lineInlines (lines : List (List Char)) :
    Inline.plainCharsAll (lineInlines lines) = join ['\n'] lines := by
  induction lines with
  | nil => rfl
  | cons line rest ih =>
    cases rest with
    | nil => simp [lineInlines, Inline.plainCharsAll, Inline.plainChars, join]
    | cons next rest =>
      simp only [lineInlines, Inline.plainCharsAll, ih, join]
      simp [Inline.plainChars]

theorem dollarMath?_of_not_mem {cs : List Char} (h : '$' ∉ cs) : dollarMath? cs = none := by
  have hafter : after? ['$', '$'] (trim cs) = none := by
    rw [after?_eq_none_iff]
    intro hdollars
    exact h (mem_of_mem_trim (hdollars.subset (List.mem_cons_self ..)))
  rw [dollarMath?, hafter]
  rfl

theorem paragraphBlock_lineInlines (h : ∀ line ∈ lines, IsPlainLine line) :
    paragraphBlock context (lineInlines lines) =
      .paragraph (compose context (lineInlines lines)) := by
  have hdollar : '$' ∉ Inline.plainCharsAll (lineInlines lines) := by
    rw [plainCharsAll_lineInlines]
    intro hmem
    rcases mem_join hmem with hbreak | ⟨line, hline, hdollar⟩
    · exact absurd hbreak (by decide)
    · exact ((h line hline).2 '$' hdollar).2 (by decide)
  have hmath : displayMath? (lineInlines lines) = none := by
    rw [displayMath?, visible_lineInlines h, dollarMath?_of_not_mem hdollar]
    split
    · next literal hmath =>
      obtain ⟨line, -, hline⟩ := List.map_eq_singleton_iff.1 hmath
      cases hline
    · exact ite_self none
  have hlone : loneImage? (lineInlines lines) = none := by
    rw [loneImage?, visible_lineInlines h]
    rcases lines with _ | ⟨line, _ | ⟨next, rest⟩⟩ <;> rfl
  rw [paragraphBlock, hmath, hlone]

theorem itemKind_lineInlines (h : ∀ line ∈ lines, IsPlainLine line) :
    itemKind context false (lineInlines lines) =
      .text .bulletedItem (compose context (lineInlines lines)) := by
  have hbox : ∀ checked rest, lineInlines lines ≠ .checkbox checked :: rest := by
    rcases lines with _ | ⟨line, _ | ⟨next, rest⟩⟩ <;> nofun
  have hlead : withoutLead (lineInlines lines) = lineInlines lines := by
    rcases lines with _ | ⟨line, rest⟩
    · rfl
    · have hline := isBlank_plainLine (h line (List.mem_cons_self ..))
      rw [Inline.isBlank, String.toList_ofList] at hline
      cases rest <;> simp [lineInlines, withoutLead, hline]
  rw [itemKind, hlead]
  · rfl
  · exact hbox

end NoteBridge.Compose
