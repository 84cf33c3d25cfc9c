import NoteBridge.Note
import NoteBridge.Proofs.Render.Opening

/-!
Reading back the text of a note. Front matter that was written is split off again, whatever the
body. A note without a record is its body alone, and some of that is taken for front matter exactly
when the body opens with a divider and a later line of it is a delimiter.
-/

namespace NoteBridge

open FrontMatter (delimiter IsDelimiter splitChars)
open Page (Block)
open Text (linesKept)

theorem Bridge.render_of_toMarkup {bridge : Bridge} {blocks : List Block} {body : String}
    (h : bridge.toMarkup blocks = .ok body) :
    Render.render ⟨bridge.options, bridge.resolver⟩ blocks = .ok body.toList := by
  obtain ⟨text, htext, heq⟩ := bind_eq_ok_iff.1 h
  cases heq
  rw [htext, String.toList_ofList]

/-- What becomes of a note that is written and split again, for a record whose text consists of
whole lines none of which is the delimiter. -/
theorem splitChars_toMarkup {bridge : Bridge} {blocks : List Block} {note : PulledNote}
    (h : bridge.toMarkup blocks = .ok note.body) :
    (note.record.isEmpty = false → (Yaml.write note.record).getLast? = some '\n' →
      (∀ line ∈ linesKept (Yaml.write note.record), ¬IsDelimiter line) →
      splitChars note.toMarkup.toList =
        (some (Yaml.write note.record), '\n' :: note.body.toList)) ∧
    (note.record.isEmpty = true →
      (splitChars note.toMarkup.toList = (none, note.body.toList) ↔
        ¬(Render.opening? ⟨bridge.options, bridge.resolver⟩ blocks = some .divider ∧
          ∃ line ∈ (linesKept note.body.toList).tail, IsDelimiter line))) := by
  rw [PulledNote.toMarkup, String.toList_ofList, FrontMatter.render]
  constructor
  · intro hrecord hend hlines
    rw [hrecord]
    exact FrontMatter.splitChars_delimited hend hlines _
  · intro hrecord
    rw [if_pos hrecord]
    have hopens := Render.render_opens (Bridge.render_of_toMarkup h)
    split at hopens
    · next hopening =>
      obtain ⟨rest, hrest⟩ := hopens
      have hbody : note.body.toList = delimiter ++ '\n' :: rest := by
        rw [← hrest, List.append_assoc]
        rfl
      rw [hbody, FrontMatter.splitChars_delimiter_eq_none_iff, Text.linesKept_cons (by decide)]
      simp [hopening]
    · next hopening =>
      simp [FrontMatter.splitChars_of_not_prefix hopens, hopening]

/-- A note pulled from a page of two dividers. -/
def dividersNote (record : Record) : PulledNote where
  title := none
  record := record
  tags := []
  body := "---\n\n---\n"

theorem toMarkup_dividers (record : Record) :
    Bridge.toMarkup {} [.leaf .divider, .leaf .divider] = .ok (dividersNote record).body := by
  simp only [Bridge.toMarkup, Render.render, Render.renderLevel, Render.renderPieces,
    Render.renderBlock, Block.leaf]
  rfl

/-- The dividers are read back as front matter, but not behind the front matter of a record. -/
theorem splitChars_dividersNote :
    splitChars (dividersNote ∅).toMarkup.toList ≠ (none, (dividersNote ∅).body.toList) ∧
    splitChars (dividersNote (Dict.empty.insert "draft" (.bool true))).toMarkup.toList =
      (some "draft: true\n".toList, '\n' :: (dividersNote ∅).body.toList) := by
  have hwrite : Yaml.write (Dict.empty.insert "draft" (.bool true)) = "draft: true\n".toList := by
    decide +kernel
  constructor
  · rw [Ne, (splitChars_toMarkup (toMarkup_dividers ∅)).2 rfl]
    exact not_not.2 ⟨rfl, delimiter ++ ['\n'], by decide, FrontMatter.isDelimiter_delimiter⟩
  · have hsplit := (splitChars_toMarkup
      (toMarkup_dividers (Dict.empty.insert "draft" (.bool true)))).1 rfl
    rw [dividersNote, hwrite] at hsplit
    exact hsplit rfl (by decide)

end NoteBridge
