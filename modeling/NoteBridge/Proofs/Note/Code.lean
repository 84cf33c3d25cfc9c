import NoteBridge.Markdown.Document
import NoteBridge.Proofs.Page.Stream
import NoteBridge.Proofs.Text.Search
import NoteBridge.Proofs.Text.Small
import NoteBridge.Render.Block

/-!
Code on its way to a page and back. The full name of a language is its own full name, and nothing
but one short name leads to a language that is not shown as code. So the fence that a code block is
written as gives the block again, unless its language had that short name. The first word of an
info string has no blanks, and neither has what the fence says of the language. A backtick in that
word stays, and then the fence is none.
-/

namespace NoteBridge.Compose

open Page (Block Run plainLanguage)
open Text (Unbroken toSmall words)

variable {language : String} {info : Option String}

/-! ### Languages -/

/-- Whether blocks in the language are shown as code, not as a formula or a query. -/
def IsCode (language : String) : Prop :=
  language ∉ ["math", "latex", "dataview", "dataviewjs"]

instance : DecidablePred IsCode := fun _ => instDecidableNot

/-- A text that is the language of a fence with this info string. -/
def IsTag (language : String) : Prop :=
  Unbroken language.toList ∧ toSmall language.toList = language.toList

instance : DecidablePred IsTag := fun _ => instDecidableAnd

/-- What the table of languages has for each of its names. -/
theorem languageNames_sound : ∀ entry ∈ languageNames, ∀ name ∈ entry.1,
    '\x60' ∉ name.toList ∧ '\x60' ∉ entry.2.toList ∧ fullLanguage name = entry.2 ∧
      (entry.2 ≠ plainLanguage →
        IsTag entry.2 ∧ fullLanguage entry.2 = entry.2 ∧ (IsCode entry.2 ↔ name ≠ "tex")) := by
  decide +kernel

/-- A language has a name of the table, or its own name is the full one. -/
theorem fullLanguage_cases (language : String) :
    (∃ entry ∈ languageNames, language ∈ entry.1) ∨ fullLanguage language = language := by
  rw [fullLanguage]
  split
  · next names name hfind =>
    refine .inl ⟨(names, name), List.mem_of_find?_eq_some hfind, ?_⟩
    simpa using List.find?_some hfind
  · exact .inr rfl

/-- The first word of an info string. -/
def firstWord (info : Option String) : List Char := (words (info.getD "").toList).headD []

theorem codeLanguage_eq (info : Option String) :
    codeLanguage info = String.ofList (toSmall (firstWord info)) := by
  rw [codeLanguage, firstWord]
  cases words (info.getD "").toList <;> rfl

theorem unbroken_firstWord (info : Option String) : Unbroken (firstWord info) := by
  rw [firstWord]
  cases hwords : words (info.getD "").toList with
  | nil => exact Text.unbroken_nil
  | cons word rest => exact Text.unbroken_of_mem_words (hwords ▸ List.mem_cons_self ..)

theorem isTag_codeLanguage (info : Option String) : IsTag (codeLanguage info) := by
  rw [codeLanguage_eq, IsTag, String.toList_ofList]
  exact ⟨(unbroken_firstWord info).toSmall, Text.toSmall_toSmall _⟩

theorem backtick_mem_codeLanguage_iff :
    '\x60' ∈ (codeLanguage info).toList ↔ '\x60' ∈ firstWord info := by
  rw [codeLanguage_eq, String.toList_ofList, Text.backtick_mem_toSmall_iff]

theorem ne_plainLanguage_of_isTag (h : IsTag language) : language ≠ plainLanguage := by
  rintro rfl
  exact absurd h (by decide)

/-! ### Code blocks -/

theorem codeBlock_eq_code_iff {options : Options} {literal : String} {runs caption : List Run} :
    codeBlock options info literal = .leaf (.code runs language caption) ↔
      IsCode (codeLanguage info) ∧ codeRuns {} (withoutLastLineFeeds literal) = runs ∧
        fullLanguage (codeLanguage info) = language ∧ caption = [] := by
  rw [codeBlock]
  split
  · next hformula =>
    refine ⟨nofun, fun h => absurd ?_ h.1⟩
    rcases hformula with hformula | hformula <;> simp [hformula]
  · next hformula =>
    split
    · next hquery =>
      refine ⟨nofun, fun h => absurd ?_ h.1⟩
      rcases hquery with hquery | hquery <;> simp [hquery]
    · next hquery =>
      have hcode : IsCode (codeLanguage info) := by
        simp_all [IsCode]
      simp [Block.leaf, hcode, eq_comm]

theorem plainChars_codeRuns (style : Page.Style) (content : List Char) :
    Page.plainChars (codeRuns style content) = content := by
  have hchars : (fun piece => (Run.text (String.ofList piece) style).chars) = id := by
    funext piece
    exact String.toList_ofList
  rw [Page.plainChars, codeRuns, List.flatMap_map, hchars, List.flatMap_id, Page.flatten_splitText]

theorem withoutLastLineFeeds_concat (literal : String) :
    withoutLastLineFeeds (String.ofList (withoutLastLineFeeds literal ++ ['\n'])) =
      withoutLastLineFeeds literal := by
  rw [withoutLastLineFeeds, String.toList_ofList]
  exact (List.rdropWhile_concat_pos _ _ _ rfl).trans (List.rdropWhile_idempotent _ _)

end NoteBridge.Compose

namespace NoteBridge.Render

/-- What a fence says of the language of code: nothing for plain text. -/
def fenceInfo (language : String) : List Char :=
  if language = Page.plainLanguage then [] else language.toList

theorem codeFence_eq (runs : List Page.Run) (language : String) :
    codeFence runs language =
      fenced (fenceFor (Text.dropEndWhile (· == '\n') (Page.plainChars runs)))
        (fenceInfo language) (Text.dropEndWhile (· == '\n') (Page.plainChars runs)) :=
  rfl

end NoteBridge.Render

namespace NoteBridge

open Compose (IsCode IsTag codeBlock codeLanguage codeRuns firstWord fullLanguage
  fullLanguage_cases isTag_codeLanguage languageNames_sound withoutLastLineFeeds)
open Markdown (language?)
open Page (Block Run plainLanguage)
open Render (fenceInfo)
open Text (Unbroken)

variable {language : String}

/-! ### Fences read again -/

@[simp] theorem fenceInfo_plainLanguage : fenceInfo plainLanguage = [] := rfl

theorem fenceInfo_of_isTag (h : IsTag language) : fenceInfo language = language.toList :=
  if_neg (Compose.ne_plainLanguage_of_isTag h)

theorem firstWord_language? {cs : List Char} (h : Unbroken cs) : firstWord (language? cs) = cs := by
  rw [language?, Text.words_of_unbroken h]
  cases cs with
  | nil => rfl
  | cons c cs =>
    have hwords : Text.words (String.ofList (c :: cs)).toList = [c :: cs] := by
      rw [String.toList_ofList, Text.words_of_unbroken h]
      rfl
    exact congrArg (fun words => words.headD []) hwords

theorem codeLanguage_fenceInfo (h : IsTag language) :
    codeLanguage (language? (fenceInfo language)) = language := by
  rw [fenceInfo_of_isTag h, Compose.codeLanguage_eq, firstWord_language? h.1, h.2,
    String.ofList_toList]

/-- The full name of a language is a word in small letters, unless it is that of plain text. -/
theorem fullLanguage_eq_plainLanguage_or_isTag (h : IsTag language) :
    fullLanguage language = plainLanguage ∨ IsTag (fullLanguage language) := by
  obtain ⟨entry, hentry, hname⟩ | hown := fullLanguage_cases language
  · obtain ⟨-, -, hfull, hother⟩ := languageNames_sound entry hentry language hname
    rw [hfull]
    exact (em (entry.2 = plainLanguage)).imp_right fun hne => (hother hne).1
  · rw [hown]
    exact .inr h

theorem backtick_mem_fenceInfo_iff (h : IsTag language) :
    '\x60' ∈ fenceInfo (fullLanguage language) ↔ '\x60' ∈ language.toList := by
  obtain ⟨entry, hentry, hname⟩ | hown := fullLanguage_cases language
  · obtain ⟨hshort, hlong, hfull, -⟩ := languageNames_sound entry hentry language hname
    rw [hfull, fenceInfo]
    split <;> simp [hshort, hlong]
  · rw [hown, fenceInfo_of_isTag h]

/-- The language of a fence has the full name of the language it was written for, and is still
shown as code unless it was written for one short name. -/
theorem language_of_fence (h : IsTag language) (hcode : IsCode language) :
    fullLanguage (codeLanguage (language? (fenceInfo (fullLanguage language)))) =
        fullLanguage language ∧
      (IsCode (codeLanguage (language? (fenceInfo (fullLanguage language)))) ↔
        language ≠ "tex") := by
  by_cases hplain : fullLanguage language = plainLanguage
  · rw [hplain, fenceInfo_plainLanguage]
    refine ⟨rfl, fun _ htex => ?_, fun _ => by decide⟩
    rw [htex] at hplain
    exact absurd hplain (by decide)
  · have htag := (fullLanguage_eq_plainLanguage_or_isTag h).resolve_left hplain
    rw [codeLanguage_fenceInfo htag]
    obtain ⟨entry, hentry, hname⟩ | hown := fullLanguage_cases language
    · obtain ⟨-, -, hfull, hother⟩ := languageNames_sound entry hentry language hname
      rw [hfull] at hplain ⊢
      exact (hother hplain).2
    · rw [hown]
      refine ⟨hown, fun _ htex => ?_, fun _ => hcode⟩
      rw [htex] at hown
      exact absurd hown (by decide)

/-- A code block is written with its content and its language, and what the fence says of the
language is one word, with a backtick only where the info string had one. Read again as it was
written, the fence gives the block again if and only if its language was not `tex`. -/
theorem codeBlock_reread_iff {options : Options} {info : Option String} {literal : String}
    {runs caption : List Run}
    (h : codeBlock options info literal = .leaf (.code runs language caption)) :
    let content := withoutLastLineFeeds literal
    Render.codeFence runs language =
        Render.fenced (Render.fenceFor content) (fenceInfo language) content ∧
      Unbroken (fenceInfo language) ∧
      ('\x60' ∈ fenceInfo language ↔ '\x60' ∈ firstWord info) ∧
      (codeBlock options (language? (fenceInfo language)) (String.ofList (content ++ ['\n'])) =
          .leaf (.code runs language caption) ↔
        codeLanguage info ≠ "tex") := by
  intro content
  obtain ⟨hcode, rfl, rfl, rfl⟩ := Compose.codeBlock_eq_code_iff.1 h
  have htag := isTag_codeLanguage info
  obtain ⟨hfull, hshown⟩ := language_of_fence htag hcode
  refine ⟨?_, ?_, ?_, ?_⟩
  · have hcontent : Text.dropEndWhile (· == '\n') content = content :=
      List.rdropWhile_idempotent _ _
    rw [Render.codeFence_eq, Compose.plainChars_codeRuns, hcontent]
  · obtain hplain | hword := fullLanguage_eq_plainLanguage_or_isTag htag
    · rw [hplain, fenceInfo_plainLanguage]
      exact Text.unbroken_nil
    · rw [fenceInfo_of_isTag hword]
      exact hword.1
  · rw [backtick_mem_fenceInfo_iff htag, Compose.backtick_mem_codeLanguage_iff]
  · rw [Compose.codeBlock_eq_code_iff, Compose.withoutLastLineFeeds_concat, hfull, hshown]
    simp

/-- Code in TeX comes back as a formula, and a backtick in the info string stays in the fence. -/
theorem tex_reread_differs_and_backtick_stays :
    (codeBlock {} (some "tex") "x\n" = .leaf (.code [.text "x"] "latex" []) ∧
        codeBlock {} (language? (fenceInfo "latex")) "x\n" ≠
          .leaf (.code [.text "x"] "latex" [])) ∧
      codeBlock {} (some "a\x60b") "x\n" = .leaf (.code [.text "x"] "a\x60b" []) ∧
      '\x60' ∈ fenceInfo "a\x60b" := by
  have hruns : codeRuns {} (withoutLastLineFeeds "x\n") = [.text "x"] := by cbv
  have htex : codeBlock {} (some "tex") "x\n" = .leaf (.code [.text "x"] "latex" []) :=
    Compose.codeBlock_eq_code_iff.2 ⟨by decide, hruns, by decide, rfl⟩
  have htick : codeBlock {} (some "a\x60b") "x\n" = .leaf (.code [.text "x"] "a\x60b" []) :=
    Compose.codeBlock_eq_code_iff.2 ⟨by decide, hruns, by decide, rfl⟩
  refine ⟨⟨htex, fun hsame => ?_⟩, htick, ?_⟩
  · obtain ⟨-, -, -, hagain⟩ := codeBlock_reread_iff htex
    exact hagain.1 hsame (by decide)
  · obtain ⟨-, -, hbacktick, -⟩ := codeBlock_reread_iff htick
    exact hbacktick.2 (by decide)

end NoteBridge
