import NoteBridge.Proofs.Page.Plain
import NoteBridge.Proofs.Text.Letter
import NoteBridge.Render.Run
import NoteBridge.Text.Punctuation

/-!
Plain text as markup. A text of which no character is ever escaped is written as it is, and so are
runs of it that have neither style nor link, wherever they stand.
-/

namespace NoteBridge.Render

open Page (Run plainChars)
open Text

variable {context : RunContext} {run : Run} {runs : List Run} {cs : List Char}

/-- A character that stands for itself wherever it stands. -/
def NeverEscaped (c : Char) : Prop := ∀ p next, needsEscape p c next = false

theorem neverEscaped_of_not_mem_marks {c : Char} (h : c ∉ marks) : NeverEscaped c := by
  intro p next
  simp only [marks, List.mem_cons, List.not_mem_nil, or_false, not_or] at h
  simp [needsEscape, isAlwaysEscaped, isLineMarker, h]

theorem mem_marks_of_needsEscape {p : Position} {c : Char} {next : Option Char}
    (h : needsEscape p c next = true) : c ∈ marks := by
  by_contra hc
  rw [neverEscaped_of_not_mem_marks hc] at h
  cases h

theorem isAsciiPunctuation_of_needsEscape {p : Position} {next : Option Char}
    (h : needsEscape p c next = true) : isAsciiPunctuation c = true :=
  List.all_eq_true.1 (by decide : marks.all isAsciiPunctuation = true) c
    (mem_marks_of_needsEscape h)

theorem escapeFrom_eq_self (h : ∀ c ∈ cs, NeverEscaped c) (p : Position) :
    escapeFrom p cs = cs := by
  induction cs generalizing p with
  | nil => rfl
  | cons c cs ih =>
    obtain ⟨hc, hcs⟩ := List.forall_mem_cons.1 h
    rw [escapeFrom, hc, ih hcs]
    rfl

@[simp] theorem decorate_default (context : RunContext) (text : List Char) :
    decorate context {} text = text := by
  simp [decorate, isHighlighted]

theorem wrap_escape_plain (h : ∀ c ∈ cs, NeverEscaped c) (lineStart : Bool) :
    wrap context {} escape none lineStart cs = cs := by
  rw [wrap]
  split
  · rfl
  · next hcore =>
    have htrim : ∀ c ∈ trim cs, NeverEscaped c := fun c hc => h c (mem_of_mem_trim hc)
    have hescape : ∀ lineStart, escape lineStart (trim cs) = trim cs :=
      fun lineStart => escapeFrom_eq_self htrim { lineStart }
    simp only [decorate_default, linkTo, hescape, Bool.false_eq_true, if_false]
    exact takeWhile_trim_takeEndWhile (mt List.isEmpty_iff.2 hcore)

theorem renderRun_plain (hrun : run.IsPlain) (h : ∀ c ∈ run.chars, NeverEscaped c)
    (lineStart : Bool) : renderRun context lineStart run = run.chars := by
  obtain ⟨hkind, hstyle⟩ := hrun
  have hplaceholder : isPlaceholder run = false := by
    rw [isPlaceholder, hstyle]
    rfl
  rw [renderRun, hkind]
  dsimp only
  rw [hplaceholder, hstyle]
  exact wrap_escape_plain h lineStart

theorem renderRuns_plain (hruns : ∀ run ∈ runs, run.IsPlain)
    (h : ∀ c ∈ plainChars runs, NeverEscaped c) : renderRuns context runs = plainChars runs := by
  have hfrom : ∀ lineStart, renderRunsFrom context lineStart runs = plainChars runs := by
    induction runs with
    | nil => exact fun _ => rfl
    | cons run runs ih =>
      intro lineStart
      obtain ⟨hrun, hruns⟩ := List.forall_mem_cons.1 hruns
      rw [plainChars, List.flatMap_cons, List.forall_mem_append] at h
      rw [renderRunsFrom, renderRun_plain hrun h.1, ih hruns h.2]
      rfl
  exact hfrom true

end NoteBridge.Render
