import NoteBridge.Proofs.Compose.Callout
import NoteBridge.Proofs.Render.Depth
import NoteBridge.Proofs.Render.Escape
import NoteBridge.Proofs.Text.Lines

/-!
Callouts in the markup. The title of a callout is told by its looks: it is one bold run without a
link on a line of its own. It stands escaped behind the name of the callout, and with the name it is
the first line of the quote.
-/

namespace NoteBridge.Render

open Compose (localImageIcon markerLine)
open Page (Block BlockKind Run)
open Text

variable {context : Context} {first : Run} {rest runs body : List Run} {line tail cs : List Char}
  {title : List Char} {icon : String} {c : Char}

/-! ### Titles -/

/-- Whether the first line of runs looks like a title. -/
def HasTitleLine (runs : List Run) : Prop :=
  ∃ first rest, runs = first :: rest ∧ first.style.bold = true ∧ first.kind = .text none ∧
    '\n' ∉ first.chars ∧ ∀ next ∈ rest.head?, next.chars.head? = some '\n'

theorem isTitleRun_iff : isTitleRun first rest = true ↔
    first.style.bold = true ∧ first.kind = .text none ∧ '\n' ∉ first.chars ∧
      ∀ next ∈ rest.head?, next.chars.head? = some '\n' := by
  cases rest <;> simp [isTitleRun, and_assoc]

theorem hasTitleLine_cons_iff : HasTitleLine (first :: rest) ↔ isTitleRun first rest = true := by
  rw [isTitleRun_iff]
  constructor
  · rintro ⟨first, rest, ⟨⟩, h⟩
    exact h
  · exact fun h => ⟨first, rest, rfl, h⟩

/-- Runs whose first line does not look like a title are a body as they are. -/
theorem splitTitle_of_not (h : ¬HasTitleLine runs) : splitTitle runs = (none, runs) := by
  cases runs with
  | nil => rfl
  | cons first rest => exact if_neg (mt hasTitleLine_cons_iff.2 h)

theorem splitTitle_of_isTitleRun (h : isTitleRun first rest = true) :
    splitTitle (first :: rest) = (some (trim first.chars), dropLineFeed rest) := if_pos h

theorem splitTitle_eq_none_iff : (splitTitle runs).1 = none ↔ ¬HasTitleLine runs := by
  constructor
  · rintro h ⟨first, rest, rfl, hlooks⟩
    rw [splitTitle_of_isTitleRun (isTitleRun_iff.2 hlooks)] at h
    cases h
  · intro h
    rw [splitTitle_of_not h]

/-! ### Escaped titles -/

theorem mem_escapeFrom {p : Position} (h : c ∈ escapeFrom p cs) : c = '\\' ∨ c ∈ cs := by
  induction cs generalizing p with
  | nil => cases h
  | cons d cs ih =>
    rw [escapeFrom, List.mem_append] at h
    rcases h with h | h
    · have hwritten : c = '\\' ∨ c = d := by split at h <;> simp_all
      exact hwritten.imp_right fun hc => List.mem_cons.2 (.inl hc)
    · exact (ih h).imp_right (List.mem_cons_of_mem d)

theorem getLast?_escapeFrom (p : Position) (cs : List Char) :
    (escapeFrom p cs).getLast? = cs.getLast? := by
  induction cs generalizing p with
  | nil => rfl
  | cons c cs ih =>
    rw [escapeFrom, List.getLast?_append, ih]
    cases cs with
    | nil => split <;> rfl
    | cons d cs => simp [List.getLast?_cons]

/-! ### First lines -/

/-- Whether a text goes on behind a line: it is empty or begins with a line feed. -/
def EndsLine (tail : List Char) : Prop := ∀ c ∈ tail.head?, c = '\n'

theorem EndsLine.append {tail' : List Char} (h : EndsLine tail) (h' : EndsLine tail') :
    EndsLine (tail ++ tail') := by
  cases tail with
  | nil => exact h'
  | cons c tail => exact h

theorem EndsLine.exists_append_lineFeed (h : EndsLine tail) :
    ∃ more, tail ++ ['\n'] = '\n' :: more := by
  cases tail with
  | nil => exact ⟨[], rfl⟩
  | cons c tail => exact ⟨tail ++ ['\n'], by rw [h c rfl, List.cons_append]⟩

theorem lines_append (hfeed : '\n' ∉ line) (hreturn : line.getLast? ≠ some '\r')
    (hne : line ≠ []) (htail : EndsLine tail) : ∃ more, lines (line ++ tail) = line :: more := by
  cases tail with
  | nil =>
    refine ⟨[], ?_⟩
    rw [List.append_nil, lines, linesKept_of_not_mem hfeed hne, List.map_singleton,
      withoutEnding_of_not_mem hfeed]
  | cons c tail =>
    have hc : c = '\n' := htail c rfl
    subst hc
    refine ⟨lines tail, ?_⟩
    rw [lines, linesKept_cons hfeed, List.map_cons, withoutEnding_concat_of_getLast? hreturn, lines]

theorem endsLine_join (line : List Char) (more : List (List Char)) :
    ∃ tail, join ['\n'] (line :: more) = line ++ tail ∧ EndsLine tail := by
  cases more with
  | nil => exact ⟨[], by rw [join, List.append_nil], nofun⟩
  | cons next more =>
    refine ⟨['\n'] ++ join ['\n'] (next :: more), ?_, fun c hc => by cases hc; rfl⟩
    rw [join_cons line (List.cons_ne_nil _ _), List.append_assoc]

/-- The first line of a text stands behind the mark of a quote. -/
theorem quoteLines_append (hfeed : '\n' ∉ line) (hreturn : line.getLast? ≠ some '\r')
    (hne : line ≠ []) (htail : EndsLine tail) :
    ∃ tail', quoteLines (line ++ tail) = '>' :: ' ' :: line ++ tail' ∧ EndsLine tail' := by
  obtain ⟨more, hlines⟩ := lines_append hfeed hreturn hne htail
  rw [quoteLines, mapLines, hlines, List.map_cons, if_neg (by simpa using hne)]
  exact endsLine_join _ _

theorem calloutHead_eq (context : Context) (icon : String)
    (h : splitTitle runs = (some title, body)) :
    ∃ tail, calloutHead context runs icon =
      markerLine (context.options.callouts.nameFor icon).toList (escape false title) ++ tail ∧
        EndsLine tail := by
  refine ⟨if (renderRuns context.runs body).isEmpty then []
    else '\n' :: renderRuns context.runs body, ?_, ?_⟩
  · rw [calloutHead, h]
    simp [markerLine]
  · split
    · exact nofun
    · exact fun c hc => by cases hc; rfl

theorem withNested_append (hne : line ≠ []) (htail : EndsLine tail) (nested : List Char) :
    ∃ tail', withNested (line ++ tail) nested = line ++ tail' ∧ EndsLine tail' := by
  have hfull : (line ++ tail).isEmpty = false := by simp [hne]
  rw [withNested, hfull]
  split
  · exact ⟨tail, rfl, htail⟩
  · refine ⟨tail ++ '\n' :: '\n' :: nested, ?_, htail.append fun c hc => by cases hc; rfl⟩
    rw [if_neg (by decide), List.append_assoc]

theorem lineFeed_not_mem_markerLine {name : List Char} (hname : '\n' ∉ name)
    (hline : '\n' ∉ title) : '\n' ∉ markerLine name (escape false title) := by
  have hescaped : '\n' ∉ escape false title := fun hmem =>
    (mem_escapeFrom hmem).elim (by decide) hline
  simp [markerLine, hname, hescaped]

theorem getLast?_markerLine {name : List Char} (h : Tight title) :
    (markerLine name (escape false title)).getLast? = title.getLast? := by
  have hlast : (escape false title).getLast? = title.getLast? := getLast?_escapeFrom _ title
  have hne : escape false title ≠ [] := by
    intro hnil
    rw [hnil] at hlast
    exact h.1 (List.getLast?_eq_none_iff.1 hlast.symm)
  have hparts : markerLine name (escape false title) =
      '[' :: '!' :: (name ++ [']', ' ']) ++ escape false title := by simp [markerLine]
  rw [hparts, List.getLast?_append_of_ne_nil _ hne, hlast]

theorem exists_renderBlock_callout {depth number : Nat} {id : Option String}
    {children : List Block} {text : List Char} (hicon : icon ≠ localImageIcon)
    (h : renderBlock context depth number ⟨id, .callout runs icon .default, children⟩ = .ok text) :
    ∃ nested, text = quoteLines (withNested (calloutHead context runs icon) nested) := by
  have hfence : queryFence? context runs icon .default = none := by simp [queryFence?]
  have himage : localImagePath? runs icon = none := if_neg hicon
  rw [renderBlock, hfence, himage] at h
  obtain ⟨nested, -, htext⟩ := bind_eq_ok_iff.1 h
  cases htext
  exact ⟨nested, rfl⟩

/-- The name and title of a callout are the first line of its quote. -/
theorem renderBlock_callout (context : Context) {depth number : Nat} {id : Option String}
    {children : List Block} {name text : List Char} (hicon : icon ≠ localImageIcon)
    (hname : (context.options.callouts.nameFor icon).toList = name) (hfeed : '\n' ∉ name)
    (hsplit : splitTitle runs = (some title, body)) (htight : Tight title) (hline : '\n' ∉ title)
    (h : renderBlock context depth number ⟨id, .callout runs icon .default, children⟩ = .ok text) :
    ∃ tail, text = '>' :: ' ' :: markerLine name (escape false title) ++ tail ∧ EndsLine tail := by
  obtain ⟨nested, rfl⟩ := exists_renderBlock_callout hicon h
  obtain ⟨tail, hhead, htail⟩ := calloutHead_eq context icon hsplit
  have hne : markerLine name (escape false title) ≠ [] := List.cons_ne_nil _ _
  have hreturn : (markerLine name (escape false title)).getLast? ≠ some '\r' := by
    rw [getLast?_markerLine htight]
    exact fun hlast => htight.getLast? _ hlast (by decide)
  obtain ⟨tail', hnested, htail'⟩ := withNested_append hne htail nested
  rw [hhead, hname, hnested]
  exact quoteLines_append (lineFeed_not_mem_markerLine hfeed hline) hreturn hne htail'

end NoteBridge.Render
