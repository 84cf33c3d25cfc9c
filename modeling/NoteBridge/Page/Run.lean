import NoteBridge.Page.Style
import NoteBridge.Text.Search

/-!
Runs, the units of styled text on a page. A text run may carry a link, a mention names a page and
shows a text for it, an equation holds an expression. Runs are merged where nothing tells two
neighbours apart, and cut to the length that a page accepts, at a line end where there is one.
-/

namespace NoteBridge.Page

inductive RunKind
  | text (link : Option String)
  | mention (page : String)
  | equation
deriving DecidableEq, Repr

structure Run where
  content : String
  style : Style := {}
  kind : RunKind := .text none
deriving DecidableEq, Repr

namespace Run

def text (content : String) (style : Style := {}) : Run := { content, style }

def linked (content url : String) (style : Style := {}) : Run :=
  { content, style, kind := .text (some url) }

def mention (content page : String) (style : Style := {}) : Run :=
  { content, style, kind := .mention page }

def equation (content : String) (style : Style := {}) : Run :=
  { content, style, kind := .equation }

def chars (run : Run) : List Char := run.content.toList

def isText (run : Run) : Bool :=
  match run.kind with
  | .text _ => true
  | _ => false

def link? (run : Run) : Option String :=
  match run.kind with
  | .text link => link
  | _ => none

/-- The run with its text replaced. -/
def withChars (run : Run) (cs : List Char) : Run := { run with content := String.ofList cs }

end Run

/-- The text of the runs without any styling. -/
def plainChars (runs : List Run) : List Char := runs.flatMap Run.chars

def plainText (runs : List Run) : String := String.ofList (plainChars runs)

/-- The greatest number of characters in one run. -/
def runLimit : Nat := 2000

/-- Where to cut a text that is longer than `limit`: behind the last line feed among its first
`limit` characters, or behind all of them. -/
def cutPoint (limit : Nat) (cs : List Char) : Nat :=
  let line := Text.dropEndWhile (· != '\n') (cs.take limit)
  if line.isEmpty then limit else line.length

theorem cutPoint_pos {limit : Nat} (h : 0 < limit) (cs : List Char) : 0 < cutPoint limit cs := by
  unfold cutPoint
  simp only
  split
  · exact h
  · next hne => exact List.length_pos_iff.2 (by simpa using hne)

/-- The pieces of a text, each of at most `limit` characters; a limit of zero counts as one. -/
def splitText (limit : Nat) (cs : List Char) : List (List Char) :=
  if h : max limit 1 < cs.length then
    have : (cs.drop (cutPoint (max limit 1) cs)).length < cs.length := by
      have hpos : 0 < cutPoint (max limit 1) cs := cutPoint_pos (by omega) cs
      rw [List.length_drop]
      omega
    cs.take (cutPoint (max limit 1) cs) :: splitText limit (cs.drop (cutPoint (max limit 1) cs))
  else if cs.isEmpty then []
  else [cs]
termination_by cs.length
decreasing_by exact this

/-- Whether two neighbours read as one run. -/
def Run.joins (a b : Run) : Bool := a.isText && a.kind == b.kind && a.style == b.style

/-- Drops empty text runs and joins neighbours that nothing tells apart. -/
def mergeRuns : List Run → List Run
  | [] => []
  | run :: rest =>
    if run.isText && run.chars.isEmpty then mergeRuns rest
    else
      match mergeRuns rest with
      | [] => [run]
      | next :: runs =>
        if run.joins next then run.withChars (run.chars ++ next.chars) :: runs
        else run :: next :: runs

/-- The runs that hold what one run holds, none above the limit. An equation that is too long
becomes code, and the text shown for a mention is cut. -/
def Run.bounded (run : Run) : List Run :=
  if run.chars.length ≤ runLimit then [run]
  else
    match run.kind with
    | .text _ => (splitText runLimit run.chars).map run.withChars
    | .equation =>
      (splitText runLimit run.chars).map fun piece =>
        .text (String.ofList piece) { run.style with code := true }
    | .mention _ => [run.withChars (run.chars.take runLimit)]

def boundRuns (runs : List Run) : List Run := runs.flatMap Run.bounded

end NoteBridge.Page
