import NoteBridge.Text.Search

/-!
Lines. A line ends with a line feed, and a carriage return before that line feed belongs to the
ending; what stands after the last ending is a line only if it is not empty.
-/

namespace NoteBridge.Text

/-- The lines with their line feeds kept. -/
def linesKept : List Char → List (List Char)
  | [] => []
  | c :: cs =>
    if c = '\n' then [c] :: linesKept cs
    else
      match linesKept cs with
      | [] => [[c]]
      | line :: lines => (c :: line) :: lines

/-- The text after one line ending, if the text begins with one. -/
def afterLineEnd? (cs : List Char) : Option (List Char) :=
  match cs with
  | '\n' :: rest => some rest
  | '\r' :: '\n' :: rest => some rest
  | _ => none

/-- A line without its ending. -/
def withoutEnding (line : List Char) : List Char :=
  match before? ['\n'] line with
  | none => line
  | some bare => (before? ['\r'] bare).getD bare

def lines (cs : List Char) : List (List Char) := (linesKept cs).map withoutEnding

end NoteBridge.Text
