import NoteBridge.Json.Printer
import NoteBridge.Text.Lines

/-!
The front matter of a note: a block between two delimiter lines at its start, whose content is a
record. The record's tags are those of its `tags` entry, or else of its `tag` entry.
-/

namespace NoteBridge

abbrev Record := Dict Json

namespace FrontMatter

open Text

def delimiter : List Char := ['-', '-', '-']

def isLineEnd (c : Char) : Bool := c == '\n' || c == '\r'

/-- The lines before the first delimiter line, and the text from behind its three hyphens on. -/
def closing? : List (List Char) → Option (List Char × List Char)
  | [] => none
  | line :: lines =>
    if dropEndWhile isLineEnd line = delimiter then
      some ([], line.drop delimiter.length ++ lines.flatten)
    else (closing? lines).map fun (before, after) => (line ++ before, after)

/-- The front matter and the body of a note. Without both delimiter lines all of it is body. -/
def splitChars (cs : List Char) : Option (List Char) × List Char :=
  match ((after? delimiter cs).bind afterLineEnd?).bind fun rest => closing? (linesKept rest) with
  | some (matter, rest) => (some matter, (afterLineEnd? rest).getD rest)
  | none => (none, cs)

def tagEntry? (record : Record) : Option Json := record.find? "tags" <|> record.find? "tag"

def itemTag? : Json → Option (List Char)
  | .str s => some s.toList
  | .int n => some (Json.numberText (.int n)).toList
  | .real x => some (Json.numberText (.real x)).toList
  | _ => none

/-- A tag without blanks around it and number signs before it. -/
def cleanTag (cs : List Char) : List Char := (trim cs).dropWhile (· == '#')

/-- The tags of a record. A text is parted at commas and blanks. -/
def tags (record : Record) : List String :=
  let raw := match tagEntry? record with
    | some (.arr items) => items.filterMap itemTag?
    | some (.str s) => splitWhere (fun c => c == ',' || isBlank c) s.toList
    | _ => []
  ((raw.map cleanTag).filter (!·.isEmpty)).map String.ofList

end FrontMatter
end NoteBridge
