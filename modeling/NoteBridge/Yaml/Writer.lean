import NoteBridge.FrontMatter
import NoteBridge.Yaml.Scalar

/-!
Values as text of YAML, in blocks. Entries of a mapping are indented two columns deeper than the
mapping around them, items of a sequence are not indented inside of a mapping. Empty collections
are written as flows.
-/

namespace NoteBridge.Yaml

open Scalar (indentation)

/-- Ends the line, unless a block of lines has ended it. -/
def endLine (cs : List Char) : List Char :=
  if cs.getLast?.any isBreak then cs else cs ++ ['\n']

/-- The columns of one level. -/
def level : Nat := 2

/-- A value that takes no lines of its own. -/
def scalarText? (indent : Nat) : Json → Option (List Char)
  | .null => some "null".toList
  | .bool value => some (if value then "true".toList else "false".toList)
  | .int n => some (toString n).toList
  | .real x => some (Layout.yaml.format x).toList
  | .str s => some (Scalar.write indent s.toList)
  | .arr [] => some ['[', ']']
  | .obj [] => some ['\x7b', '\x7d']
  | _ => none

mutual

/-- The lines of a collection at an indentation, the first one without it. -/
def lines (indent : Nat) : Json → List Char
  | .arr items => itemLines indent true items
  | .obj fields => fieldLines indent true fields
  | value => endLine ((scalarText? indent value).getD [])

/-- The items of a sequence. -/
def itemLines (indent : Nat) (first : Bool) : List Json → List Char
  | [] => []
  | item :: items =>
    let start := if first then [] else indentation indent
    let text :=
      match scalarText? (indent + level) item with
      | some text => endLine ('-' :: ' ' :: text)
      | none => '-' :: ' ' :: lines (indent + level) item
    start ++ text ++ itemLines indent false items

/-- The entries of a mapping. A key that is too long or has several lines gets a mark, and its value
a line of its own. -/
def fieldLines (indent : Nat) (first : Bool) : List (String × Json) → List Char
  | [] => []
  | (key, value) :: fields =>
    let start := if first then [] else indentation indent
    let name := key.toList
    let text :=
      if Scalar.isSimpleKey name then
        let head := Scalar.write indent name ++ [':']
        match scalarText? (indent + level) value, value with
        | some text, _ => endLine (head ++ ' ' :: text)
        | none, .arr items => head ++ '\n' :: indentation indent ++ itemLines indent true items
        | none, value =>
          head ++ '\n' :: indentation (indent + level) ++ lines (indent + level) value
      else
        let head := endLine ('?' :: ' ' :: Scalar.write (indent + level) name)
        match scalarText? (indent + level) value with
        | some text => head ++ endLine (indentation indent ++ ':' :: ' ' :: text)
        | none => head ++ indentation indent ++ ':' :: ' ' :: lines (indent + level) value
    start ++ text ++ fieldLines indent false fields

end

/-- The text of a record. -/
def write (record : Record) : List Char := fieldLines 0 true record.entries

end NoteBridge.Yaml

namespace NoteBridge.FrontMatter

/-- A note from its record and body. Without entries there is no front matter. -/
def render (record : Record) (body : List Char) : List Char :=
  if record.isEmpty then body
  else delimiter ++ '\n' :: Yaml.write record ++ delimiter ++ '\n' :: '\n' :: body

end NoteBridge.FrontMatter
