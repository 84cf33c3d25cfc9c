import NoteBridge.Text.Blank
import NoteBridge.Text.Letter
import NoteBridge.Text.Numeral

/-!
Tags inside a text: a number sign at its start, behind a blank or behind an opening parenthesis,
and a name of letters, numbers, underscores, slashes and hyphens that begins with none of the last
two. A name of digits alone is no tag.
-/

namespace NoteBridge.Markdown.Tag

open Text

def startsName (c : Char) : Bool := isLetter c || isNumeral c || c == '_'

def inName (c : Char) : Bool := startsName c || c == '/' || c == '-'

/-- The names in a text whose first character can begin a tag or not. -/
def names (canStart : Bool) : List Char → List (List Char)
  | [] => []
  | c :: cs =>
    if canStart && c == '#' && cs.head?.any startsName then
      let name := cs.takeWhile inName
      name :: names false (cs.drop name.length)
    else names (isBlank c || c == '(') cs
termination_by cs => cs.length
decreasing_by
  all_goals
    simp only [List.length_drop, List.length_cons]
    omega

def isTag (name : List Char) : Bool := !name.all fun c => '0' ≤ c && c ≤ '9'

/-- The tags of a text in their order. -/
def inText (cs : List Char) : List String :=
  ((names true cs).filter isTag).map String.ofList

end NoteBridge.Markdown.Tag
