import NoteBridge.Text.Blank

/-!
Finding, cutting and joining. `cut?` splits at the first place where a text stands, which is the
one search the library needs: everything before the place holds no earlier one.
-/

namespace NoteBridge.Text

/-- The text before the first `needle`, and the text after it. -/
def cut? (needle : List Char) : List Char → Option (List Char × List Char)
  | [] => if needle.isEmpty then some ([], []) else none
  | c :: cs =>
    if needle.isPrefixOf (c :: cs) then some ([], (c :: cs).drop needle.length)
    else (cut? needle cs).map fun (before, after) => (c :: before, after)

/-- The text after `start`, when the text begins with it. -/
def after? : List Char → List Char → Option (List Char)
  | [], cs => some cs
  | _ :: _, [] => none
  | s :: start, c :: cs => if s = c then after? start cs else none

/-- The text before `ending`, when the text ends with it. -/
def before? (ending cs : List Char) : Option (List Char) :=
  (after? ending.reverse cs.reverse).map List.reverse

def endsWith (ending cs : List Char) : Bool := ending.reverse.isPrefixOf cs.reverse

/-- The pieces between the characters that satisfy `p`; a text with none of them is one piece. -/
def splitWhere (p : Char → Bool) : List Char → List (List Char)
  | [] => [[]]
  | c :: cs =>
    match splitWhere p cs with
    | [] => [[c]]
    | piece :: pieces => if p c then [] :: piece :: pieces else (c :: piece) :: pieces

def join (separator : List Char) : List (List Char) → List Char
  | [] => []
  | [piece] => piece
  | piece :: next :: pieces => piece ++ separator ++ join separator (next :: pieces)

/-- Every `old` character becomes the text `new`. -/
def replaceChar (old : Char) (new : List Char) (cs : List Char) : List Char :=
  cs.flatMap fun c => if c = old then new else [c]

/-- The maximal pieces without blanks. -/
def words (cs : List Char) : List (List Char) :=
  (splitWhere isBlank cs).filter (!·.isEmpty)

def toAsciiLower (cs : List Char) : List Char := cs.map Char.toLower

def eqIgnoringAsciiCase (a b : String) : Bool := toAsciiLower a.toList == toAsciiLower b.toList

end NoteBridge.Text
