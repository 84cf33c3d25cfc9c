import NoteBridge.Markdown.Cursor
import NoteBridge.Number.Reader

/-!
The marks at the start of a line that make it a heading, a rule, a fence or an item of a list. Each
reader takes the text of the line from its first character that is no space or tab on.
-/

namespace NoteBridge.Markdown

open Text

/-! ### Headings -/

/-- Heading content without the row of number signs that may close it. -/
def headingContent (cs : List Char) : List Char :=
  let content := dropEndWhile isSpacing cs
  let opened := dropEndWhile (· == '#') content
  match opened.getLast? with
  | none => []
  | some c =>
    if opened.length < content.length && isSpaceOrTab c then dropEndWhile isSpacing opened
    else content

/-- Level and content of a heading: up to six number signs, then a space or the end. -/
def heading? (cs : List Char) : Option (Nat × List Char) :=
  let level := (cs.takeWhile (· == '#')).length
  let rest := cs.drop level
  let content := rest.dropWhile isSpaceOrTab
  if 1 ≤ level ∧ level ≤ 6 ∧ (rest.isEmpty ∨ content.length < rest.length) then
    some (level, headingContent content)
  else none

/-- The level of a heading whose underline this line is. -/
def underline? (cs : List Char) : Option Nat :=
  let all (mark : Char) := (cs.dropWhile (· == mark)).all isSpaceOrTab
  match cs with
  | '=' :: _ => if all '=' then some 1 else none
  | '-' :: _ => if all '-' then some 2 else none
  | _ => none

/-- Whether the line is a rule: three or more of one mark, with nothing but spaces between. -/
def isRule : List Char → Bool
  | [] => false
  | c :: cs =>
    ['*', '_', '-'].contains c && cs.all (fun d => d == c || isSpaceOrTab d) && 2 ≤ cs.count c

/-! ### Fences -/

structure Fence where
  mark : Char
  length : Nat
deriving DecidableEq

def rowLength (mark : Char) (cs : List Char) : Nat := (cs.takeWhile (· == mark)).length

/-- The fence that opens a code block. A fence of backticks has none behind it. -/
def Fence.read? (cs : List Char) : Option Fence :=
  match cs with
  | [] => none
  | mark :: _ =>
    let length := rowLength mark cs
    if length < 3 then none
    else if mark = '~' then some ⟨mark, length⟩
    else if mark = '\x60' ∧ !(cs.drop length).contains mark then some ⟨mark, length⟩
    else none

/-- Whether a line closes the block that the fence opened. -/
def Fence.isClosedBy (fence : Fence) (cs : List Char) : Bool :=
  let length := rowLength fence.mark cs
  fence.length ≤ length && (cs.drop length).all isSpaceOrTab

/-! ### Lists -/

/-- The mark of a list item. -/
inductive Bullet
  | mark (c : Char)
  | number (start : Nat) (delimiter : Char)
deriving DecidableEq

/-- Whether items with these marks belong to one list. -/
def Bullet.continues : Bullet → Bullet → Bool
  | mark c, mark d => c == d
  | number _ c, number _ d => c == d
  | _, _ => false

def Bullet.isOrdered : Bullet → Bool
  | mark _ => false
  | number _ _ => true

/-- The number of the first item; without numbers it counts as one. -/
def Bullet.start : Bullet → Nat
  | mark _ => 1
  | number start _ => start

/-- The most digits of an item's number. -/
def digitLimit : Nat := 9

/-- The mark and its length, which a space or the end of the line must follow. -/
def bulletAt? (cs : List Char) : Option (Bullet × Nat) :=
  match cs with
  | [] => none
  | c :: _ =>
    if ['*', '-', '+'].contains c then some (.mark c, 1)
    else
      let digits := (cs.takeWhile Number.isDigit).take digitLimit
      match cs.drop digits.length with
      | d :: _ =>
        if digits.isEmpty then none
        else if d = '.' ∨ d = ')' then
          some (.number (Number.natOfDigits digits) d, digits.length + 1)
        else none
      | [] => none

/-- Reads the mark of an item. Inside a paragraph only an item with content, and if it has a number
with the number one, begins a list. -/
def Bullet.read? (inParagraph : Bool) (cs : List Char) : Option (Bullet × Nat) := do
  let (bullet, length) ← bulletAt? cs
  let rest := cs.drop length
  let spaced := match rest with
    | [] => true
    | c :: _ => isSpacing c
  if !spaced then none
  else if inParagraph && (bullet.start != 1 || rest.all isSpaceOrTab) then none
  else some (bullet, length)

end NoteBridge.Markdown
