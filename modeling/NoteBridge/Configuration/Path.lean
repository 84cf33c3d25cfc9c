import NoteBridge.Json.Basic
import NoteBridge.Number.Reader
import NoteBridge.Number.Word
import NoteBridge.Text.Small

/-!
Paths to the settings of a configuration: keys with dots between them, and positions in brackets
behind those whose value is a list. Capitals in keys do not count. Tables are merged key by key,
every other value takes the place of what was there.
-/

namespace NoteBridge.Configuration

open Text (isSpaceOrTab toAsciiLower toSmallString)

inductive Step
  | key (name : String)
  | position (index : Int)
deriving DecidableEq

/-- A path begins at a key of the configuration. -/
structure Path where
  first : String
  rest : List Step := []
deriving DecidableEq

/-! ### Their text -/

def isNameChar (c : Char) : Bool := c.isAlphanum || c == ' ' || c == '_' || c == '-'

def name? (cs : List Char) : Option (String × List Char) :=
  let word := cs.takeWhile isNameChar
  if word.isEmpty then none
  else some (String.ofList (toAsciiLower word), cs.dropWhile isNameChar)

/-- A position of 64 bits, with blanks around it. A negative one counts from the end. -/
def position? (cs : List Char) : Option (Int × List Char) :=
  let cs := cs.dropWhile isSpaceOrTab
  let negative := cs.head? == some '-'
  let digits := (if negative then cs.drop 1 else cs).takeWhile Number.isDigit
  let rest := (if negative then cs.drop 1 else cs).dropWhile Number.isDigit
  let n : Int := Number.natOfDigits digits
  let index := if negative then -n else n
  if digits.isEmpty || !Number.fitsSigned 64 index then none
  else some (index, rest.dropWhile isSpaceOrTab)

def steps? : Nat → List Char → Option (List Step)
  | _, [] => some []
  | fuel + 1, '.' :: cs => do
    let (name, rest) ← name? cs
    some (.key name :: (← steps? fuel rest))
  | fuel + 1, '[' :: cs => do
    match ← position? cs with
    | (index, ']' :: rest) => some (.position index :: (← steps? fuel rest))
    | _ => none
  | _, _ => none

def Path.read? (cs : List Char) : Option Path := do
  let (first, rest) ← name? cs
  some ⟨first, ← steps? rest.length rest⟩

/-! ### Setting values -/

/-- The fields of a table; another value has none. -/
def fieldsOf : Json → List (String × Json)
  | .obj fields => fields
  | _ => []

/-- The items of a list; another value has none. -/
def itemsOf : Json → List Json
  | .arr items => items
  | _ => []

mutual

/-- Puts a value under a key. A table is merged into what is there. -/
def put (key : String) (root : Json) : Json → Json
  | .obj fields =>
    let name := toSmallString key
    let there := (Entries.find? name (fieldsOf root)).getD (.obj [])
    .obj (Entries.insert name (merge there fields) (fieldsOf root))
  | value => .obj (Entries.insert (toSmallString key) value (fieldsOf root))

def merge (root : Json) : List (String × Json) → Json
  | [] => root
  | (key, value) :: fields => merge (put key root value) fields

end

/-- Changes an item of a list. A list that is too short is filled up with nulls, at the end that the
position counts from. -/
def changeItem (f : Json → Json) (index : Int) (items : List Json) : List Json :=
  let absolute := if index < 0 then index + items.length else index
  let items :=
    if absolute < 0 then List.replicate absolute.natAbs .null ++ items
    else items ++ List.replicate (absolute.toNat + 1 - items.length) .null
  items.modify absolute.toNat f

/-- Changes the part of a value that a step leads to; it is null when it is not there. -/
def Step.change (f : Json → Json) : Step → Json → Json
  | key name, root =>
    .obj (Entries.insert name (f ((Entries.find? name (fieldsOf root)).getD .null)) (fieldsOf root))
  | position index, root => .arr (changeItem f index (itemsOf root))

/-- Sets the value at the end of some steps, the first one given apart. -/
def setAt (value : Json) : Step → List Step → Json → Json
  | .key name, [], root => put name root value
  | .position index, [], root => Step.change (fun _ => value) (.position index) root
  | step, next :: steps, root => step.change (setAt value next steps) root

def Path.set (path : Path) (value root : Json) : Json :=
  setAt value (.key path.first) path.rest root

end NoteBridge.Configuration
