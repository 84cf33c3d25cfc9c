import NoteBridge.FrontMatter
import NoteBridge.Yaml.Node
import NoteBridge.Yaml.Plain

/-!
The record that a text of YAML holds. Its top is a mapping, whose keys are the texts of scalars.
Values are those of JSON, so what JSON cannot hold makes the text unreadable: large integers, and
values with tags of their own.
-/

namespace NoteBridge.Yaml

namespace Node

/-- The deepest nesting that is read. -/
def depthLimit : Nat := 128

/-- How many references are followed for each part of a text. -/
def jumpsForPart : Nat := 100

/-- Values are read with a number of references that may still be followed. -/
abbrev Reading := StateT Nat Option

/-- The node that a reference stands for. -/
def target (marked : List (Nat × Node)) : Node → Reading Node
  | .reference mark => do
    match ← get with
    | 0 => failure
    | jumps + 1 =>
      set jumps
      match marked.lookup mark with
      | some node => return node
      | none => failure
  | node => return node

def isLocal (tag : Option (List Char)) : Bool := tag.any fun t => t.head? == some '!'

def commonTag (name : String) : List Char := ("tag:yaml.org,2002:" ++ name).toList

def integer? (n : Int) : Option Json :=
  if Number.fitsSigned 64 n || Number.fitsUnsigned 64 n then some (.int n) else none

def number (x : Double) : Json := if x.isFinite then .real x else .null

def plainValue? (content : List Char) : Option Json :=
  match Plain.ofText content with
  | .null => some .null
  | .bool value => some (.bool value)
  | .int value => integer? value
  | .real value => some (number value)
  | .text => some (.str (String.ofList content))

/-- The value of a scalar. A tag says what it must be, the form of plain text what it is. -/
def scalarValue? (tag : Option (List Char)) (plain : Bool) (content : List Char) : Option Json :=
  let s := String.ofList content
  match tag with
  | none => if plain then plainValue? content else some (.str s)
  | some t =>
    if isLocal tag then none
    else if t = commonTag "bool" then (Plain.bool? s).map Json.bool
    else if t = commonTag "int" then (Plain.int? content).bind integer?
    else if t = commonTag "float" then (Plain.double? content).map number
    else if t = commonTag "null" then if Plain.nulls.contains s then some .null else none
    else some (.str s)

/-- The text of a key. -/
def keyText (marked : List (Nat × Node)) (node : Node) : Reading String := do
  match ← target marked node with
  | .scalar _ _ content => return String.ofList content
  | _ => failure

def value (marked : List (Nat × Node)) : Nat → Node → Reading Json
  | depth, node => do
    match ← target marked node, depth with
    | .scalar tag plain content, _ => StateT.lift (scalarValue? tag plain content)
    | .sequence tag items, depth + 1 =>
      if isLocal tag then failure
      else return .arr (← items.mapM (value marked depth))
    | .mapping tag entries, depth + 1 =>
      if isLocal tag then failure
      else
        let fields ← entries.mapM fun (key, item) => do
          return (← keyText marked key, ← value marked depth item)
        return .object fields
    | _, _ => failure

def record (marked : List (Nat × Node)) (node : Node) : Reading Record := do
  match node with
  | .mapping _ entries =>
    let fields ← entries.mapM fun (key, item) => do
      return (← keyText marked key, ← value marked (depthLimit - 1) item)
    return Dict.ofList fields
  | _ => failure

end Node

/-- The record of a text that is one mapping. -/
def record? (cs : List Char) : Option Record := do
  let (node, reader) ← Read.document? (← tokens? cs)
  let (record, _) ← (node.record reader.marked).run (Node.jumpsForPart * reader.parts)
  return record

/-- The record of a text; a text without one has the empty record. -/
def recordOf (cs : List Char) : Record := (record? cs).getD {}

end NoteBridge.Yaml
