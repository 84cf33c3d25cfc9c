import NoteBridge.Json.Basic

/-!
Tables of TOML and how statements build them. A table is headed when its own line names it, implied
when the line of a table inside of it comes first, and dotted when keys with dots made it. A headed
table takes no further heading and no dotted keys from outside; what brackets hold is a plain value
and takes neither.
-/

namespace NoteBridge.Toml

inductive Origin
  | headed
  | implied
  | dotted
deriving DecidableEq

inductive Part
  | value (value : Json)
  | table (origin : Origin) (parts : List (String × Part))
  | tables (last : List (String × Part)) (before : List (List (String × Part)))

abbrev Parts := List (String × Part)

/-- A key behind the tables that it names on the way. -/
structure Key where
  path : List String
  last : String

def Key.steps (key : Key) : List String := key.path ++ [key.last]

/-- The lines of a text: the heading of a table, the heading of the next table in a list, and a key
with a value. -/
inductive Statement
  | table (key : Key)
  | nextTable (key : Key)
  | entry (key : Key) (value : Json)

namespace Parts

/-- Changes the table at the end of a path. Tables that are missing on the way are made there, and
of the tables in a list the last one is meant. -/
def change (made : Origin) (f : Origin → Parts → Option Parts) :
    List String → Origin → Parts → Option Parts
  | [], origin, parts => f origin parts
  | key :: path, _, parts =>
    match Entries.find? key parts with
    | none => do
      let inner ← change made f path made []
      some (Entries.insert key (.table made inner) parts)
    | some (.table origin inner) =>
      if made = .dotted ∧ origin = .headed then none
      else do
        let inner ← change made f path origin inner
        some (Entries.insert key (.table origin inner) parts)
    | some (.tables last before) => do
      let last ← change made f path .headed last
      some (Entries.insert key (.tables last before) parts)
    | some (.value _) => none

/-- Adds an entry. A key with dots leads to a table that such keys have made. -/
def addEntry (key : Key) (value : Json) (parts : Parts) : Option Parts :=
  let add (origin : Origin) (parts : Parts) : Option Parts :=
    if (!key.path.isEmpty && origin != .dotted) || (Entries.find? key.last parts).isSome then none
    else some (Entries.insert key.last (.value value) parts)
  change .dotted add key.path .headed parts

def addTable (key : Key) (parts : Parts) : Option Parts :=
  let add (_ : Origin) (parts : Parts) : Option Parts :=
    match Entries.find? key.last parts with
    | none => some (Entries.insert key.last (.table .headed []) parts)
    | some (.table .implied inner) => some (Entries.insert key.last (.table .headed inner) parts)
    | _ => none
  change .implied add key.path .headed parts

def addNextTable (key : Key) (parts : Parts) : Option Parts :=
  let add (_ : Origin) (parts : Parts) : Option Parts :=
    match Entries.find? key.last parts with
    | none => some (Entries.insert key.last (.tables [] []) parts)
    | some (.tables last before) =>
      some (Entries.insert key.last (.tables [] (last :: before)) parts)
    | _ => none
  change .implied add key.path .headed parts

/-- Adds the statements one after another; `heading` leads to the table that entries belong to. -/
def addAll (heading : List String) (parts : Parts) : List Statement → Option Parts
  | [] => some parts
  | .table key :: statements => do addAll key.steps (← addTable key parts) statements
  | .nextTable key :: statements => do addAll key.steps (← addNextTable key parts) statements
  | .entry key value :: statements => do
    let parts ← change .implied (fun _ parts => addEntry key value parts) heading .headed parts
    addAll heading parts statements

/-- The table of the statements, if they agree with each other. -/
def ofStatements (statements : List Statement) : Option Parts := addAll [] [] statements

end Parts

mutual

def Part.toJson : Part → Json
  | .value value => value
  | .table _ parts => .obj (Parts.fields parts)
  | .tables last before => .arr ((Parts.items before).reverse ++ [.obj (Parts.fields last)])

def Parts.fields : List (String × Part) → List (String × Json)
  | [] => []
  | (key, part) :: parts => (key, part.toJson) :: Parts.fields parts

def Parts.items : List (List (String × Part)) → List Json
  | [] => []
  | table :: tables => .obj (Parts.fields table) :: Parts.items tables

end

def Parts.toJson (parts : Parts) : Json := .obj (Parts.fields parts)

end NoteBridge.Toml
