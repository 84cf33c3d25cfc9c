import NoteBridge.Json.Basic

/-!
Reading records and names out of JSON. A record is an object with its fields by name, other fields
being ignored, or an array with its fields in order and none to spare. A name that stands for a
case is a string, or an object whose only field is that name and holds nothing.
-/

namespace NoteBridge.Json

/-- The fields of a record with the given names; a missing one is `none`. -/
def record? (names : List String) : Json → Option (List (Option Json))
  | obj fields => some (names.map fun name => Entries.find? name fields)
  | arr items =>
    if items.length ≤ names.length then
      some (items.map some ++ List.replicate (names.length - items.length) none)
    else none
  | _ => none

def caseName? : Json → Option String
  | str s => some s
  | obj [(name, null)] => some name
  | _ => none

/-- A field that may be missing, and then has a default. -/
def optional (read : Json → Option α) (default : α) : Option Json → Option α
  | none => some default
  | some j => read j

def required (read : Json → Option α) : Option Json → Option α
  | none => none
  | some j => read j

def listOf? (read : Json → Option α) : Json → Option (List α)
  | arr items => items.mapM read
  | _ => none

/-- A value that may be null. -/
def nullable? (read : Json → Option α) : Json → Option (Option α)
  | null => some none
  | j => (read j).map some

end NoteBridge.Json
