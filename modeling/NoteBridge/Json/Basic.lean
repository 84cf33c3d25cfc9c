import NoteBridge.Dict
import NoteBridge.Number.Double

/-!
JSON values. Integers and doubles are told apart, as the texts that wrote them were. The fields of
an object are sorted by key, which is the order of the bytes of the keys as well.
-/

namespace NoteBridge

inductive Json
  | null
  | bool (value : Bool)
  | int (value : Int)
  | real (value : Double)
  | str (value : String)
  | arr (items : List Json)
  | obj (fields : List (String × Json))

namespace Json

instance : Inhabited Json := ⟨null⟩

/-- An object from its fields in any order; of two fields with one key the later one stays. -/
def object (fields : List (String × Json)) : Json := obj (Entries.ofList fields)

/-- The value of a field; what is not an object has no fields. -/
def field? (key : String) : Json → Option Json
  | obj fields => Entries.find? key fields
  | _ => none

theorem sizeOf_find? {key : String} {fields : List (String × Json)} {j : Json}
    (h : Entries.find? key fields = some j) : sizeOf j < sizeOf fields := by
  induction fields with
  | nil => simp [Entries.find?] at h
  | cons field rest ih =>
    obtain ⟨k, v⟩ := field
    unfold Entries.find? at h
    split at h
    · cases h
      simp
      omega
    · have := ih h
      simp
      omega

theorem sizeOf_field? {key : String} {j v : Json} (h : j.field? key = some v) :
    sizeOf v < sizeOf j := by
  unfold field? at h
  split at h
  · have := sizeOf_find? h
    simp
    omega
  · cases h

def string? : Json → Option String
  | str s => some s
  | _ => none

def bool? : Json → Option Bool
  | bool b => some b
  | _ => none

def natural? : Json → Option Nat
  | int n => if 0 ≤ n then some n.toNat else none
  | _ => none

/-- A number as a double, an integer rounded to the nearest one. -/
def double? : Json → Option Double
  | int n => some (Double.ofInt n)
  | real x => some x
  | _ => none

def isNull : Json → Bool
  | null => true
  | _ => false

def isText (s : String) : Json → Bool
  | str t => t == s
  | _ => false

def stringField? (key : String) (j : Json) : Option String := (j.field? key).bind string?

def ofOption (f : α → Json) : Option α → Json
  | none => null
  | some x => f x

end Json
end NoteBridge
