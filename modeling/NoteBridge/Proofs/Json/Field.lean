import NoteBridge.Json.Record

/-!
Looking up the fields of an object that was put together from a list. Of two fields with one key
the later one is found, so the list is searched from its end.
-/

namespace NoteBridge

variable {α : Type}

theorem Entries.find?_append (key : String) (first second : List (String × α)) :
    find? key (first ++ second) = (find? key first <|> find? key second) := by
  induction first with
  | nil => rfl
  | cons entry rest ih =>
    obtain ⟨k, v⟩ := entry
    by_cases h : k = key
    · simp [find?, h]
    · simp [find?, h, ih]

theorem Entries.find?_ofList (key : String) (pairs : List (String × α)) :
    find? key (ofList pairs) = find? key pairs.reverse := by
  have insertion : ∀ entries : List (String × α),
      find? key (pairs.foldl (fun entries entry => insert entry.1 entry.2 entries) entries) =
        (find? key pairs.reverse <|> find? key entries) := by
    induction pairs with
    | nil => exact fun _ => rfl
    | cons pair rest ih =>
      intro entries
      obtain ⟨k, v⟩ := pair
      rw [List.foldl_cons, ih, List.reverse_cons, find?_append, find?_insert]
      cases find? key rest.reverse <;> by_cases h : k = key <;> simp [find?, h]
  refine (insertion []).trans ?_
  simp [find?]

namespace Json

theorem field?_object (key : String) (fields : List (String × Json)) :
    (object fields).field? key = Entries.find? key fields.reverse :=
  Entries.find?_ofList key fields

theorem record?_object (names : List String) (fields : List (String × Json)) :
    (object fields).record? names =
      some (names.map fun name => Entries.find? name fields.reverse) := by
  simp only [object, record?, Entries.find?_ofList]

end Json
end NoteBridge
