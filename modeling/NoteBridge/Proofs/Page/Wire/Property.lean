import NoteBridge.Page.Wire.Property
import NoteBridge.Proofs.Dict
import NoteBridge.Proofs.Page.Fault
import NoteBridge.Proofs.Page.Wire.Run

/-!
Properties read back from their JSON form. A value is written without its type, which reading takes
from the one field that there is; so every value survives but a number that is not finite, which is
written as null, and an unknown type whose name is that of a known one.
-/

namespace NoteBridge.Page

open Json (object field?_object record?_object)

/-- The names of the types that reading tells apart. -/
def PropertyType.knownNames : List String := all.map name

/-- Whether a value stands for itself when it is written: a number is finite, and an unknown type
has none of the known names. -/
def PropertyValue.Legible (value : PropertyValue) : Prop :=
  (∀ x, value = .number (some x) → x.isFinite = true) ∧
    ∀ name, value = .unsupported name → name ∉ PropertyType.knownNames

/-! ### Types -/

theorem PropertyType.ofName?_name (type : PropertyType) : ofName? type.name = some type := by
  cases type <;> decide

theorem PropertyType.ofName?_eq_none_iff {name : String} :
    ofName? name = none ↔ name ∉ knownNames := by
  simp only [ofName?, knownNames, List.find?_eq_none, List.mem_map, beq_iff_eq, not_exists, not_and]

namespace PropertyValue

variable {value : PropertyValue}

/-- Reading a body gives a value of the type it is read for. -/
theorem type?_of_ofBody {type : PropertyType} {body : Json} (h : ofBody type body = .ok value) :
    value.type? = some type := by
  cases type with
  | title | richText =>
    obtain ⟨runs, -, hvalue⟩ := bind_eq_ok_iff.1 h
    cases hvalue
    rfl
  | multiSelect =>
    simp only [ofBody] at h
    split at h <;> cases h <;> rfl
  | date =>
    simp only [ofBody] at h
    split at h
    · cases h
      rfl
    · split at h <;> cases h
      rfl
  | number | select | checkbox | url | email | phoneNumber =>
    cases h
    rfl

/-- Reading goes by the name of the type: the given one, or else that of the first known field. -/
theorem ofJson_of_name {j : Json} {name : String}
    (h : (j.stringField? "type" <|> (PropertyType.all.map PropertyType.name).find? fun key =>
      (j.field? key).isSome) = some name) :
    ofJson j = match PropertyType.ofName? name with
      | some type => ofBody type ((j.field? name).getD .null)
      | none => .ok (unsupported name) := by
  simp only [ofJson, h]
  rfl

/-- The type of a value is found by the one field that it is written with. -/
theorem ofJson_field (type : PropertyType) (body : Json) :
    ofJson (object [(type.name, body)]) = ofBody type body := by
  have hfield : ∀ key, (object [(type.name, body)]).field? key =
      if type.name = key then some body else none := fun key => by
    rw [field?_object]
    rfl
  have htype : (object [(type.name, body)]).stringField? "type" = none := by
    rw [Json.stringField?, hfield, if_neg (by cases type <;> decide)]
    rfl
  have hknown : (PropertyType.all.map PropertyType.name).find?
      (fun key => ((object [(type.name, body)]).field? key).isSome) = some type.name := by
    simp only [hfield]
    cases type <;> rfl
  rw [ofJson_of_name (by rw [htype, hknown]; rfl), PropertyType.ofName?_name, hfield, if_pos rfl]
  rfl

/-- An unknown type is read back when its name is none of the known ones; under a known name it is
read as a value of that type. -/
theorem ofJson_unsupported_eq_ok_iff (name : String) :
    ofJson (unsupported name).toJson = .ok (unsupported name) ↔
      name ∉ PropertyType.knownNames := by
  have htype : (unsupported name).toJson.stringField? "type" = some name := by
    rw [toJson, Json.stringField?, field?_object]
    rfl
  rw [ofJson_of_name (by rw [htype]; rfl), ← PropertyType.ofName?_eq_none_iff]
  cases PropertyType.ofName? name with
  | none => exact ⟨fun _ => rfl, fun _ => rfl⟩
  | some type =>
    constructor
    · intro h
      have htype := type?_of_ofBody h
      cases htype
    · intro h
      cases h

/-! ### Bodies -/

theorem filterMap_named (names : List String) :
    (names.map named).filterMap (Json.stringField? "name") = names := by
  have hnamed : ∀ name, (named name).stringField? "name" = some name := fun name => by
    rw [named, Json.stringField?, field?_object]
    rfl
  induction names with
  | nil => rfl
  | cons name names ih => rw [List.map_cons, List.filterMap_cons_some (hnamed name), ih]

end PropertyValue

theorem DateSpan.ofJson?_toJson (span : DateSpan) : ofJson? span.toJson = some span := by
  obtain ⟨start, finish⟩ := span
  unfold ofJson? toJson
  rw [record?_object]
  cases finish with
  | none => simp [Entries.find?, Json.required, Json.optional, Json.string?]
  | some finish =>
    simp [Entries.find?, Json.required, Json.optional, Json.nullable?, Json.string?]

/-! ### Values and sets -/

namespace PropertyValue

theorem ofJson_toJson_of_body (type : PropertyType) {body : Json}
    (hjson : value.toJson = object [(type.name, body)]) (hbody : ofBody type body = .ok value) :
    ofJson value.toJson = .ok value := by
  rw [hjson, ofJson_field, hbody]

theorem ofJson_toJson_of_legible (h : value.Legible) : ofJson value.toJson = .ok value := by
  obtain ⟨hnumber, hname⟩ := h
  cases value with
  | title runs =>
    apply ofJson_toJson_of_body .title rfl
    rw [ofBody, runsOfJson_runsToJson]
    rfl
  | richText runs =>
    apply ofJson_toJson_of_body .richText rfl
    rw [ofBody, runsOfJson_runsToJson]
    rfl
  | number x =>
    apply ofJson_toJson_of_body .number rfl
    cases x with
    | none => rfl
    | some x =>
      have hx : x.isFinite = true := hnumber x rfl
      rw [Json.ofOption, if_pos hx]
      rfl
  | select name =>
    apply ofJson_toJson_of_body .select rfl
    cases name <;> rfl
  | multiSelect names =>
    apply ofJson_toJson_of_body .multiSelect rfl
    rw [ofBody, filterMap_named]
    rfl
  | date span =>
    apply ofJson_toJson_of_body .date rfl
    cases span with
    | none => rfl
    | some span =>
      have hspan := DateSpan.ofJson?_toJson span
      rw [Json.ofOption, ofBody, hspan]
      rfl
  | checkbox checked => exact ofJson_toJson_of_body .checkbox rfl rfl
  | url text =>
    apply ofJson_toJson_of_body .url rfl
    cases text <;> rfl
  | email text =>
    apply ofJson_toJson_of_body .email rfl
    cases text <;> rfl
  | phoneNumber text =>
    apply ofJson_toJson_of_body .phoneNumber rfl
    cases text <;> rfl
  | unsupported name => exact (ofJson_unsupported_eq_ok_iff name).2 (hname name rfl)

theorem legible_of_ofJson_toJson (h : ofJson value.toJson = .ok value) : value.Legible := by
  constructor
  · rintro x rfl
    by_cases hx : x.isFinite = true
    · exact hx
    · rw [toJson, Json.ofOption, if_neg hx] at h
      -- a number that is not finite is written as null, which reads as no number
      have hnull : ofJson (object [(PropertyType.number.name, .null)]) = .ok (number none) :=
        ofJson_field .number .null
      have hsame := hnull.symm.trans h
      cases hsame
  · rintro name rfl
    exact (ofJson_unsupported_eq_ok_iff name).1 h

/-- A value is read back exactly when it stands for itself. -/
theorem ofJson_toJson_eq_ok_iff (value : PropertyValue) :
    ofJson value.toJson = .ok value ↔ value.Legible :=
  ⟨legible_of_ofJson_toJson, ofJson_toJson_of_legible⟩

end PropertyValue

namespace PropertySet

theorem toJson_eq (properties : PropertySet) :
    properties.toJson = .obj (properties.map PropertyValue.toJson).entries :=
  congrArg Json.obj (Entries.ofList_of_sorted (properties.map PropertyValue.toJson).sorted)

theorem names_of_readEntries {fields : List (String × Json)}
    {entries : List (String × PropertyValue)} (h : readEntries fields = .ok entries) :
    entries.map Prod.fst = fields.map Prod.fst := by
  induction fields generalizing entries with
  | nil =>
    cases h
    rfl
  | cons field fields ih =>
    obtain ⟨value, -, h⟩ := bind_eq_ok_iff.1 h
    obtain ⟨rest, hrest, hentries⟩ := bind_eq_ok_iff.1 h
    cases hentries
    rw [List.map_cons, List.map_cons, ih hrest]

theorem readEntries_eq_ok_iff (entries : List (String × PropertyValue)) :
    readEntries (entries.map fun entry => (entry.1, entry.2.toJson)) = .ok entries ↔
      ∀ entry ∈ entries, entry.2.Legible := by
  induction entries with
  | nil => exact ⟨fun _ => List.forall_mem_nil _, fun _ => rfl⟩
  | cons entry entries ih =>
    rw [List.forall_mem_cons, ← ih, ← PropertyValue.ofJson_toJson_eq_ok_iff, List.map_cons,
      readEntries]
    constructor
    · intro h
      obtain ⟨value, hvalue, h⟩ := bind_eq_ok_iff.1 h
      obtain ⟨rest, hrest, h⟩ := bind_eq_ok_iff.1 h
      injection h with h
      obtain ⟨hentry, rfl⟩ := List.cons.inj h
      have hsame : value = entry.2 := congrArg Prod.snd hentry
      rw [hsame] at hvalue
      exact ⟨hvalue, hrest⟩
    · rintro ⟨hvalue, hrest⟩
      rw [hvalue, hrest]
      rfl

/-- Reading a written property set gives the set again exactly when each of its values stands for
itself: no number is infinite or not a number, and no unknown type has the name of a known one. -/
theorem ofJson_toJson_eq_ok_iff_entries_legible (properties : PropertySet) :
    ofJson properties.toJson = .ok properties ↔
      ∀ entry ∈ properties.entries, entry.2.Legible := by
  rw [← readEntries_eq_ok_iff, toJson_eq, ofJson]
  constructor
  · intro h
    obtain ⟨entries, hread, h⟩ := bind_eq_ok_iff.1 h
    have hnames := names_of_readEntries hread
    have hsorted : Entries.Sorted entries := by
      have hkeys := List.pairwise_map.2 (properties.map PropertyValue.toJson).sorted
      rw [← hnames] at hkeys
      exact List.pairwise_map.1 hkeys
    injection h with h
    rw [Dict.ofList_eq_iff hsorted] at h
    rw [h] at hread
    exact hread
  · intro h
    change readEntries (properties.map PropertyValue.toJson).entries = _ at h
    rw [h]
    exact congrArg Except.ok ((Dict.ofList_eq_iff properties.sorted).2 rfl)

end PropertySet
end NoteBridge.Page
