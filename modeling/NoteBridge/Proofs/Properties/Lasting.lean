import NoteBridge.Proofs.Page.Wire.Property
import NoteBridge.Proofs.Properties.Coerce

/-!
Which coerced values last, in the JSON form of properties and in front matter. Every one does but a
number that is not finite, which both forms write as null, and a text without characters, which is
what a list without scalars is joined to: front matter has it as the empty text, and an empty text
is not coerced.
-/

namespace NoteBridge

open Page (PropertyType PropertyValue Run plainText)
open Text

/-- Equality of numbers: the two zeros are equal, and what is not a number equals nothing. -/
def Double.Equals (x y : Double) : Prop :=
  x.isNaN = false ∧ (x = y ∨ x.isZero = true ∧ y.isZero = true)

instance (x y : Double) : Decidable (x.Equals y) := instDecidableAnd

theorem Double.isNaN_eq_false_of_isFinite {x : Double} (h : x.isFinite = true) :
    x.isNaN = false := by
  simp only [isFinite, isNaN, decide_eq_true_eq, decide_eq_false_iff_not] at *
  omega

namespace Page.PropertyValue

/-- Equality of values, which compares numbers as numbers. -/
def Equals : PropertyValue → PropertyValue → Prop
  | number (some x), number (some y) => x.Equals y
  | value, other => value = other

/-- Whether a value of a type is read back from its JSON form, and whether it has a front matter
value, not null, that is coerced to an equal value. -/
structure Lasts (type : PropertyType) (value : PropertyValue) : Prop where
  json : ofJson value.toJson = .ok value
  frontMatter : ∃ json again, value.toFrontMatter? = some json ∧ json ≠ .null ∧
    coerce? type json = some again ∧ again.Equals value

end Page.PropertyValue

/-- The values that are coerced to one that does not last: as numbers the texts of a number that is
not finite, as texts the lists without a scalar. -/
inductive Fleeting : PropertyType → Json → Prop
  | number {json : Json} {x : Double} (h : Coerce.number? json = some x)
    (hfinite : x.isFinite = false) : Fleeting .number json
  | text {type : PropertyType} {items : List Json} (htype : type = .title ∨ type = .richText)
    (h : ∀ item ∈ items, Coerce.scalar? item = none) : Fleeting type (.arr items)

variable {type : PropertyType} {value other : PropertyValue} {json : Json} {x : Double}

/-! ### Texts -/

namespace Coerce

theorem join_scalars_eq_nil_iff (items : List Json) :
    join [',', ' '] (items.filterMap scalar?) = [] ↔ ∀ item ∈ items, scalar? item = none := by
  rw [← List.filterMap_eq_nil_iff]
  cases hscalars : items.filterMap scalar? with
  | nil => simp [join]
  | cons piece pieces =>
    obtain ⟨item, -, hscalar⟩ := List.mem_filterMap.1 (hscalars ▸ List.mem_cons_self ..)
    have hpiece := scalar?_ne_nil hscalar
    cases pieces <;> simp [join, hpiece]

/-- Runs are cut from the joined scalars of a list, or else from a scalar. -/
theorem exists_of_runs? {runs : List Run} (h : runs? json = some runs) :
    (∃ items, json = .arr items ∧
      runs = textRuns (join [',', ' '] (items.filterMap scalar?))) ∨
    ∃ cs, scalar? json = some cs ∧ runs = textRuns cs := by
  unfold runs? at h
  split at h
  · next items =>
    cases h
    exact .inl ⟨items, rfl, rfl⟩
  · obtain ⟨cs, hcs, rfl⟩ := Option.map_eq_some_iff.1 h
    exact .inr ⟨cs, hcs, rfl⟩

theorem plainText_runs?_eq_empty_iff {runs : List Run} (h : runs? json = some runs) :
    plainText runs = "" ↔ ∃ items, json = .arr items ∧ ∀ item ∈ items, scalar? item = none := by
  rcases exists_of_runs? h with ⟨items, rfl, rfl⟩ | ⟨cs, hcs, rfl⟩
  · rw [plainText_textRuns, String.ofList_eq_empty_iff, join_scalars_eq_nil_iff]
    simp
  · have hne := scalar?_ne_nil hcs
    refine iff_of_false (by simpa using hne) ?_
    rintro ⟨items, rfl, -⟩
    cases hcs

/-! ### Numbers -/

/-- Front matter gives an equal number back exactly when the number is finite. -/
theorem number?_numberJson_equals_iff (x : Double) :
    (∃ y, numberJson x ≠ .null ∧ number? (numberJson x) = some y ∧ y.Equals x) ↔
      x.isFinite = true := by
  constructor
  · rintro ⟨y, hnull, -, -⟩
    unfold numberJson at hnull
    cases hint : x.toInt? with
    | some n => exact Double.isFinite_of_toInt? hint
    | none => simpa [hint] using hnull
  · intro hfinite
    by_cases hzero : x = Double.zero true
    · subst hzero
      -- negative zero is the integer zero there, which is the other zero
      have hjson : numberJson (Double.zero true) = .int 0 := rfl
      rw [hjson]
      exact ⟨Double.zero false, nofun, rfl, by decide⟩
    · have hsame := (number?_numberJson x).2 ⟨hfinite, hzero⟩
      refine ⟨x, ?_, hsame, Double.isNaN_eq_false_of_isFinite hfinite, .inl rfl⟩
      intro hnull
      rw [hnull] at hsame
      cases hsame

end Coerce

/-! ### Values -/

namespace Page.PropertyValue

theorem equals_iff_eq (h : ∀ x, value ≠ number (some x)) : other.Equals value ↔ other = value := by
  unfold Equals
  split
  · next x y => exact absurd rfl (h y)
  · rfl

end Page.PropertyValue

namespace Coerced

theorem ofJson_toJson_iff (h : Coerced type value) : PropertyValue.ofJson value.toJson = .ok value ↔
    ∀ x, value = .number (some x) → x.isFinite = true := by
  rw [PropertyValue.ofJson_toJson_eq_ok_iff]
  exact ⟨And.left, fun hnumber => ⟨hnumber, by cases h <;> nofun⟩⟩

theorem lasts_number_iff : (PropertyValue.number (some x)).Lasts .number ↔ x.isFinite = true := by
  constructor
  · intro h
    exact (Coerced.number x).ofJson_toJson_iff.1 h.json x rfl
  · intro hfinite
    obtain ⟨y, hnull, hagain, hequals⟩ := (Coerce.number?_numberJson_equals_iff x).2 hfinite
    have hcoerce : coerce? .number (numberJson x) = some (.number (some y)) := by
      rw [coerce?, hagain, Option.map_some]
    refine ⟨(Coerced.number x).ofJson_toJson_iff.2 ?_, _, _, rfl, hnull, hcoerce, hequals⟩
    rintro _ ⟨⟩
    exact hfinite

/-- Any other value lasts exactly when front matter restores it. -/
theorem lasts_iff_isRestorable (h : Coerced type value) (hvalue : ∀ x, value ≠ .number (some x)) :
    value.Lasts type ↔ value.IsRestorable := by
  rw [← h.restored_iff, Option.bind_eq_some_iff]
  constructor
  · rintro ⟨-, json, again, hjson, -, hcoerce, hequals⟩
    rw [PropertyValue.equals_iff_eq hvalue] at hequals
    exact ⟨json, hjson, hequals ▸ hcoerce⟩
  · rintro ⟨json, hjson, hcoerce⟩
    refine ⟨h.ofJson_toJson_iff.2 fun x hx => absurd hx (hvalue x), json, value, hjson, ?_, hcoerce,
      (PropertyValue.equals_iff_eq hvalue).2 rfl⟩
    rintro rfl
    cases type <;> cases hcoerce

end Coerced

theorem fleeting_number_iff (h : Coerce.number? json = some x) :
    Fleeting .number json ↔ x.isFinite = false := by
  constructor
  · intro hfleeting
    cases hfleeting with
    | number hother hfinite =>
      cases h.symm.trans hother
      exact hfinite
    | text htype => simp at htype
  · exact .number h

theorem fleeting_text_iff (htype : type = .title ∨ type = .richText) :
    Fleeting type json ↔ ∃ items, json = .arr items ∧ ∀ item ∈ items, Coerce.scalar? item = none := by
  constructor
  · intro hfleeting
    cases hfleeting with
    | number => simp at htype
    | text _ hitems => exact ⟨_, rfl, hitems⟩
  · rintro ⟨items, rfl, hitems⟩
    exact .text htype hitems

/-- Whether front matter tells a value from all others shows in what it was coerced from. -/
theorem isRestorable_iff_not_fleeting (h : coerce? type json = some value)
    (hvalue : ∀ x, value ≠ .number (some x)) : value.IsRestorable ↔ ¬Fleeting type json := by
  cases type with
  | title | richText =>
    obtain ⟨runs, hruns, rfl⟩ := Option.map_eq_some_iff.1 h
    rw [fleeting_text_iff (by simp), ← Coerce.plainText_runs?_eq_empty_iff hruns]
    rfl
  | number =>
    obtain ⟨x, -, rfl⟩ := Option.map_eq_some_iff.1 h
    exact absurd rfl (hvalue x)
  | select | multiSelect | date | checkbox | url | email | phoneNumber =>
    obtain ⟨_, -, rfl⟩ := Option.map_eq_some_iff.1 h
    refine iff_of_true trivial fun hfleeting => ?_
    cases hfleeting with
    | text htype => simp at htype

/-- A value that was coerced lasts if and only if it was not coerced from a fleeting one, and then
front matter gives back the very same value, but for negative zero. -/
theorem lasts_iff_not_fleeting (h : coerce? type json = some value) :
    (value.Lasts type ↔ ¬Fleeting type json) ∧
      (value.toFrontMatter?.bind (coerce? type) = some value ↔
        ¬Fleeting type json ∧ value ≠ .number (some (Double.zero true))) := by
  have hcoerced := coerced_of_coerce? h
  rw [hcoerced.restored_iff]
  by_cases hvalue : ∀ x, value ≠ .number (some x)
  · rw [hcoerced.lasts_iff_isRestorable hvalue, isRestorable_iff_not_fleeting h hvalue]
    exact ⟨Iff.rfl, (and_iff_left (hvalue _)).symm⟩
  · obtain ⟨x, rfl⟩ : ∃ x, value = .number (some x) := by simpa using hvalue
    cases hcoerced
    obtain ⟨_, hnumber, hx⟩ := Option.map_eq_some_iff.1 h
    cases hx
    rw [Coerced.lasts_number_iff, fleeting_number_iff hnumber]
    simp [PropertyValue.IsRestorable]

theorem lasts_threeAndAHalf : ∃ value, coerce? .number (.str " 3.5 ") = some value ∧
    value.Lasts .number := by
  have hcoerce : coerce? .number (.str " 3.5 ") =
      some (.number (some (Double.ofRatio false 7 2))) := by decide
  refine ⟨_, hcoerce, (lasts_iff_not_fleeting hcoerce).1.2 ?_⟩
  rw [fleeting_number_iff (x := Double.ofRatio false 7 2) (by decide)]
  decide

/-- A number beyond all doubles, and the title of a list without items. -/
theorem not_lasts_infinity_and_emptyTitle :
    (∃ value, coerce? .number (.str "1e999") = some value ∧ ¬value.Lasts .number) ∧
      ∃ value, coerce? .title (.arr []) = some value ∧ ¬value.Lasts .title := by
  have hinfinity : coerce? .number (.str "1e999") =
      some (.number (some (Double.infinity false))) := by decide
  have hempty : coerce? .title (.arr []) = some (.title (Coerce.textRuns [])) := rfl
  refine ⟨⟨_, hinfinity, ?_⟩, _, hempty, ?_⟩
  · rw [Coerced.lasts_number_iff]
    decide
  · rw [(Coerced.title []).lasts_iff_isRestorable nofun]
    exact fun h => h rfl

end NoteBridge
