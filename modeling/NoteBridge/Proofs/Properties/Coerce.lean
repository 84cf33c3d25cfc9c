import Mathlib.Data.Set.List
import NoteBridge.Properties
import NoteBridge.Proofs.Date.Normal
import NoteBridge.Proofs.Number.Digits
import NoteBridge.Proofs.Number.Integer
import NoteBridge.Proofs.Page.Stream

/-!
Coercion as a normal form. What a value is coerced to has a front matter value again, and this one
is coerced to the same property, but for a text that is empty and for a number that front matter
cannot write: infinity, what is not a number, and negative zero. A value that is canonical for a
type is the front matter value of the property it is coerced to.
-/

namespace NoteBridge

open Page (PropertyType PropertyValue Run plainText plainChars)
open Text

/-! ### Texts of scalars -/

namespace Coerce

@[simp] theorem scalar?_str (s : String) :
    scalar? (.str s) = if s = "" then none else some s.toList := by
  simp [scalar?]

theorem scalar?_ne_nil {j : Json} {cs : List Char} (h : scalar? j = some cs) : cs ≠ [] := by
  unfold scalar? at h
  split at h
  · split at h
    · cases h
    · next s hne =>
      cases h
      simpa using hne
  · cases h
    exact (Json.tight_toString_int _).1
  · cases h
    exact (Layout.tight_json_format _).1
  · next b =>
    cases h
    cases b <;> decide
  · cases h

/-- A scalar that is no text is written in one piece. -/
theorem tight_of_scalar? {j : Json} {cs : List Char} (hj : j.string? = none)
    (h : scalar? j = some cs) : Tight cs := by
  unfold scalar? at h
  split at h
  · cases hj
  · cases h
    exact Json.tight_toString_int _
  · cases h
    exact Layout.tight_json_format _
  · next b =>
    cases h
    cases b <;> exact ⟨by decide, by decide⟩
  · cases h

/-- Cutting a text to runs keeps it. -/
@[simp] theorem plainText_textRuns (cs : List Char) :
    plainText (textRuns cs) = String.ofList cs := by
  have hpieces : ∀ pieces : List (List Char),
      plainChars (pieces.map (Run.text (String.ofList cs)).withChars) = pieces.flatten := by
    intro pieces
    induction pieces with
    | nil => rfl
    | cons piece pieces ih => simpa [plainChars, Run.chars, Run.withChars] using ih
  rw [plainText, textRuns, Page.boundRuns, List.flatMap_singleton, Run.bounded]
  split
  · simp [plainChars, Run.chars, Run.text]
  · change String.ofList (plainChars (List.map _ _)) = _
    rw [hpieces, Page.flatten_splitText, Run.chars, Run.text, String.toList_ofList]

theorem runs?_eq_some {j : Json} {runs : List Run} (h : runs? j = some runs) :
    ∃ cs, runs = textRuns cs := by
  unfold runs? at h
  split at h
  · cases h
    exact ⟨_, rfl⟩
  · obtain ⟨cs, -, rfl⟩ := Option.map_eq_some_iff.1 h
    exact ⟨cs, rfl⟩

@[simp] theorem runs?_str (s : String) :
    runs? (.str s) = if s = "" then none else some (textRuns s.toList) := by
  rw [runs?, scalar?_str]
  · split <;> rfl
  · nofun

theorem tight_of_mem_trimmed {parts : List (List Char)} {name : List Char}
    (h : name ∈ (parts.map trim).filter (!·.isEmpty)) : Tight name := by
  obtain ⟨htrim, hne⟩ := List.mem_filter.1 h
  obtain ⟨cs, -, rfl⟩ := List.mem_map.1 htrim
  exact tight_trim (by simpa using hne)

theorem tight_of_mem_names? {j : Json} {names : List (List Char)} (h : names? j = some names)
    {name : List Char} (hname : name ∈ names) : Tight name := by
  unfold names? at h
  split at h
  · cases h
    exact tight_of_mem_trimmed hname
  · cases h
    exact tight_of_mem_trimmed hname
  · next hstr =>
    obtain ⟨cs, hcs, rfl⟩ := Option.map_eq_some_iff.1 h
    rw [List.mem_singleton.1 hname]
    refine tight_of_scalar? ?_ hcs
    cases j with
    | str s => exact absurd rfl (hstr s)
    | _ => rfl

/-- Names that are tight are the names of the list of them. -/
theorem names?_arr_str {names : List String} (h : ∀ name ∈ names, Tight name.toList) :
    names? (.arr (names.map .str)) = some (names.map String.toList) := by
  have hscalars : (names.map Json.str).filterMap scalar? = names.map String.toList := by
    induction names with
    | nil => rfl
    | cons name names ih =>
      obtain ⟨hname, hnames⟩ := List.forall_mem_cons.1 h
      have hne : name ≠ "" := by simpa using hname.1
      simp [hne, ih hnames]
  have htrim : (names.map String.toList).map trim = names.map String.toList := by
    rw [List.map_map]
    exact List.map_congr_left fun name hname => (h name hname).2
  have hfilter : (names.map String.toList).filter (!·.isEmpty) = names.map String.toList := by
    rw [List.filter_eq_self]
    intro cs hcs
    obtain ⟨name, hname, rfl⟩ := List.mem_map.1 hcs
    simpa using (h name hname).1
  rw [names?, hscalars, htrim, hfilter]

theorem tight_of_trimmed? {j : Json} {s : String} (h : trimmed? j = some s) : Tight s.toList := by
  unfold trimmed? at h
  split at h
  · split at h
    · cases h
    · next hblank =>
      cases h
      rw [onString, String.toList_ofList]
      exact tight_trim (mt trim_eq_nil_iff.1 hblank)
  · cases h

theorem trimmed?_str_iff {s : String} : trimmed? (.str s) = some s ↔ Tight s.toList := by
  constructor
  · exact tight_of_trimmed?
  · intro h
    have hblank : ¬allBlank s.toList = true := by
      rw [← trim_eq_nil_iff, h.2]
      exact h.1
    simp [trimmed?, Json.string?, hblank, onString, h.2]

end Coerce

/-! ### What values are coerced to -/

open Coerce (textRuns)

/-- The properties that values are coerced to, by their type. -/
inductive Coerced : PropertyType → PropertyValue → Prop
  | title (cs : List Char) : Coerced .title (.title (textRuns cs))
  | richText (cs : List Char) : Coerced .richText (.richText (textRuns cs))
  | number (x : Double) : Coerced .number (.number (some x))
  | select {name : String} (h : name ≠ "") : Coerced .select (.select (some name))
  | multiSelect {names : List String} (h : ∀ name ∈ names, Tight name.toList) :
    Coerced .multiSelect (.multiSelect names)
  | date {start : String} (h : Date.normalize? start = some start) :
    Coerced .date (.date (some { start }))
  | checkbox (checked : Bool) : Coerced .checkbox (.checkbox checked)
  | url {text : String} (h : Tight text.toList) : Coerced .url (.url (some text))
  | email {text : String} (h : Tight text.toList) : Coerced .email (.email (some text))
  | phoneNumber {text : String} (h : Tight text.toList) :
    Coerced .phoneNumber (.phoneNumber (some text))

variable {type : PropertyType} {value : PropertyValue} {json : Json}

theorem coerced_of_coerce? (h : coerce? type json = some value) : Coerced type value := by
  cases type with
  | title | richText =>
    obtain ⟨runs, hruns, rfl⟩ := Option.map_eq_some_iff.1 h
    obtain ⟨cs, rfl⟩ := Coerce.runs?_eq_some hruns
    constructor
  | number | checkbox =>
    obtain ⟨x, -, rfl⟩ := Option.map_eq_some_iff.1 h
    constructor
  | select =>
    obtain ⟨cs, hcs, rfl⟩ := Option.map_eq_some_iff.1 h
    exact .select (by simpa using Coerce.scalar?_ne_nil hcs)
  | multiSelect =>
    obtain ⟨names, hnames, rfl⟩ := Option.map_eq_some_iff.1 h
    refine .multiSelect fun name hname => ?_
    obtain ⟨cs, hcs, rfl⟩ := List.mem_map.1 hname
    rw [String.toList_ofList]
    exact Coerce.tight_of_mem_names? hnames hcs
  | date =>
    obtain ⟨start, hstart, rfl⟩ := Option.map_eq_some_iff.1 h
    obtain ⟨s, -, hs⟩ := Option.bind_eq_some_iff.1 hstart
    exact .date (Date.normalize?_normalize? hs)
  | url | email | phoneNumber =>
    obtain ⟨s, hs, rfl⟩ := Option.map_eq_some_iff.1 h
    constructor
    exact Coerce.tight_of_trimmed? hs

/-- Nothing that a value is coerced to is without a front matter value. -/
theorem Coerced.exists_toFrontMatter? (h : Coerced type value) :
    ∃ json, value.toFrontMatter? = some json := by
  cases h <;> exact ⟨_, rfl⟩

/-! ### Back from front matter -/

/-- Whether front matter can tell the property from all others of its type: a text that is not
empty, and no number that it cannot write. -/
def Page.PropertyValue.IsRestorable : PropertyValue → Prop
  | .title runs | .richText runs => plainText runs ≠ ""
  | .number (some x) => x.isFinite = true ∧ x ≠ Double.zero true
  | _ => True

theorem Coerce.number?_numberJson (x : Double) :
    number? (numberJson x) = some x ↔ x.isFinite = true ∧ x ≠ Double.zero true := by
  have hzero : (Double.zero true).toInt? = some 0 := by decide
  unfold numberJson
  cases hint : x.toInt? with
  | some n =>
    have hfinite := Double.isFinite_of_toInt? hint
    dsimp only
    split
    · have hn : number? (.int n) = some (Double.ofInt n) := rfl
      rw [hn, Option.some.injEq]
      constructor
      · intro hx
        refine ⟨hfinite, ?_⟩
        rintro rfl
        cases hzero.symm.trans hint
        exact absurd hx (by decide)
      · rintro ⟨-, hx⟩
        exact Double.ofInt_of_toInt? hint hx
    · next hbig =>
      have hx : x ≠ Double.zero true := by
        rintro rfl
        cases hzero.symm.trans hint
        exact hbig (by decide)
      exact iff_of_true rfl ⟨hfinite, hx⟩
  | none =>
    have hx : x ≠ Double.zero true := by
      rintro rfl
      cases hzero.symm.trans hint
    cases hfinite : x.isFinite
    · simp [number?, Json.double?]
    · exact iff_of_true rfl ⟨rfl, hx⟩

/-- The front matter value of a coerced property gives this very property, if it is restorable. -/
theorem Coerced.restored_iff (h : Coerced type value) :
    value.toFrontMatter?.bind (coerce? type) = some value ↔ value.IsRestorable := by
  cases h with
  | title cs | richText cs =>
    by_cases hcs : String.ofList cs = "" <;>
      simp [PropertyValue.toFrontMatter?, coerce?, PropertyValue.IsRestorable, hcs]
  | number x =>
    have hnumber : ((PropertyValue.number (some x)).toFrontMatter?.bind (coerce? .number) =
        some (.number (some x))) ↔ Coerce.number? (numberJson x) = some x := by
      simp [PropertyValue.toFrontMatter?, coerce?]
    rw [hnumber, Coerce.number?_numberJson]
    rfl
  | select hname =>
    simp [PropertyValue.toFrontMatter?, coerce?, PropertyValue.IsRestorable, hname]
  | multiSelect hnames =>
    simp [PropertyValue.toFrontMatter?, coerce?, PropertyValue.IsRestorable,
      Coerce.names?_arr_str hnames]
  | date hstart =>
    simp [PropertyValue.toFrontMatter?, coerce?, PropertyValue.IsRestorable, Json.string?, hstart]
  | checkbox checked =>
    simp [PropertyValue.toFrontMatter?, coerce?, PropertyValue.IsRestorable, Coerce.checked?]
  | url htext | email htext | phoneNumber htext =>
    simp [PropertyValue.toFrontMatter?, coerce?, PropertyValue.IsRestorable,
      Coerce.trimmed?_str_iff.2 htext]

/-! ### Canonical values -/

/-- Whether a value is written the way front matter has it for a property of the type. -/
def Canonical : PropertyType → Json → Prop
  | .title, .str s | .richText, .str s | .select, .str s => s ≠ ""
  | .number, .int n => n.natAbs < Number.wordSize 63 ∧ (Double.ofInt n).toInt? = some n
  | .number, .real x =>
    x.isFinite = true ∧ ∀ n, x.toInt? = some n → Number.wordSize 63 ≤ n.natAbs
  | .multiSelect, .arr items => ∀ item ∈ items, ∃ s : String, item = .str s ∧ Tight s.toList
  | .date, .str s => Date.normalize? s = some s
  | .checkbox, .bool _ => True
  | .url, .str s | .email, .str s | .phoneNumber, .str s => Tight s.toList
  | _, _ => False

theorem numberJson_eq_int_iff {x : Double} {n : Int} :
    numberJson x = .int n ↔ n.natAbs < Number.wordSize 63 ∧ x.toInt? = some n := by
  unfold numberJson
  split
  · next k hk =>
    rw [hk, Option.some.injEq]
    split
    · next hsmall =>
      rw [Json.int.injEq]
      constructor
      · rintro rfl
        exact ⟨hsmall, rfl⟩
      · exact And.right
    · next hbig =>
      refine iff_of_false nofun ?_
      rintro ⟨hsmall, rfl⟩
      exact hbig hsmall
  · next hnone =>
    rw [hnone]
    split <;> simp

theorem numberJson_eq_real_iff {x y : Double} :
    numberJson x = .real y ↔
      x = y ∧ x.isFinite = true ∧ ∀ n, x.toInt? = some n → Number.wordSize 63 ≤ n.natAbs := by
  unfold numberJson
  split
  · next k hk =>
    have hfinite := Double.isFinite_of_toInt? hk
    split
    · next hsmall => simp [hk, hsmall]
    · next hbig => simp [hk, hfinite, Nat.le_of_not_lt hbig]
  · next hnone =>
    split <;> simp [*]

theorem numberJson_ne_str (x : Double) (s : String) : numberJson x ≠ .str s := by
  unfold numberJson
  split
  · split <;> nofun
  · split <;> nofun

theorem names_eq_iff {items : List Json} :
    (Coerce.names? (.arr items)).map (·.map fun name => Json.str (String.ofList name)) = some items ↔
      ∀ item ∈ items, ∃ s : String, item = .str s ∧ Tight s.toList := by
  constructor
  · intro h item hitem
    obtain ⟨names, hnames, rfl⟩ := Option.map_eq_some_iff.1 h
    obtain ⟨name, hname, rfl⟩ := List.mem_map.1 hitem
    refine ⟨_, rfl, ?_⟩
    rw [String.toList_ofList]
    exact Coerce.tight_of_mem_names? hnames hname
  · intro h
    obtain ⟨names, rfl⟩ : items ∈ Set.range (List.map Json.str) := by
      rw [Set.range_list_map]
      intro item hitem
      obtain ⟨s, rfl, -⟩ := h item hitem
      exact ⟨s, rfl⟩
    have htight : ∀ name ∈ names, Tight name.toList := by
      intro name hname
      obtain ⟨s, hs, htight⟩ := h _ (List.mem_map_of_mem hname)
      cases hs
      exact htight
    rw [Coerce.names?_arr_str htight]
    simp

/-- The canonical values are those that come back unchanged. -/
theorem toFrontMatter?_coerce?_iff (type : PropertyType) (json : Json) :
    (coerce? type json).bind PropertyValue.toFrontMatter? = some json ↔ Canonical type json := by
  cases type with
  | title | richText =>
    cases json with
    | str s => by_cases hs : s = "" <;> simp [coerce?, PropertyValue.toFrontMatter?, Canonical, hs]
    | _ => simp [coerce?, PropertyValue.toFrontMatter?, Canonical, Coerce.runs?, Coerce.scalar?]
  | number =>
    cases json with
    | int n =>
      simp [coerce?, PropertyValue.toFrontMatter?, Canonical, Coerce.number?, Json.double?,
        numberJson_eq_int_iff]
    | real x =>
      simp [coerce?, PropertyValue.toFrontMatter?, Canonical, Coerce.number?, Json.double?,
        numberJson_eq_real_iff]
    | str s =>
      cases hread : Coerce.number? (.str s) <;>
        simp [coerce?, PropertyValue.toFrontMatter?, Canonical, hread, numberJson_ne_str]
    | _ => simp [coerce?, Canonical, Coerce.number?, Json.double?]
  | select =>
    cases json with
    | str s => by_cases hs : s = "" <;> simp [coerce?, PropertyValue.toFrontMatter?, Canonical, hs]
    | _ => simp [coerce?, PropertyValue.toFrontMatter?, Canonical, Coerce.scalar?]
  | multiSelect =>
    cases json with
    | arr items =>
      rw [Canonical, ← names_eq_iff]
      cases hnames : Coerce.names? (.arr items) <;>
        simp [coerce?, PropertyValue.toFrontMatter?, hnames, Function.comp_def]
    | _ => simp [coerce?, PropertyValue.toFrontMatter?, Canonical, Coerce.names?, Coerce.scalar?]
  | date =>
    cases json with
    | str s =>
      cases hread : Date.normalize? s <;>
        simp [coerce?, PropertyValue.toFrontMatter?, Canonical, Json.string?, hread]
    | _ => simp [coerce?, Canonical, Json.string?]
  | checkbox =>
    cases json with
    | bool b => simp [coerce?, PropertyValue.toFrontMatter?, Canonical, Coerce.checked?]
    | _ => simp [coerce?, PropertyValue.toFrontMatter?, Canonical, Coerce.checked?, Json.double?]
  | url | email | phoneNumber =>
    cases json with
    | str s =>
      rw [Canonical, ← Coerce.trimmed?_str_iff]
      cases hread : Coerce.trimmed? (.str s) <;>
        simp [coerce?, PropertyValue.toFrontMatter?, hread]
    | _ => simp [coerce?, Canonical, Coerce.trimmed?, Json.string?]

end NoteBridge
