import NoteBridge.Properties
import NoteBridge.Proofs.Dict

/-!
What a property set holds, name by name. Under the name of a mapped property is what the first
mapping that has a value for it produces. The tags fill in their own property when no mapping has.
The title of the note is written when nothing else in the set is a title.
-/

namespace NoteBridge

open Page (PropertyValue PropertySet)

/-! ### The title of a set -/

namespace Page.PropertySet

variable {properties : PropertySet} {name : String} {value : PropertyValue}

theorem title?_eq_none_iff : properties.title? = none ↔
    ∀ name value, properties.find? name = some value → value.isTitle = false := by
  simp only [title?, List.find?_eq_none, Dict.find?_eq_some_iff, Prod.forall, Bool.not_eq_true]

theorem find?_of_title? (h : properties.title? = some (name, value)) :
    properties.find? name = some value ∧ value.isTitle = true := by
  have hentry := List.find?_some (p := fun entry : String × PropertyValue => entry.2.isTitle) h
  exact ⟨Dict.find?_eq_some_iff.2 (List.mem_of_find?_eq_some h), hentry⟩

end Page.PropertySet

namespace Properties

variable {options : Options} {record : Record} {properties : PropertySet} {tags : List String}
  {title name : String}

/-- What a mapping makes of a record. -/
def produced? (record : Record) (mapping : Mapping) : Option PropertyValue :=
  (lookup? record mapping.field).bind (coerce? mapping.type)

/-- The properties that the mappings produce. -/
def mapped (options : Options) (record : Record) : PropertySet :=
  options.mappings.foldl (addMapped record) ∅

theorem ofRecord_eq (options : Options) (record : Record) (tags : List String) (title : String) :
    ofRecord options record tags title =
      addTitle options title (addTags options tags (mapped options record)) := rfl

/-- A mapping reads of the record no more than what it produces. -/
theorem addMapped_eq (record : Record) (properties : PropertySet) (mapping : Mapping) :
    addMapped record properties mapping =
      if properties.contains mapping.property then properties
      else (produced? record mapping).elim properties (properties.insert mapping.property) := by
  rw [addMapped, ← produced?]
  cases produced? record mapping <;> rfl

theorem find?_addMapped (properties : PropertySet) (mapping : Mapping) (name : String) :
    (addMapped record properties mapping).find? name =
      (properties.find? name).or
        (if mapping.property = name then produced? record mapping else none) := by
  rw [addMapped_eq, Dict.find?_fillIn]

/-- The first mapping of a property that produces a value decides. -/
theorem find?_mapped (options : Options) (record : Record) (name : String) :
    (mapped options record).find? name = options.mappings.findSome? fun mapping =>
      if mapping.property = name then produced? record mapping else none := by
  rw [mapped, Dict.find?_foldl find?_addMapped, Dict.find?_empty, Option.none_or]

theorem find?_addTags (options : Options) (tags : List String) (properties : PropertySet)
    (name : String) : (addTags options tags properties).find? name =
      (properties.find? name).or
        (if options.tagsProperty = name ∧ tags ≠ [] then some (.multiSelect tags) else none) := by
  have hcontains : properties.contains options.tagsProperty =
      (properties.find? options.tagsProperty).isSome := rfl
  unfold addTags
  by_cases hname : options.tagsProperty = name
  · subst hname
    cases hfind : properties.find? options.tagsProperty <;> cases tags <;>
      simp [hcontains, hfind, Dict.find?_insert]
  · split
    · rw [Dict.find?_insert, if_neg hname]
      simp [hname]
    · simp [hname]

/-- Tags are no title. -/
theorem title?_addTags : (addTags options tags properties).title? = none ↔
    properties.title? = none := by
  rw [Page.PropertySet.title?_eq_none_iff, Page.PropertySet.title?_eq_none_iff]
  refine forall_congr' fun name => ?_
  rw [find?_addTags]
  cases properties.find? name with
  | some value => simp
  | none =>
    simp only [Option.none_or, Option.ite_none_right_eq_some]
    constructor
    · nofun
    · rintro - value ⟨-, h⟩
      cases h
      rfl

theorem addTitle_of_title? (h : properties.title? ≠ none ∨ title = "") :
    addTitle options title properties = properties := by
  apply if_neg
  rcases h with h | rfl <;> simp_all

theorem find?_addTitle (hproperties : properties.title? = none) (htitle : title ≠ "")
    (name : String) : (addTitle options title properties).find? name =
      if options.titleProperty = name then some (.title (Coerce.textRuns title.toList))
      else properties.find? name := by
  have hadd : (properties.title?.isNone && !title.isEmpty) = true := by
    simpa [hproperties] using htitle
  rw [addTitle, if_pos hadd, Dict.find?_insert]

/-- Only the title property may differ from what mappings and tags give. -/
theorem find?_ofRecord_of_ne (h : options.titleProperty ≠ name) :
    (ofRecord options record tags title).find? name =
      (addTags options tags (mapped options record)).find? name := by
  rw [ofRecord_eq, addTitle]
  split
  · rw [Dict.find?_insert, if_neg h]
  · rfl

/-- Where a property of a set may come from. -/
theorem find?_ofRecord_cases {value : PropertyValue}
    (h : (ofRecord options record tags title).find? name = some value) :
    value.isTitle = true ∨ (mapped options record).find? name = some value ∨
      options.tagsProperty = name ∧ value = .multiSelect tags := by
  have htagged : (addTags options tags (mapped options record)).find? name = some value →
      (mapped options record).find? name = some value ∨
        options.tagsProperty = name ∧ value = .multiSelect tags := by
    rw [find?_addTags, Option.or_eq_some_iff]
    rintro (hmapped | ⟨-, htags⟩)
    · exact .inl hmapped
    · simp only [Option.ite_none_right_eq_some, Option.some.injEq] at htags
      exact .inr ⟨htags.1.1, htags.2.symm⟩
  rw [ofRecord_eq, addTitle] at h
  split at h
  · rw [Dict.find?_insert] at h
    split at h
    · cases h
      exact .inl rfl
    · exact .inr (htagged h)
  · exact .inr (htagged h)

end Properties
end NoteBridge
