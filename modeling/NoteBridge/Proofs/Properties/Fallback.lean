import NoteBridge.Proofs.Properties.Set

/-!
What the fallbacks leave of the properties that the mappings produced. The tags fill in a property
that is missing and nothing else. The title of the note is written whenever no mapping has produced
a title, under the name of the title property, whatever stands there already; so every other
property is kept, and this one only if it is missing.
-/

namespace NoteBridge.Properties

open Page (PropertyValue PropertySet)

variable {options : Options} {record : Record} {properties : PropertySet} {tags : List String}
  {title : String}

/-- Whether the title of the note is written: there is one, and no mapping has produced a title. -/
def WritesTitle (options : Options) (record : Record) (title : String) : Prop :=
  title ≠ "" ∧ (mapped options record).title? = none

instance : Decidable (WritesTitle options record title) := instDecidableAnd

theorem keptIn_addTags (options : Options) (tags : List String) (properties : PropertySet) :
    properties.KeptIn (addTags options tags properties) := by
  intro name value hvalue
  rw [find?_addTags, hvalue, Option.some_or]

theorem WritesTitle.title?_addTags (h : WritesTitle options record title) (tags : List String) :
    (addTags options tags (mapped options record)).title? = none :=
  Properties.title?_addTags.2 h.2

theorem ofRecord_of_writesTitle (h : WritesTitle options record title) (tags : List String) :
    ofRecord options record tags title = (addTags options tags (mapped options record)).insert
      options.titleProperty (.title (Coerce.textRuns title.toList)) := by
  rw [ofRecord_eq, addTitle, h.title?_addTags tags]
  exact if_pos (by simpa using h.1)

theorem ofRecord_of_not_writesTitle (h : ¬WritesTitle options record title) (tags : List String) :
    ofRecord options record tags title = addTags options tags (mapped options record) := by
  rw [ofRecord_eq]
  apply addTitle_of_title?
  by_cases htitle : title = ""
  · exact .inr htitle
  · exact .inl (mt title?_addTags.1 fun hnone => h ⟨htitle, hnone⟩)

/-- Of what is in the set before the title, all is kept if and only if no title is written over it:
what stands in its place is no title, so it is never the same. -/
theorem keptIn_ofRecord_iff
    (h : properties.KeptIn (addTags options tags (mapped options record))) :
    properties.KeptIn (ofRecord options record tags title) ↔
      (WritesTitle options record title → properties.find? options.titleProperty = none) := by
  by_cases hwrites : WritesTitle options record title
  · have hnotitle := Page.PropertySet.title?_eq_none_iff.1 (hwrites.title?_addTags tags)
    rw [ofRecord_of_writesTitle hwrites, h.insert_iff, Option.eq_none_iff_forall_ne_some]
    constructor
    · rintro hsame - old hold
      have hfalse := hnotitle _ old (h _ old hold)
      rw [hsame old hold] at hfalse
      cases hfalse
    · intro hmissing old hold
      exact absurd hold (hmissing hwrites old)
  · rw [ofRecord_of_not_writesTitle hwrites]
    exact iff_of_true h fun hwrites' => absurd hwrites' hwrites

/-- The mappings produce, for each property, what the first of them that can produce it does. All
of that is in the set when the tags have been added; and all of it, or all of it and the tags, is in
the final set if and only if the title of the note, when it is written, does not meet it. -/
theorem fallbacks_keep_iff (options : Options) (record : Record) (tags : List String)
    (title : String) :
    let produced := mapped options record
    let tagged := addTags options tags produced
    let properties := ofRecord options record tags title
    (∀ name, produced.find? name = options.mappings.findSome? fun mapping =>
      if mapping.property = name then produced? record mapping else none) ∧
      produced.KeptIn tagged ∧
      (produced.KeptIn properties ↔
        (WritesTitle options record title → produced.find? options.titleProperty = none)) ∧
      (tagged.KeptIn properties ↔
        (WritesTitle options record title → tagged.find? options.titleProperty = none)) := by
  intro produced tagged properties
  refine ⟨find?_mapped options record, keptIn_addTags options tags produced, ?_, ?_⟩
  · exact keptIn_ofRecord_iff (keptIn_addTags options tags produced)
  · exact keptIn_ofRecord_iff (Dict.KeptIn.refl tagged)

/-- A catalogue, where the kind of a work goes to the property that pages have their title in. -/
def catalogue : Options := { mappings := [⟨"kind", "Name", .select⟩] }

def novel : Record := Dict.ofList [("kind", .str "novel")]

/-- The title of the note replaces the kind. -/
theorem novel_not_keptIn :
    (mapped catalogue novel).find? "Name" = some (.select (some "novel")) ∧
      (ofRecord catalogue novel [] "Dune").find? "Name" =
        some (.title (Coerce.textRuns "Dune".toList)) ∧
      ¬(mapped catalogue novel).KeptIn (ofRecord catalogue novel [] "Dune") := by
  have hkind : (mapped catalogue novel).find? "Name" = some (.select (some "novel")) := by decide
  refine ⟨hkind, by decide, ?_⟩
  rw [keptIn_ofRecord_iff (keptIn_addTags catalogue [] _)]
  intro hmissing
  have hnone := hmissing (by decide)
  cases hkind.symm.trans hnone

end NoteBridge.Properties
