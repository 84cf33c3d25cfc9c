import NoteBridge.Proofs.Properties.Parts
import NoteBridge.Proofs.Properties.Set

/-!
Tags to a property set and back, for any mappings. The tags of a note fill in the tags property, so
a mapping that has produced this property before keeps what it produced, and then those are the tags
that come back. Whatever comes back is in the record as well.
-/

namespace NoteBridge.Properties

open Page (PropertyValue PropertySet)

/-- The tags that the property set of a note has: those of the note, or else what a mapping has put
in their place. -/
def settledTags (options : Options) (record : Record) (tags : List String) : List String :=
  match (mapped options record).find? options.tagsProperty with
  | none => tags
  | some (.multiSelect names) => names
  | some _ => []

variable {options : Options} {record : Record} {tags : List String} {title : String}

/-- Whether the title of the note is not written over the tags. -/
def TitleApart (options : Options) (record : Record) (title : String) : Prop :=
  options.titleProperty = options.tagsProperty →
    title = "" ∨ (mapped options record).title? ≠ none

theorem find?_ofRecord_tagsProperty (h : TitleApart options record title) :
    (ofRecord options record tags title).find? options.tagsProperty =
      (addTags options tags (mapped options record)).find? options.tagsProperty := by
  by_cases hname : options.titleProperty = options.tagsProperty
  · rw [ofRecord_eq, addTitle_of_title?]
    rcases h hname with htitle | htitle
    · exact .inr htitle
    · exact .inl (mt title?_addTags.1 htitle)
  · exact find?_ofRecord_of_ne hname

theorem toParts_tags_eq_settledTags (h : TitleApart options record title) :
    (toParts options (ofRecord options record tags title)).tags =
      settledTags options record tags := by
  rw [toParts_tags, tagList?, find?_ofRecord_tagsProperty h, find?_addTags, settledTags]
  cases (mapped options record).find? options.tagsProperty with
  | none => cases tags <;> simp
  | some value =>
    rw [Option.some_or]
    cases value <;> rfl

/-- A title in the place of the tags leaves none of them. -/
theorem toParts_tags_of_not_titleApart (h : ¬TitleApart options record title) :
    (toParts options (ofRecord options record tags title)).tags = [] := by
  simp only [TitleApart, Classical.not_imp, not_or, ne_eq, Decidable.not_not] at h
  obtain ⟨hname, htitle, hmapped⟩ := h
  have hfind : (ofRecord options record tags title).find? options.tagsProperty =
      some (.title (Coerce.textRuns title.toList)) := by
    rw [ofRecord_eq, find?_addTitle (title?_addTags.2 hmapped) htitle, if_pos hname]
  rw [toParts_tags, tagList?, hfind]
  rfl

/-- All tags of a note come back if and only if no mapping has put something else in their place.
What comes back is in the record. -/
theorem tags_toParts_ofRecord (h : TitleApart options record title) :
    let parts := toParts options (ofRecord options record tags title)
    parts.tags = settledTags options record tags ∧
      ((∀ tag ∈ tags, tag ∈ parts.tags) ↔
        ∀ value, (mapped options record).find? options.tagsProperty = some value →
          ∀ tag ∈ tags, ∃ names, value = .multiSelect names ∧ tag ∈ names) ∧
      (parts.tags ≠ [] → ∃ items, parts.record.find? tagsField = some (.arr items) ∧
        ∀ tag ∈ parts.tags, .str tag ∈ items) := by
  intro parts
  have htags : parts.tags = settledTags options record tags := toParts_tags_eq_settledTags h
  refine ⟨htags, ?_, fun hne => find?_mergeTags hne _⟩
  rw [htags, settledTags]
  cases (mapped options record).find? options.tagsProperty with
  | none => simp
  | some value => cases value <;> simp

/-- A note whose tags have a mapping of their own. -/
def labelled : Options := { mappings := [⟨"tags", "Tags", .multiSelect⟩] }

def labelledNote : Record := Dict.ofList [("tags", .arr [.str "a"])]

/-- A tag that only the text of the note has does not come back. -/
theorem exists_tag_not_mem_labelledNote : ¬∀ tag ∈ ["a", "b"],
    tag ∈ (toParts labelled (ofRecord labelled labelledNote ["a", "b"] "")).tags := by
  decide

theorem tags_toParts_ofRecord_labelledNote : TitleApart labelled labelledNote "" ∧
    (toParts labelled (ofRecord labelled labelledNote ["a"] "")).tags = ["a"] := by
  have hapart : TitleApart labelled labelledNote "" := fun _ => .inl rfl
  exact ⟨hapart, (tags_toParts_ofRecord hapart).1⟩

end NoteBridge.Properties
