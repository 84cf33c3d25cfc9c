import NoteBridge.Properties
import NoteBridge.Proofs.Dict

/-!
What the parts of a property set hold, field by field. A mapped field has the value of its property,
the first mapping of the field that finds one being the one that counts, and a field that no mapping
fills may come from any other property. The tags are then added to their own field, each of them that
is not there yet and once only.
-/

namespace NoteBridge.Properties

open Page (PropertyValue PropertySet)
open Text (toSmallString)

variable {options : Options} {properties : PropertySet} {record : Record} {tags : List String}
  {items : List Json} {key : String}

/-- The front matter value of the property of a mapping. -/
def fieldValue? (properties : PropertySet) (mapping : Mapping) : Option Json :=
  (properties.find? mapping.property).bind PropertyValue.toFrontMatter?

theorem find?_addField (record : Record) (field : String) (value : PropertyValue) (key : String) :
    (addField record field value).find? key =
      (record.find? key).or (if field = key then value.toFrontMatter? else none) := by
  have hadd : addField record field value =
      if record.contains field then record
      else value.toFrontMatter?.elim record (record.insert field) := by
    rw [addField]
    cases value.toFrontMatter? <;> rfl
  rw [hadd, Dict.find?_fillIn]

theorem find?_addMappedField (properties : PropertySet) (record : Record) (mapping : Mapping)
    (key : String) : (addMappedField properties record mapping).find? key =
      (record.find? key).or
        (if mapping.field = key then fieldValue? properties mapping else none) := by
  unfold addMappedField fieldValue?
  cases properties.find? mapping.property with
  | none => simp
  | some value => exact find?_addField record mapping.field value key

/-- The fields that the mappings fill. -/
def mappedFields (options : Options) (properties : PropertySet) : Record :=
  options.mappings.foldl (addMappedField properties) ∅

/-- The first mapping of a field that finds a value decides. -/
theorem find?_mappedFields (options : Options) (properties : PropertySet) (key : String) :
    (mappedFields options properties).find? key = options.mappings.findSome? fun mapping =>
      if mapping.field = key then fieldValue? properties mapping else none := by
  rw [mappedFields, Dict.find?_foldl (find?_addMappedField properties), Dict.find?_empty,
    Option.none_or]

theorem tagList?_eq_some_iff :
    tagList? options properties = some tags ↔
      properties.find? options.tagsProperty = some (.multiSelect tags) := by
  unfold tagList?
  split
  · next hfind => simp [hfind]
  · next hother =>
    refine iff_of_false nofun ?_
    exact hother tags

/-- The properties that have no place in the record yet. -/
def others (options : Options) (properties : PropertySet) : List (String × PropertyValue) :=
  properties.entries.filter fun entry => !isConsumed options properties entry.1 entry.2

/-- The fields before the tags are added. -/
def fields (options : Options) (properties : PropertySet) : Record :=
  (others options properties).foldl (fun r entry => addField r (toSmallString entry.1) entry.2)
    (mappedFields options properties)

/-! ### Parts -/

theorem toParts_title (options : Options) (properties : PropertySet) :
    (toParts options properties).title = properties.title?.bind fun entry => entry.2.plainText? :=
  rfl

theorem toParts_tags (options : Options) (properties : PropertySet) :
    (toParts options properties).tags = (tagList? options properties).getD [] := rfl

theorem toParts_record (options : Options) (properties : PropertySet) :
    (toParts options properties).record =
      mergeTags (fields options properties) (toParts options properties).tags := rfl

theorem find?_mergeTags_of_ne (h : key ≠ tagsField) :
    (mergeTags record tags).find? key = record.find? key := by
  unfold mergeTags
  split
  · rfl
  · rw [Dict.find?_insert, if_neg h.symm]

/-! ### The entry for tags -/

theorem any_isText_iff {tag : String} : items.any (·.isText tag) = true ↔ Json.str tag ∈ items := by
  rw [List.any_eq_true]
  constructor
  · rintro ⟨item, hitem, htext⟩
    cases item with
    | str s => exact beq_iff_eq.1 htext ▸ hitem
    | _ => cases htext
  · exact fun hmem => ⟨_, hmem, beq_self_eq_true tag⟩

instance (tag : String) (items : List Json) : Decidable (Json.str tag ∈ items) :=
  decidable_of_iff _ any_isText_iff

/-- The tags that are not among the items, each of them once, where it comes first. -/
def newTags (items : List Json) (tags : List String) : List String :=
  (tags.filter fun tag => Json.str tag ∉ items).eraseDups

theorem newTags_cons_of_mem {tag : String} (h : Json.str tag ∈ items) :
    newTags items (tag :: tags) = newTags items tags := by
  rw [newTags, List.filter_cons_of_neg (by simpa using h), newTags]

/-- A new tag counts as an item for the tags behind it. -/
theorem newTags_cons_of_not_mem {tag : String} (h : Json.str tag ∉ items) :
    newTags items (tag :: tags) = tag :: newTags (items ++ [.str tag]) tags := by
  have hlater : ∀ other, decide (Json.str other ∉ items ++ [.str tag]) =
      (!other == tag && decide (Json.str other ∉ items)) := by
    intro other
    rw [Bool.eq_iff_iff]
    simp [and_comm]
  simp only [newTags, hlater, ← List.filter_filter]
  rw [List.filter_cons_of_pos (by simpa using h), List.eraseDups_cons]

theorem foldl_addTag (items : List Json) (tags : List String) :
    tags.foldl addTag items = items ++ (newTags items tags).map .str := by
  induction tags generalizing items with
  | nil => simp [newTags]
  | cons tag tags ih =>
    rw [List.foldl_cons, ih, addTag]
    by_cases hthere : Json.str tag ∈ items
    · rw [if_pos (any_isText_iff.2 hthere), newTags_cons_of_mem hthere]
    · rw [if_neg (mt any_isText_iff.1 hthere), newTags_cons_of_not_mem hthere, List.append_assoc]
      rfl

/-- Every tag is an item or a new tag. -/
theorem str_mem_append_newTags {tag : String} (h : tag ∈ tags) (items : List Json) :
    .str tag ∈ items ++ (newTags items tags).map .str := by
  by_cases hthere : Json.str tag ∈ items
  · exact List.mem_append_left _ hthere
  · refine List.mem_append_right _ (List.mem_map_of_mem ?_)
    rw [newTags, List.mem_eraseDups, List.mem_filter]
    exact ⟨h, decide_eq_true hthere⟩

theorem find?_mergeTags_tagsField (htags : tags ≠ []) (record : Record) :
    (mergeTags record tags).find? tagsField = some (.arr (listOf (record.find? tagsField) ++
      (newTags (listOf (record.find? tagsField)) tags).map .str)) := by
  rw [mergeTags, if_neg (by simpa using htags), Dict.find?_insert, if_pos rfl, foldl_addTag]

/-- The entry for tags is a list with every tag. -/
theorem find?_mergeTags (htags : tags ≠ []) (record : Record) :
    ∃ items, (mergeTags record tags).find? tagsField = some (.arr items) ∧
      ∀ tag ∈ tags, .str tag ∈ items :=
  ⟨_, find?_mergeTags_tagsField htags record, fun _ htag => str_mem_append_newTags htag _⟩

end NoteBridge.Properties
