import NoteBridge.Proofs.Properties.Parts
import NoteBridge.Proofs.Text.Search

/-!
Which property fills a field of the record. The mappings of the field come first, in the order of
the table, and behind them the properties that have no other place, in the order of their names, if
their name in small letters is that of the field. The first of these that has a front matter value
decides. The entry for tags is made a list then, and the tags of the set that it lacks are added.
-/

namespace NoteBridge.Properties

open Page (PropertyValue PropertySet)
open Text

variable {options : Options} {properties : PropertySet} {name key : String} {value : PropertyValue}
  {entry : Option Json} {items : List Json} {tags : List String}

/-- Whether a property may fill a field of its own name: it is no title, no mapping names it, and the
tags are not taken from it. -/
structure IsFree (options : Options) (properties : PropertySet) (name : String)
    (value : PropertyValue) : Prop where
  title : value.isTitle = false
  mapping : ∀ m ∈ options.mappings, m.property ≠ name
  tags : ∀ tags, properties.find? options.tagsProperty = some (.multiSelect tags) →
    name ≠ options.tagsProperty

theorem isConsumed_eq_false_iff :
    isConsumed options properties name value = false ↔ IsFree options properties name value := by
  have htags : (tagList? options properties).isSome = false ↔
      ∀ tags, properties.find? options.tagsProperty ≠ some (.multiSelect tags) := by
    simp only [Option.isSome_eq_false_iff, Option.isNone_iff_eq_none, Option.eq_none_iff_forall_ne_some,
      ne_eq, tagList?_eq_some_iff]
  simp only [isConsumed, Bool.or_eq_false_iff, List.any_eq_false, beq_iff_eq, Bool.and_eq_false_iff,
    htags, beq_eq_false_iff_ne]
  constructor
  · rintro ⟨⟨htitle, hmapping⟩, htags⟩
    refine ⟨htitle, hmapping, fun tags hfind => ?_⟩
    exact htags.resolve_left fun hnone => hnone tags hfind
  · rintro ⟨htitle, hmapping, htags⟩
    refine ⟨⟨htitle, hmapping⟩, ?_⟩
    by_cases hname : name = options.tagsProperty
    · exact .inl fun tags hfind => htags tags hfind hname
    · exact .inr hname

instance : Decidable (IsFree options properties name value) :=
  decidable_of_iff _ isConsumed_eq_false_iff

/-- The value that comes first for a field. -/
def firstValue? (options : Options) (properties : PropertySet) (key : String) : Option Json :=
  (options.mappings.findSome? fun m =>
    if m.field = key then fieldValue? properties m else none).or
  (properties.entries.findSome? fun entry =>
    if IsFree options properties entry.1 entry.2 ∧ toSmallString entry.1 = key then
      entry.2.toFrontMatter?
    else none)

theorem find?_fields (options : Options) (properties : PropertySet) (key : String) :
    (fields options properties).find? key = firstValue? options properties key := by
  have hstep : ∀ (record : Record) (entry : String × PropertyValue) (key : String),
      (if !isConsumed options properties entry.1 entry.2 then
        addField record (toSmallString entry.1) entry.2 else record).find? key =
      (record.find? key).or
        (if IsFree options properties entry.1 entry.2 ∧ toSmallString entry.1 = key then
          entry.2.toFrontMatter? else none) := by
    intro record entry key
    simp only [← isConsumed_eq_false_iff]
    cases isConsumed options properties entry.1 entry.2 with
    | true => simp
    | false => simp [find?_addField]
  rw [fields, others, List.foldl_filter, Dict.find?_foldl hstep, find?_mappedFields]
  rfl

/-! ### The entry for tags -/

/-- The elements of an entry: a list has its own, a text has its pieces between commas, trimmed and
without the empty ones, null has none, and any other value is one. -/
inductive ElementsOf : Option Json → List Json → Prop
  | absent : ElementsOf none []
  | null : ElementsOf (some .null) []
  | list (items : List Json) : ElementsOf (some (.arr items)) items
  | text {s : String} {pieces : List (List Char)} (hpieces : ∀ piece ∈ pieces, ',' ∉ piece)
    (hjoin : join [','] pieces = s.toList) : ElementsOf (some (.str s))
      (((pieces.map trim).filter (!·.isEmpty)).map fun piece => .str (String.ofList piece))
  | other {json : Json} (hnull : json ≠ .null) (hlist : ∀ items, json ≠ .arr items)
    (htext : ∀ s, json ≠ .str s) : ElementsOf (some json) [json]

theorem listOf_str {s : String} {pieces : List (List Char)}
    (hpieces : ∀ piece ∈ pieces, ',' ∉ piece) (hjoin : join [','] pieces = s.toList) :
    listOf (some (.str s)) =
      ((pieces.map trim).filter (!·.isEmpty)).map fun piece => .str (String.ofList piece) := by
  rw [listOf, Coerce.commaParts, ← hjoin]
  by_cases hne : pieces = []
  · subst hne
    rfl
  · rw [splitWhere_join (by decide) hne]
    intro piece hpiece c hc hcomma
    exact hpieces piece hpiece (beq_iff_eq.1 hcomma ▸ hc)

theorem elementsOf_iff : ElementsOf entry items ↔ items = listOf entry := by
  constructor
  · intro h
    cases h with
    | absent | null | list => rfl
    | text hpieces hjoin => exact (listOf_str hpieces hjoin).symm
    | @other json hnull hlist htext =>
      cases json with
      | null => exact absurd rfl hnull
      | arr items => exact absurd rfl (hlist items)
      | str s => exact absurd rfl (htext s)
      | _ => rfl
  · rintro rfl
    cases entry with
    | none => exact .absent
    | some json =>
      cases json with
      | null => exact .null
      | arr items => exact .list items
      | str s =>
        refine .text (fun piece hpiece hcomma => ?_) (join_splitWhere ',' s.toList)
        exact not_of_mem_splitWhere hpiece ',' hcomma rfl
      | _ => exact .other nofun nofun nofun

/-! ### Records -/

/-- Every field of the record but the one for tags holds the value that comes first for it, and so
does that one while the tags property holds no tags. If it holds some, the entry for tags is the list
of the elements of its first value and of the tags that are not among them. -/
theorem toParts_record_precedence (options : Options) (properties : PropertySet) :
    let record := (toParts options properties).record
    (∀ key, key ≠ tagsField ∨ (toParts options properties).tags = [] →
      record.find? key = firstValue? options properties key) ∧
      ∀ tags, properties.find? options.tagsProperty = some (.multiSelect tags) → tags ≠ [] →
        ∃ items, ElementsOf (firstValue? options properties tagsField) items ∧
          record.find? tagsField = some (.arr (items ++ (newTags items tags).map .str)) := by
  intro record
  have hrecord : record = mergeTags (fields options properties) (toParts options properties).tags :=
    toParts_record options properties
  constructor
  · intro key hkey
    rw [hrecord, ← find?_fields]
    rcases hkey with hkey | htags
    · exact find?_mergeTags_of_ne hkey
    · rw [htags]
      rfl
  · intro tags hfind hne
    have htags : (toParts options properties).tags = tags := by
      rw [toParts_tags, tagList?_eq_some_iff.2 hfind, Option.getD_some]
    refine ⟨_, elementsOf_iff.2 rfl, ?_⟩
    rw [hrecord, htags, find?_mergeTags_tagsField hne, find?_fields]

/-- Options by which the topics of a page are tags. -/
def topical : Options := { mappings := [⟨"tags", "Topics", .richText⟩] }

def topicalPage : PropertySet :=
  Dict.ofList [("Tags", .multiSelect ["c", "b", "c"]),
    ("Topics", .richText (Coerce.textRuns "a,, b".toList))]

theorem topicalPage_tags : (toParts topical topicalPage).record.find? tagsField =
    some (.arr [.str "a", .str "b", .str "c"]) := by
  obtain ⟨items, hitems, htags⟩ :=
    (toParts_record_precedence topical topicalPage).2 ["c", "b", "c"] (by decide) (by decide)
  have hfirst : firstValue? topical topicalPage tagsField = some (.str "a,, b") := rfl
  rw [hfirst, elementsOf_iff] at hitems
  rw [htags, hitems]
  rfl

/-- The piece between two commas is a topic only if it has characters. -/
theorem topicalPage_emptyTopic : (toParts topical topicalPage).record.find? tagsField ≠
    some (.arr ((splitWhere (· == ',') "a,, b".toList).map (fun piece =>
      .str (String.ofList (trim piece))) ++ [.str "c"])) := by
  have htags : (toParts topical topicalPage).record.find? tagsField =
      some (.arr [.str "a", .str "b", .str "c"]) := rfl
  have hpieces : ((splitWhere (· == ',') "a,, b".toList).map fun piece =>
      Json.str (String.ofList (trim piece))) = [.str "a", .str "", .str "b"] := rfl
  rw [htags, hpieces]
  simp

end NoteBridge.Properties
