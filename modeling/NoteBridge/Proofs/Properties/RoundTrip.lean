import Mathlib.Data.List.Nodup
import Mathlib.Data.List.Pairwise
import NoteBridge.Proofs.Properties.Coerce
import NoteBridge.Proofs.Properties.Tags

/-!
A note to properties and back. When no two mappings get in each other's way, every property goes
back to the field it came from, so the record that comes back holds the values that were produced,
in their normal form. It produces the same properties again, but for the values that front matter
cannot tell apart.
-/

namespace NoteBridge

open Page (PropertyValue PropertySet)
open Text (eqIgnoringAsciiCase)

/-- Whether all mappings, the tags and the title have fields and properties of their own. Fields
are told apart whatever their case. -/
structure Options.Separate (options : Options) : Prop where
  fields : (Properties.tagsField :: options.mappings.map Mapping.field).Pairwise fun a b =>
    eqIgnoringAsciiCase a b = false
  properties :
    (options.titleProperty :: options.tagsProperty :: options.mappings.map Mapping.property).Nodup

instance (options : Options) : Decidable options.Separate :=
  decidable_of_iff (_ ∧ _) ⟨fun h => ⟨h.1, h.2⟩, fun h => ⟨h.fields, h.properties⟩⟩

namespace Options.Separate

variable {options : Options} {m m' : Mapping}

theorem field_ne_tags (h : options.Separate) (hm : m ∈ options.mappings) :
    eqIgnoringAsciiCase Properties.tagsField m.field = false :=
  (List.pairwise_cons.1 h.fields).1 _ (List.mem_map_of_mem hm)

theorem eqIgnoringAsciiCase_field (h : options.Separate) (hm : m ∈ options.mappings)
    (hm' : m' ∈ options.mappings) (hne : m ≠ m') :
    eqIgnoringAsciiCase m.field m'.field = false := by
  have hfields := List.pairwise_map.1 (List.pairwise_cons.1 h.fields).2
  have hsymm : Std.Symm fun a b : Mapping => eqIgnoringAsciiCase a.field b.field = false := by
    constructor
    intro a b hab
    rw [eqIgnoringAsciiCase, BEq.comm]
    exact hab
  exact hfields.forall hm hm' hne

theorem field_ne (h : options.Separate) (hm : m ∈ options.mappings) (hm' : m' ∈ options.mappings)
    (hne : m ≠ m') : m.field ≠ m'.field := by
  intro heq
  have hdiffer := h.eqIgnoringAsciiCase_field hm hm' hne
  rw [heq, eqIgnoringAsciiCase, beq_self_eq_true] at hdiffer
  cases hdiffer

theorem property_ne_title (h : options.Separate) (hm : m ∈ options.mappings) :
    options.titleProperty ≠ m.property := by
  intro heq
  apply (List.nodup_cons.1 h.properties).1
  rw [heq]
  exact List.mem_cons_of_mem _ (List.mem_map_of_mem hm)

theorem property_ne_tags (h : options.Separate) (hm : m ∈ options.mappings) :
    options.tagsProperty ≠ m.property := by
  intro heq
  apply (List.nodup_cons.1 (List.nodup_cons.1 h.properties).2).1
  rw [heq]
  exact List.mem_map_of_mem hm

theorem title_ne_tags (h : options.Separate) : options.titleProperty ≠ options.tagsProperty := by
  intro heq
  apply (List.nodup_cons.1 h.properties).1
  rw [heq]
  exact List.mem_cons_self ..

theorem property_ne (h : options.Separate) (hm : m ∈ options.mappings)
    (hm' : m' ∈ options.mappings) (hne : m ≠ m') : m.property ≠ m'.property := by
  have hproperties := (List.nodup_cons.1 (List.nodup_cons.1 h.properties).2).2
  exact fun heq => hne (List.inj_on_of_nodup_map hproperties hm hm' heq)

end Options.Separate

namespace Properties

variable {options : Options} {record : Record} {tags : List String} {title : String} {m : Mapping}

/-- A search that only one element of the list can answer. -/
theorem findSome?_of_unique {α β : Type} {l : List α} {a : α} {f : α → Option β} (ha : a ∈ l)
    (h : ∀ b ∈ l, b ≠ a → f b = none) : l.findSome? f = f a := by
  induction l with
  | nil => cases ha
  | cons b l ih =>
    rw [List.findSome?_cons]
    by_cases hb : b = a
    · subst hb
      cases hf : f b with
      | some value => rfl
      | none =>
        rw [List.findSome?_eq_none_iff]
        intro c hc
        by_cases hcb : c = b
        · rw [hcb, hf]
        · exact h c (List.mem_cons_of_mem _ hc) hcb
    · have hmem : a ∈ l := (List.mem_cons.1 ha).resolve_left (Ne.symm hb)
      rw [h b (List.mem_cons_self ..) hb]
      exact ih hmem fun c hc => h c (List.mem_cons_of_mem _ hc)

/-! ### The property set -/

section

variable (h : options.Separate)
include h

theorem find?_mapped_of_mem (hm : m ∈ options.mappings) :
    (mapped options record).find? m.property = produced? record m := by
  rw [find?_mapped]
  refine (findSome?_of_unique hm ?_).trans (if_pos rfl)
  intro m' hm' hne
  exact if_neg (h.property_ne hm' hm hne)

theorem find?_ofRecord_of_mem (hm : m ∈ options.mappings) :
    (ofRecord options record tags title).find? m.property = produced? record m := by
  have htags : ¬(options.tagsProperty = m.property ∧ tags ≠ []) :=
    fun htags => h.property_ne_tags hm htags.1
  rw [find?_ofRecord_of_ne (h.property_ne_title hm), find?_addTags, find?_mapped_of_mem h hm,
    if_neg htags, Option.or_none]

end

/-- Every property that a note gives has its place in the record, as the tags or as the title. -/
theorem others_ofRecord (options : Options) (record : Record) (tags : List String)
    (title : String) : others options (ofRecord options record tags title) = [] := by
  rw [others, List.filter_eq_nil_iff]
  rintro ⟨name, value⟩ hentry
  have hfind := Dict.find?_eq_some_iff.2 hentry
  suffices hconsumed : isConsumed options (ofRecord options record tags title) name value = true by
    simp [hconsumed]
  rw [isConsumed, Bool.or_eq_true, Bool.or_eq_true]
  rcases find?_ofRecord_cases hfind with htitle | hmapped | ⟨rfl, rfl⟩
  · exact .inl (.inl htitle)
  · rw [find?_mapped] at hmapped
    obtain ⟨m, hm, hproduced⟩ := List.exists_of_findSome?_eq_some hmapped
    rw [Option.ite_none_right_eq_some] at hproduced
    exact .inl (.inr (List.any_eq_true.2 ⟨m, hm, beq_iff_eq.2 hproduced.1⟩))
  · rw [tagList?_eq_some_iff.2 hfind]
    simp

theorem fields_ofRecord (options : Options) (record : Record) (tags : List String)
    (title : String) : fields options (ofRecord options record tags title) =
      mappedFields options (ofRecord options record tags title) := by
  rw [fields, others_ofRecord, List.foldl_nil]

/-! ### The parts -/

theorem field_of_toParts_ofRecord {key : String} {json : Json} (hkey : key ≠ tagsField)
    (hjson : (toParts options (ofRecord options record tags title)).record.find? key = some json) :
    ∃ m ∈ options.mappings, m.field = key := by
  rw [toParts_record, find?_mergeTags_of_ne hkey, fields_ofRecord, find?_mappedFields] at hjson
  obtain ⟨m, hm, hfield⟩ := List.exists_of_findSome?_eq_some hjson
  rw [Option.ite_none_right_eq_some] at hfield
  exact ⟨m, hm, hfield.1⟩

/-- The title of the note is what fills in for a missing title, and comes back as it was. -/
theorem toParts_ofRecord_title (htitle : title ≠ "")
    (hmapped : (mapped options record).title? = none) :
    (toParts options (ofRecord options record tags title)).title = some title := by
  have hbase : (addTags options tags (mapped options record)).title? = none :=
    title?_addTags.2 hmapped
  have hset : ∀ name, (ofRecord options record tags title).find? name = _ :=
    find?_addTitle hbase htitle
  cases hfound : (ofRecord options record tags title).title? with
  | none =>
    have hnone := Page.PropertySet.title?_eq_none_iff.1 hfound options.titleProperty
    rw [hset, if_pos rfl] at hnone
    cases hnone _ rfl
  | some entry =>
    obtain ⟨name, value⟩ := entry
    obtain ⟨hfind, hvalue⟩ := Page.PropertySet.find?_of_title? hfound
    have hplain : value.plainText? = some title := by
      rw [hset] at hfind
      split at hfind
      · cases hfind
        simp [PropertyValue.plainText?]
      · rw [Page.PropertySet.title?_eq_none_iff.1 hbase name value hfind] at hvalue
        cases hvalue
    rw [toParts_title, hfound]
    exact hplain

/-- The title that comes back fills in where the title of the note did. -/
theorem addTitle_toParts_ofRecord (options : Options) (record : Record) (tags : List String)
    (title : String) :
    addTitle options ((toParts options (ofRecord options record tags title)).title.getD "")
        (addTags options tags (mapped options record)) = ofRecord options record tags title := by
  by_cases hmapped : (mapped options record).title? = none
  · by_cases htitle : title = ""
    · have hset : ofRecord options record tags title =
          addTags options tags (mapped options record) := addTitle_of_title? (.inr htitle)
      have hnone : (toParts options (ofRecord options record tags title)).title = none := by
        rw [toParts_title, hset, title?_addTags.2 hmapped, Option.bind_none]
      rw [hnone, hset]
      exact addTitle_of_title? (.inr rfl)
    · rw [toParts_ofRecord_title htitle hmapped]
      rfl
  · have hthere : (addTags options tags (mapped options record)).title? ≠ none :=
      mt title?_addTags.1 hmapped
    rw [ofRecord_eq, addTitle_of_title? (.inl hthere), addTitle_of_title? (.inl hthere)]

section

variable (h : options.Separate)
include h

theorem toParts_ofRecord_tags :
    (toParts options (ofRecord options record tags title)).tags = tags := by
  have hapart : TitleApart options record title := fun heq => absurd heq h.title_ne_tags
  have hmapped : (mapped options record).find? options.tagsProperty = none := by
    rw [find?_mapped, List.findSome?_eq_none_iff]
    intro m hm
    exact if_neg (h.property_ne_tags hm).symm
  rw [toParts_tags_eq_settledTags hapart, settledTags, hmapped]

theorem toParts_ofRecord_field (hm : m ∈ options.mappings) :
    (toParts options (ofRecord options record tags title)).record.find? m.field =
      (produced? record m).bind PropertyValue.toFrontMatter? := by
  have htags : m.field ≠ tagsField := by
    intro heq
    have hdiffer := h.field_ne_tags hm
    rw [heq, eqIgnoringAsciiCase, beq_self_eq_true] at hdiffer
    cases hdiffer
  rw [toParts_record, find?_mergeTags_of_ne htags, fields_ofRecord, find?_mappedFields]
  refine (findSome?_of_unique hm fun m' hm' hne => if_neg (h.field_ne hm' hm hne)).trans ?_
  rw [if_pos rfl, fieldValue?, find?_ofRecord_of_mem h hm]

theorem title?_mapped_eq_none_iff : (mapped options record).title? = none ↔
    ∀ m ∈ options.mappings, ∀ value, produced? record m = some value → value.isTitle = false := by
  rw [Page.PropertySet.title?_eq_none_iff]
  constructor
  · intro hnone m hm value hvalue
    apply hnone m.property
    rw [find?_mapped_of_mem h hm, hvalue]
  · intro hnone name value hfind
    rw [find?_mapped] at hfind
    obtain ⟨m, hm, hvalue⟩ := List.exists_of_findSome?_eq_some hfind
    rw [Option.ite_none_right_eq_some] at hvalue
    exact hnone m hm value hvalue.2

end

/-- What the parts of a note's properties hold of the note. -/
structure Parts.Restores (options : Options) (record : Record) (tags : List String)
    (title : String) (parts : Parts) : Prop where
  /-- A mapped field holds the front matter value of what its mapping produced. -/
  field : ∀ m ∈ options.mappings,
    parts.record.find? m.field = (produced? record m).bind PropertyValue.toFrontMatter?
  /-- What a mapping produced has such a value. -/
  value : ∀ m ∈ options.mappings, ∀ value, produced? record m = some value →
    ∃ json, parts.record.find? m.field = some json ∧ value.toFrontMatter? = some json
  /-- The record has no other fields but the one for tags. -/
  other : ∀ key json, parts.record.find? key = some json →
    key = tagsField ∨ ∃ m ∈ options.mappings, m.field = key
  tags : parts.tags = tags
  /-- The title stays when no mapping produced another one. -/
  title : title ≠ "" →
    (∀ m ∈ options.mappings, ∀ value, produced? record m = some value → value.isTitle = false) →
    parts.title = some title
  /-- The values that come back unchanged are the canonical ones. -/
  canonical : ∀ m ∈ options.mappings, ∀ json, lookup? record m.field = some json →
    (parts.record.find? m.field = some json ↔ Canonical m.type json)

theorem restores_toParts_ofRecord (h : options.Separate) (record : Record) (tags : List String)
    (title : String) :
    (toParts options (ofRecord options record tags title)).Restores options record tags title where
  field _ hm := toParts_ofRecord_field h hm
  value m hm value hvalue := by
    obtain ⟨s, hs, hcoerce⟩ := Option.bind_eq_some_iff.1 hvalue
    obtain ⟨json, hjson⟩ := (coerced_of_coerce? hcoerce).exists_toFrontMatter?
    refine ⟨json, ?_, hjson⟩
    rw [toParts_ofRecord_field h hm, hvalue, Option.bind_some, hjson]
  other key json hjson := by
    by_cases hkey : key = tagsField
    · exact .inl hkey
    · exact .inr (field_of_toParts_ofRecord hkey hjson)
  tags := toParts_ofRecord_tags h
  title htitle hmapped := toParts_ofRecord_title htitle ((title?_mapped_eq_none_iff h).2 hmapped)
  canonical m hm json hjson := by
    rw [toParts_ofRecord_field h hm, produced?, hjson, Option.bind_some]
    exact toFrontMatter?_coerce?_iff m.type json

/-- A journal, whose entries have a state, a day and a score. -/
def journal : Options :=
  { mappings := [⟨"state", "State", .select⟩, ⟨"day", "Day", .date⟩, ⟨"score", "Score", .number⟩] }

/-- An entry without a state. -/
def journalEntry : Record :=
  Dict.ofList [("Day", .str "01.03.2024"), ("score", .int 4), ("weather", .str "fair")]

theorem restores_journalEntry : journal.Separate ∧
    (toParts journal (ofRecord journal journalEntry ["walk"] "First")).Restores journal
      journalEntry ["walk"] "First" :=
  ⟨by decide, restores_toParts_ofRecord (by decide) journalEntry ["walk"] "First"⟩

/-! ### Pushing what was pulled -/

section

variable (h : options.Separate)
include h

/-- The record that comes back has at most one field that goes by the name of a mapping's. -/
theorem lookup?_toParts_ofRecord (hm : m ∈ options.mappings) :
    lookup? (toParts options (ofRecord options record tags title)).record m.field =
      (produced? record m).bind PropertyValue.toFrontMatter? := by
  rw [← toParts_ofRecord_field h hm, lookup?]
  split
  · next value hvalue => rw [hvalue]
  · next hnone =>
    rw [hnone, Option.map_eq_none_iff, List.find?_eq_none]
    rintro ⟨key, json⟩ hentry
    have hfind := Dict.find?_eq_some_iff.2 hentry
    by_cases hkey : key = tagsField
    · subst hkey
      simp [h.field_ne_tags hm]
    · obtain ⟨m', hm', rfl⟩ := field_of_toParts_ofRecord hkey hfind
      have hne : m' ≠ m := by
        rintro rfl
        rw [hnone] at hfind
        cases hfind
      simp [h.eqIgnoringAsciiCase_field hm' hm hne]

theorem produced?_toParts_ofRecord (hm : m ∈ options.mappings) :
    produced? (toParts options (ofRecord options record tags title)).record m =
      (produced? record m).bind fun value => value.toFrontMatter?.bind (coerce? m.type) := by
  rw [produced?, lookup?_toParts_ofRecord h hm, Option.bind_assoc]

theorem produced?_toParts_ofRecord_iff (hm : m ∈ options.mappings) {value : PropertyValue}
    (hvalue : produced? record m = some value) :
    produced? (toParts options (ofRecord options record tags title)).record m = some value ↔
      value.IsRestorable := by
  obtain ⟨json, -, hcoerce⟩ := Option.bind_eq_some_iff.1 hvalue
  rw [produced?_toParts_ofRecord h hm, hvalue, Option.bind_some]
  exact (coerced_of_coerce? hcoerce).restored_iff

/-- Pushing the parts of a note's properties gives these properties again if and only if every value
that the mappings produced is restorable. -/
theorem ofRecord_toParts_ofRecord_iff (record : Record) (tags : List String) (title : String) :
    let properties := ofRecord options record tags title
    let parts := toParts options properties
    ofRecord options parts.record parts.tags (parts.title.getD "") = properties ↔
      ∀ m ∈ options.mappings, ∀ value, produced? record m = some value → value.IsRestorable := by
  intro properties parts
  constructor
  · intro hsame m hm value hvalue
    rw [← produced?_toParts_ofRecord_iff h hm hvalue, ← hvalue, ← find?_ofRecord_of_mem h hm,
      ← find?_ofRecord_of_mem h hm]
    exact congrArg (Dict.find? · m.property) hsame
  · intro hall
    have hproduced : ∀ m ∈ options.mappings, produced? parts.record m = produced? record m := by
      intro m hm
      cases hvalue : produced? record m with
      | some value => exact (produced?_toParts_ofRecord_iff h hm hvalue).2 (hall m hm value hvalue)
      | none => rw [produced?_toParts_ofRecord h hm, hvalue, Option.bind_none]
    have hmapped : mapped options parts.record = mapped options record := by
      apply List.foldl_ext
      intro _ m hm
      rw [addMapped_eq, addMapped_eq, hproduced m hm]
    have htags : parts.tags = tags := toParts_ofRecord_tags h
    rw [ofRecord_eq, hmapped, htags]
    exact addTitle_toParts_ofRecord options record tags title

end

theorem ofRecord_toParts_journalEntry :
    let properties := ofRecord journal journalEntry ["walk"] "First"
    let parts := toParts journal properties
    journal.Separate ∧
      ofRecord journal parts.record parts.tags (parts.title.getD "") = properties := by
  refine ⟨by decide, (ofRecord_toParts_ofRecord_iff (by decide) journalEntry ["walk"] "First").2 ?_⟩
  intro m hm value hvalue
  simp only [journal, List.mem_cons, List.not_mem_nil, or_false] at hm
  rcases hm with rfl | rfl | rfl
  · cases hvalue
  · have hday : produced? journalEntry ⟨"day", "Day", .date⟩ =
        some (.date (some { start := "2024-03-01" })) := by rfl
    cases hday.symm.trans hvalue
    trivial
  · have hscore : produced? journalEntry ⟨"score", "Score", .number⟩ =
        some (.number (some (Double.ofInt 4))) := by rfl
    cases hscore.symm.trans hvalue
    exact ⟨by decide, by decide⟩

end Properties
end NoteBridge
