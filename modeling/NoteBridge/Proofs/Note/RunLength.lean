import NoteBridge.Note
import NoteBridge.Proofs.Compose.RunLength

/-!
The runs of the page that a note becomes. All texts of its properties are cut to the limit, so what
can be too long are the labels of the document, and nothing else.
-/

namespace NoteBridge

open Page (Block PropertySet PropertyType PropertyValue Run runLimit runsOf)
open Sync (TargetPage)

/-! ### Properties -/

theorem Coerce.fits_of_mem_textRuns {cs : List Char} : ∀ run ∈ textRuns cs, run.Fits :=
  Page.fits_of_mem_boundRuns

theorem Coerce.fits_of_runs? {value : Json} {runs : List Run} (h : runs? value = some runs) :
    ∀ run ∈ runs, run.Fits := by
  unfold runs? at h
  split at h
  · cases h
    exact fits_of_mem_textRuns
  · obtain ⟨cs, -, rfl⟩ := Option.map_eq_some_iff.1 h
    exact fits_of_mem_textRuns

theorem fits_of_coerce? {type : PropertyType} {json : Json} {value : PropertyValue}
    (h : coerce? type json = some value) : ∀ run ∈ value.runs, run.Fits := by
  cases type with
  | title | richText =>
    obtain ⟨runs, hruns, rfl⟩ := Option.map_eq_some_iff.1 h
    exact Coerce.fits_of_runs? hruns
  | number | select | multiSelect | date | checkbox | url | email | phoneNumber =>
    obtain ⟨_, -, rfl⟩ := Option.map_eq_some_iff.1 h
    exact List.forall_mem_nil _

namespace Properties

theorem runs_insert_fit {properties : PropertySet} {name : String} {value : PropertyValue}
    (h : ∀ run ∈ properties.runs, run.Fits) (hvalue : ∀ run ∈ value.runs, run.Fits) :
    ∀ run ∈ PropertySet.runs (properties.insert name value), run.Fits := by
  intro run hrun
  obtain ⟨entry, hentry, hrun⟩ := List.mem_flatMap.1 hrun
  rcases Entries.mem_insert hentry with rfl | hentry
  · exact hvalue run hrun
  · exact h run (List.mem_flatMap.2 ⟨entry, hentry, hrun⟩)

theorem runs_addMapped_fit {properties : PropertySet} (record : Record) (mapping : Mapping)
    (h : ∀ run ∈ properties.runs, run.Fits) :
    ∀ run ∈ (addMapped record properties mapping).runs, run.Fits := by
  unfold addMapped
  split
  · exact h
  · split
    · next value hvalue =>
      obtain ⟨json, -, hjson⟩ := Option.bind_eq_some_iff.1 hvalue
      exact runs_insert_fit h (fits_of_coerce? hjson)
    · exact h

theorem runs_foldl_fit (record : Record) (mappings : List Mapping) {properties : PropertySet}
    (h : ∀ run ∈ properties.runs, run.Fits) :
    ∀ run ∈ (mappings.foldl (addMapped record) properties).runs, run.Fits := by
  induction mappings generalizing properties with
  | nil => exact h
  | cons mapping mappings ih => exact ih (runs_addMapped_fit record mapping h)

theorem runs_addTags_fit {options : Options} {tags : List String} {properties : PropertySet}
    (h : ∀ run ∈ properties.runs, run.Fits) :
    ∀ run ∈ (addTags options tags properties).runs, run.Fits := by
  unfold addTags
  split
  · exact runs_insert_fit h (List.forall_mem_nil _)
  · exact h

theorem runs_addTitle_fit {options : Options} {title : String} {properties : PropertySet}
    (h : ∀ run ∈ properties.runs, run.Fits) :
    ∀ run ∈ (addTitle options title properties).runs, run.Fits := by
  unfold addTitle
  split
  · exact runs_insert_fit h Coerce.fits_of_mem_textRuns
  · exact h

theorem runs_ofRecord_fit (options : Options) (record : Record) (tags : List String)
    (title : String) : ∀ run ∈ (ofRecord options record tags title).runs, run.Fits :=
  runs_addTitle_fit <| runs_addTags_fit <| runs_foldl_fit record _ <| List.forall_mem_nil _

end Properties

/-! ### Pages -/

/-- The page of a note has only runs that fit exactly when no label of its document, which is the
text of an image or the title of a callout, is above the limit. -/
theorem toPage_runs_fit_iff {bridge : Bridge} {note : Note} {page : TargetPage}
    (h : bridge.toPage note = .ok page) :
    (∀ run ∈ page.runs, run.chars.length ≤ runLimit) ↔
      ∀ label ∈ Compose.levelLabels note.document, label.length ≤ runLimit := by
  obtain ⟨blocks, hblocks, heq⟩ := bind_eq_ok_iff.1 h
  cases heq
  have hproperties := Properties.runs_ofRecord_fit bridge.options note.record note.tags note.title
  rw [TargetPage.runs, List.forall_mem_append]
  have hblocks := Compose.documentBlocks_fitWith hblocks
  exact ⟨fun hall => hblocks.1 hall.2, fun hall => ⟨hproperties, hblocks.2 hall⟩⟩

/-- A title that is one character above the limit. -/
def longTitle : List Char := List.replicate (runLimit + 1) 'a'

theorem length_longTitle : longTitle.length = runLimit + 1 := List.length_replicate

/-- The first line of a callout with a title. -/
def calloutLine (title : List Char) : List Char := ['[', '!', 't', 'i', 'p', ']'] ++ title

def calloutNote (title : List Char) : Note where
  title := ""
  record := ∅
  tags := []
  document := [.quote [.paragraph [.text (String.ofList (calloutLine title))]]]

theorem calloutMarker?_longTitle :
    Compose.calloutMarker? [.text (String.ofList (calloutLine longTitle))] =
      some ⟨['t', 'i', 'p'], longTitle, []⟩ := by
  have hline : Compose.calloutLine? (Text.trim (calloutLine longTitle)) =
      some (['t', 'i', 'p'], longTitle) := by
    decide +kernel
  simp only [Compose.calloutMarker?, List.takeWhile, List.dropWhile, Markup.Inline.isBreak,
    Markup.Inline.plainCharsAll, Markup.Inline.plainChars, String.toList_ofList, List.append_nil,
    Bool.not_false, hline]
  rfl

theorem levelLabels_callout {content : List Markup.Inline} {marker : Compose.CalloutMarker}
    (h : Compose.calloutMarker? content = some marker) :
    Compose.levelLabels [.quote [.paragraph content]] = [marker.title] := by
  simp [Compose.levelLabels, Compose.nodeLabels, Compose.restLabels, Compose.titleLabels,
    Compose.splitLead, h]

theorem documentBlocks_quote (context : Compose.Context) (content : List Markup.Inline) :
    Compose.documentBlocks context [.quote [.paragraph content]] =
      .ok [{ kind := Compose.quoteKind context (some content) }] := by
  have hcheck : Page.check [{ kind := Compose.quoteKind context (some content) }] = .ok () := by
    unfold Compose.quoteKind
    split <;> rfl
  change (Page.check [{ kind := Compose.quoteKind context (some content) }] >>= fun _ => _) = _
  rw [hcheck]
  rfl

/-- The note of that callout becomes a page, and one of its runs does not fit. -/
theorem exists_long_run_of_longTitle :
    ∃ page, Bridge.toPage {} (calloutNote longTitle) = .ok page ∧
      ¬∀ run ∈ page.runs, run.chars.length ≤ runLimit := by
  obtain ⟨page, hpage⟩ : ∃ page, Bridge.toPage {} (calloutNote longTitle) = .ok page :=
    ⟨_, bind_eq_ok_iff.2 ⟨_, documentBlocks_quote _ _, rfl⟩⟩
  refine ⟨page, hpage, fun hall => ?_⟩
  have hlabels : Compose.levelLabels (calloutNote longTitle).document = [longTitle] :=
    levelLabels_callout calloutMarker?_longTitle
  have hlong := (toPage_runs_fit_iff hpage).1 hall longTitle
    (by rw [hlabels]; exact List.mem_singleton_self _)
  rw [length_longTitle] at hlong
  omega

end NoteBridge
