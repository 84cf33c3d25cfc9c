import NoteBridge.Proofs.Compose.Icon
import NoteBridge.Proofs.Note.RunLength
import NoteBridge.Proofs.Render.Callout
import NoteBridge.Proofs.Render.Outcome

/-!
Callouts on their way to a page and back. A page has no mark for a callout without a title, so the
body of one is told from a title by its looks alone. Where the table of icons keeps its names and
its icons apart, the first line of a callout comes back with its title, and with the first of the
names that have its icon.
-/

namespace NoteBridge

open Compose (CalloutMarker IsMarkerLine calloutLine? calloutMarker? calloutRuns compose firstLine
  localImageIcon markerLine quoteKind)
open Markdown (unescape)
open Markup (Inline Node)
open Page (Block Run)
open Render (HasTitleLine escape splitTitle)
open Text

variable {context : Compose.Context} {lead : List Inline} {rest : List Node} {blocks : List Block}
  {marker : CalloutMarker} {name title : List Char}

/-! ### Quotes with a marker -/

theorem quoteKind_of_calloutMarker? (context : Compose.Context)
    (h : calloutMarker? lead = some marker) :
    quoteKind context (some lead) = .callout (calloutRuns context marker)
      (context.options.callouts.iconFor (String.ofList marker.name)) .default := by
  rw [quoteKind, Option.bind_some, h]

/-- A quote becomes one block, with its first paragraph as its text. -/
theorem Compose.exists_of_documentBlocks_quote
    (h : Compose.documentBlocks context [.quote (.paragraph lead :: rest)] = .ok blocks) :
    ∃ nested, blocks = [⟨none, quoteKind context (some lead), nested⟩] := by
  obtain ⟨all, hall, h⟩ := bind_eq_ok_iff.1 h
  obtain ⟨_, -, hblocks⟩ := bind_eq_ok_iff.1 h
  cases hblocks
  rw [Compose.levelBlocks, Compose.levelBlocks, Compose.nodeBlocks] at hall
  obtain ⟨first, hfirst, hall⟩ := bind_eq_ok_iff.1 hall
  obtain ⟨nested, -, hfirst⟩ := bind_eq_ok_iff.1 hfirst
  cases hfirst
  cases hall
  exact ⟨nested, rfl⟩

theorem calloutMarker?_markerLine (hname : Compose.IsCalloutName name) (htitle : Tight title)
    (hline : '\n' ∉ title) (hlead : firstLine lead = markerLine name title) :
    calloutMarker? lead = some ⟨name, title, (lead.dropWhile (!·.isBreak)).drop 1⟩ := by
  refine Compose.calloutMarker?_eq_some_iff.2 ⟨?_, rfl⟩
  rw [hlead]
  exact Compose.calloutLine?_markerLine hname htitle hline

/-! ### Titles -/

/-- A title that was written is found again, with the body behind it. -/
theorem splitTitle_calloutRuns (context : Compose.Context) (h : calloutMarker? lead = some marker)
    (hne : marker.title ≠ []) :
    splitTitle (calloutRuns context marker) = (some marker.title, compose context marker.body) := by
  obtain ⟨htrim, hline⟩ := Compose.title_of_calloutMarker? h
  have hfull : marker.title.isEmpty = false := by simpa using hne
  have hchars : (Run.text (String.ofList marker.title) { bold := true }).chars = marker.title :=
    String.toList_ofList
  have hlooks : ∀ rest : List Run, (∀ next ∈ rest.head?, next.chars.head? = some '\n') →
      splitTitle (.text (String.ofList marker.title) { bold := true } :: rest) =
        (some marker.title, Render.dropLineFeed rest) := by
    intro rest hrest
    have htitle := Render.isTitleRun_iff.2 ⟨rfl, rfl, hchars.symm ▸ hline, hrest⟩
    rw [Render.splitTitle_of_isTitleRun htitle, hchars, htrim]
  rw [calloutRuns, hfull, if_neg (by decide), List.cons_append]
  cases marker.body with
  | nil => exact hlooks [] (by simp)
  | cons inline body => exact hlooks (.text "\n" :: _) fun next hnext => by cases hnext; rfl

theorem calloutRuns_of_title_eq_nil (context : Compose.Context) (h : marker.title = []) :
    calloutRuns context marker = compose context marker.body := by
  rw [calloutRuns, h]
  rfl

/-- The runs of a callout are taken apart into its title, if it has one, and its body, unless it has
no title and the first line of its body looks like one. -/
theorem callout_title_iff (context : Compose.Context) (h : calloutMarker? lead = some marker) :
    let runs := calloutRuns context marker
    let body := compose context marker.body
    let title := if marker.title = [] then none else some marker.title
    quoteKind context (some lead) =
        .callout runs (context.options.callouts.iconFor (String.ofList marker.name)) .default ∧
      ((splitTitle runs).1 = title ↔ marker.title = [] → ¬HasTitleLine body) ∧
      ((splitTitle runs).1 = title → (splitTitle runs).2 = body) := by
  intro runs body title
  refine ⟨quoteKind_of_calloutMarker? context h, ?_⟩
  by_cases hne : marker.title = []
  · have hruns : runs = body := calloutRuns_of_title_eq_nil context hne
    have htitle : title = none := if_pos hne
    rw [hruns, htitle, Render.splitTitle_eq_none_iff]
    refine ⟨by simp [hne], fun hnot => ?_⟩
    rw [Render.splitTitle_of_not hnot]
  · have htitle : title = some marker.title := if_neg hne
    rw [htitle, splitTitle_calloutRuns context h hne]
    simp [hne, body]

/-- A callout without a title, and with one bold word as its body. -/
def boldNote : List Inline := [.text "[!note]", .softBreak, .emphasis true [.text "b"]]

/-- The bold word is taken for the title. -/
theorem boldNote_gains_title :
    calloutMarker? boldNote = some ⟨"note".toList, [], [.emphasis true [.text "b"]]⟩ ∧
      (splitTitle (calloutRuns ⟨{}, .empty⟩
        ⟨"note".toList, [], [.emphasis true [.text "b"]]⟩)).1 ≠ none := by
  have hmarker : calloutMarker? boldNote =
      some ⟨"note".toList, [], [.emphasis true [.text "b"]]⟩ := rfl
  have hbody : compose ⟨{}, .empty⟩ [.emphasis true [.text "b"]] =
      [.text "b" { bold := true }] := by cbv
  refine ⟨hmarker, fun hnone => ?_⟩
  have hplain := (callout_title_iff ⟨{}, .empty⟩ hmarker).2.1.1 hnone rfl
  rw [hbody] at hplain
  exact hplain ⟨_, [], rfl, rfl, rfl, by decide, by simp⟩

/-! ### First lines -/

/-- The name that stands for the icon and the title are the first line of the markup. -/
theorem toMarkup_callout (bridge : Bridge) (h : calloutMarker? lead = some marker)
    (htitle : marker.title ≠ []) {icon : String} {first : List Char}
    (hicon : bridge.options.callouts.iconFor (String.ofList marker.name) = icon)
    (hlocal : icon ≠ localImageIcon)
    (hfirst : (bridge.options.callouts.nameFor icon).toList = first) (hfeed : '\n' ∉ first)
    (hblocks : bridge.toBlocks [.quote (.paragraph lead :: rest)] = .ok blocks) :
    ∃ more, bridge.toMarkup blocks = .ok (String.ofList
      ('>' :: ' ' :: markerLine first (escape false marker.title) ++ '\n' :: more)) := by
  obtain ⟨htrim, hline⟩ := Compose.title_of_calloutMarker? h
  have hsplit := splitTitle_calloutRuns ⟨bridge.options, bridge.resolver⟩ h htitle
  have hkind := quoteKind_of_calloutMarker? ⟨bridge.options, bridge.resolver⟩ h
  rw [hicon] at hkind
  obtain ⟨nested, rfl⟩ := Compose.exists_of_documentBlocks_quote hblocks
  obtain ⟨text, htext⟩ : ∃ text, Render.render ⟨bridge.options, bridge.resolver⟩ _ = .ok text :=
    Render.exists_render_of_documentBlocks hblocks
  have hcallout := htext
  rw [hkind] at hcallout
  obtain ⟨shown, hshown, rfl⟩ := Render.renderBlock_of_render_single rfl hcallout
  obtain ⟨tail, rfl, htail⟩ := Render.renderBlock_callout ⟨bridge.options, bridge.resolver⟩ hlocal
    hfirst hfeed hsplit ⟨htitle, htrim⟩ hline hshown
  obtain ⟨more, hmore⟩ := htail.exists_append_lineFeed
  refine ⟨more, ?_⟩
  rw [Bridge.toMarkup, htext, if_neg (by simp), List.append_assoc, hmore]
  rfl

/-- The first line of a quote with a name of the table and a title is written with the first name of
the group, and its marker is read as that name and the title. The icon is the same for both names.
-/
theorem callout_line_reread (bridge : Bridge) (h : bridge.options.callouts.Apart)
    {group : CalloutGroup} (hgroup : group ∈ bridge.options.callouts.groups)
    {name typed : String} (hname : name ∈ group.names)
    (htyped : eqIgnoringAsciiCase name typed = true) (htitle : Tight title) (hline : '\n' ∉ title)
    (hlead : firstLine lead = markerLine typed.toList title) :
    let icons := bridge.options.callouts
    ∃ first, group.names.head? = some first ∧
      (∃ runs, bridge.toBlocks [.quote [.paragraph lead]] =
        .ok [.leaf (.callout runs (icons.iconFor typed) .default)]) ∧
      (∀ rest blocks, bridge.toBlocks [.quote (.paragraph lead :: rest)] = .ok blocks →
        ∃ more, bridge.toMarkup blocks = .ok (String.ofList
          ('>' :: ' ' :: markerLine first.toList (escape false title) ++ '\n' :: more))) ∧
      '\n' ∉ markerLine first.toList (escape false title) ∧
      (∀ n fold shown,
        IsMarkerLine (markerLine first.toList (unescape (escape false title))) n fold shown ↔
          n = first.toList ∧ fold = none ∧ shown = title) ∧
      calloutLine? (markerLine first.toList (unescape (escape false title))) =
        some (first.toList, title) ∧
      icons.iconFor first = icons.iconFor typed := by
  intro icons
  obtain ⟨first, others, hnames⟩ := List.exists_cons_of_ne_nil (h.named group hgroup)
  have hfirst : first ∈ group.names := hnames ▸ List.mem_cons_self ..
  have hsame : eqIgnoringAsciiCase first first = true := CalloutIcons.eqIgnoringAsciiCase_iff.2 rfl
  have hicon : icons.iconFor typed = group.icon := h.iconFor_eq hgroup hname htyped
  have hback : icons.nameFor group.icon = first := by rw [h.nameFor_icon hgroup, hnames]; rfl
  have hlocal : group.icon ≠ localImageIcon := fun heq =>
    h.localImage (heq ▸ List.mem_map_of_mem hgroup)
  have hcallout : Compose.IsCalloutName first.toList := h.names group hgroup first hfirst
  have hread : unescape (escape false title) = title := (Render.spells_escapeFrom _ _).reads
  have hfeed : '\n' ∉ first.toList := Compose.lineFeed_not_mem_of_isCalloutName hcallout
  have hmarker := calloutMarker?_markerLine (h.isCalloutName hgroup hname htyped) htitle hline hlead
  have hkind := quoteKind_of_calloutMarker? ⟨bridge.options, bridge.resolver⟩ hmarker
  dsimp only at hkind
  rw [String.ofList_toList] at hkind
  refine ⟨first, by rw [hnames]; rfl, ?_, fun rest blocks hblocks => ?_, ?_, ?_, ?_, ?_⟩
  · rw [Bridge.toBlocks, documentBlocks_quote, hkind]
    exact ⟨_, rfl⟩
  · refine toMarkup_callout bridge hmarker htitle.1 ?_ hlocal (congrArg _ hback) hfeed hblocks
    rw [String.ofList_toList]
    exact hicon
  · exact Render.lineFeed_not_mem_markerLine hfeed hline
  · intro n fold shown
    rw [hread]
    exact Compose.isMarkerLine_markerLine_iff hcallout htitle hline
  · rw [hread]
    exact Compose.calloutLine?_markerLine hcallout htitle hline
  · rw [hicon]
    exact h.iconFor_eq hgroup hfirst hsame

/-- The last of three names, in capitals, comes back as the first one. -/
theorem callout_line_reread_tldr :
    CalloutIcons.standard.Apart ∧
      firstLine [.text "[!TLDR] a *b*"] = markerLine "TLDR".toList "a *b*".toList ∧
      ∃ blocks more,
        Bridge.toBlocks {} [.quote [.paragraph [.text "[!TLDR] a *b*"]]] = .ok blocks ∧
        Bridge.toMarkup {} blocks =
          .ok (String.ofList ("> [!abstract] a \\*b\\*".toList ++ '\n' :: more)) := by
  have happart : CalloutIcons.standard.Apart := by decide +kernel
  have hlead : firstLine [.text "[!TLDR] a *b*"] = markerLine "TLDR".toList "a *b*".toList := by
    decide
  have hgroup : CalloutGroup.mk ["abstract", "summary", "tldr"] "📋" ∈
      CalloutIcons.standard.groups := by decide
  have hname : "tldr" ∈ ["abstract", "summary", "tldr"] := by decide
  obtain ⟨first, hfirst, ⟨runs, hblocks⟩, hmarkup, -⟩ :=
    callout_line_reread {} happart hgroup hname (by decide) (by decide) (by decide) hlead
  cases hfirst
  obtain ⟨more, hmore⟩ := hmarkup [] _ hblocks
  exact ⟨happart, hlead, _, more, hblocks, hmore.trans (by rfl)⟩

end NoteBridge
