import NoteBridge.Compose.Inline
import NoteBridge.Proofs.Compose.Highlight
import NoteBridge.Proofs.Markup.Inline
import NoteBridge.Proofs.Page.Stream

/-!
What inline content shows, as a stream. Style and link flow down to each character from what it
stands in, so that neighbours cannot see them; a link gives way to one around it. Composing marks
links from the inside out, merges runs and cuts them, and comes to the same stream, apart from what
the limit leaves of mentions and equations.
-/

namespace NoteBridge.Compose

open Markup (CrossRef Inline inlines_induct)
open Page (Item Run Style charItems stream stream_append stream_cons)

variable {context : Context} {style : Style} {link : Option String} {inlines : List Inline}

/-! ### What content denotes -/

/-- Highlighted characters have the color of highlights, and the marks around them are not shown. -/
def textItems (context : Context) (style : Style) (link : Option String) (cs : List Char) :
    List Item :=
  (shownChars (segments cs)).map fun (c, highlighted) =>
    .char c (if highlighted then { style with color := context.options.highlight } else style) link

/-- A reference to an image file is its name, one to a page that is known a mention of it, and any
other is what the options make of it. -/
def crossRefItems (context : Context) (style : Style) (link : Option String) (ref : CrossRef) :
    List Item :=
  if ref.embed && CrossRef.isImageTarget ref.target then charItems style link ref.shown.toList
  else
    match context.resolver.page? ref.target, context.options.unresolved with
    | some page, _ => [.mention ref.shown page style]
    | none, .placeholder =>
      charItems { style with color := .letters .red } link
        ("[[".toList ++ ref.shown.toList ++ "]]".toList)
    | none, .text => charItems style link ref.shown.toList
    | none, .skip => []

mutual

/-- Whether content becomes no run, not even an empty one. -/
def isSilent (context : Context) : Inline → Bool
  | .text content => content.toList.isEmpty
  | .emphasis _ children => allSilent context children
  | .strikethrough children => allSilent context children
  | .crossRef ref =>
    !(ref.embed && CrossRef.isImageTarget ref.target) &&
      (context.resolver.page? ref.target).isNone && context.options.unresolved == .skip
  | .checkbox _ => true
  | .code _ | .link .. | .autolink _ | .image .. | .raw _ | .math .. | .softBreak | .lineBreak =>
    false

def allSilent (context : Context) : List Inline → Bool
  | [] => true
  | inline :: inlines => isSilent context inline && allSilent context inlines

end

mutual

/-- What inline content denotes inside of a style and a link: of two links the outer one counts, and
a link around silent content shows its address. -/
def denote (context : Context) (style : Style) (link : Option String) : Inline → List Item
  | .text content => textItems context style link content.toList
  | .emphasis true children => denoteAll context { style with bold := true } link children
  | .emphasis false children => denoteAll context { style with italic := true } link children
  | .strikethrough children => denoteAll context { style with strikethrough := true } link children
  | .code content => charItems { style with code := true } link content.toList
  | .link url _ children =>
    if allSilent context children then charItems style (link.or (some url)) url.toList
    else denoteAll context style (link.or (some url)) children
  | .autolink url => charItems style (link.or (some url)) url.toList
  | .image url alt _ =>
    charItems style (if Url.isRemote url then link.or (some url) else link)
      (if alt.isEmpty then url else alt).toList
  | .raw content => charItems style link content.toList
  | .crossRef ref => crossRefItems context style link ref
  | .math _ literal => [.equation (Text.onString Text.trim literal) style]
  | .checkbox _ => []
  | .softBreak | .lineBreak => [.char '\n' style link]

def denoteAll (context : Context) (style : Style) (link : Option String) : List Inline → List Item
  | [] => []
  | inline :: inlines => denote context style link inline ++ denoteAll context style link inlines

end

theorem denoteAll_eq_flatMap (context : Context) (style : Style) (link : Option String)
    (inlines : List Inline) :
    denoteAll context style link inlines = inlines.flatMap (denote context style link) := by
  induction inlines with
  | nil => rw [denoteAll, List.flatMap_nil]
  | cons inline inlines ih => rw [denoteAll, ih, List.flatMap_cons]

/-! ### Silent content -/

theorem crossRefRuns_eq_nil_iff (style : Style) (ref : CrossRef) :
    crossRefRuns context style ref = [] ↔ isSilent context (.crossRef ref) = true := by
  rw [crossRefRuns, isSilent]
  cases ref.embed && CrossRef.isImageTarget ref.target with
  | true => exact ⟨nofun, nofun⟩
  | false =>
    cases context.resolver.page? ref.target with
    | some page => exact ⟨nofun, nofun⟩
    | none =>
      cases context.options.unresolved with
      | placeholder | text => exact ⟨nofun, nofun⟩
      | skip => exact ⟨fun _ => rfl, fun _ => rfl⟩

theorem inlineRuns_eq_nil_iff_of_isLeaf {inline : Inline} (h : inline.isLeaf = true)
    (style : Style) : inlineRuns context style inline = [] ↔ isSilent context inline = true := by
  cases inline with
  | emphasis | strikethrough | link => cases h
  | text content =>
    rw [inlineRuns, isSilent, textRuns, List.map_eq_nil_iff, highlights_eq_nil_iff,
      List.isEmpty_iff]
  | crossRef ref =>
    rw [inlineRuns]
    exact crossRefRuns_eq_nil_iff style ref
  | checkbox checked => exact ⟨fun _ => rfl, fun _ => rfl⟩
  | code | autolink | image | raw | math | softBreak | lineBreak => exact ⟨nofun, nofun⟩

theorem inlineRunsAll_eq_nil_iff (style : Style) (inlines : List Inline) :
    inlineRunsAll context style inlines = [] ↔ allSilent context inlines = true := by
  induction inlines using inlines_induct generalizing style with
  | nil => exact ⟨fun _ => rfl, fun _ => rfl⟩
  | leaf inline rest hleaf ih =>
    rw [inlineRunsAll, allSilent, List.append_eq_nil_iff, Bool.and_eq_true, ih,
      inlineRuns_eq_nil_iff_of_isLeaf hleaf]
  | emphasis strong children rest ihc ihr =>
    rw [inlineRunsAll, allSilent, List.append_eq_nil_iff, Bool.and_eq_true, ihr, isSilent]
    cases strong <;> rw [inlineRuns, ihc]
  | strikethrough children rest ihc ihr =>
    rw [inlineRunsAll, allSilent, List.append_eq_nil_iff, Bool.and_eq_true, ihr, isSilent,
      inlineRuns, ihc]
  | link url title children rest ihc ihr =>
    have hlink : linkRuns style url (inlineRunsAll context style children) ≠ [] := by
      rw [linkRuns]
      split
      · exact List.cons_ne_nil _ _
      · next hruns => rwa [ne_eq, List.map_eq_nil_iff, ← List.isEmpty_iff]
    rw [inlineRunsAll, allSilent, List.append_eq_nil_iff, Bool.and_eq_true, isSilent, inlineRuns]
    exact ⟨fun h => absurd h.1 hlink, fun h => by cases h.1⟩

/-! ### Links from the inside out -/

/-- An item inside of a link, if there is one around it. -/
def underLink : Option String → Item → Item
  | some url, .char c style _ => .char c style (some url)
  | _, item => item

theorem map_underLink_charItems (style : Style) (inner link : Option String) (cs : List Char) :
    (charItems style inner cs).map (underLink link) = charItems style (link.or inner) cs := by
  unfold charItems
  rw [List.map_map]
  cases link <;> rfl

theorem map_underLink_text (content : String) (style : Style) (link : Option String) :
    (stream [Run.text content style]).map (underLink link) =
      charItems style link content.toList := by
  rw [Page.stream_single, Run.items_text, map_underLink_charItems, Option.or_none]

theorem map_underLink_linked (content url : String) (style : Style) (link : Option String) :
    (stream [Run.linked content url style]).map (underLink link) =
      charItems style (link.or (some url)) content.toList := by
  rw [Page.stream_single, Run.items_linked, map_underLink_charItems]

theorem items_linkRun (url : String) (run : Run) :
    (linkRun url run).items = run.items.map (underLink (some url)) := by
  obtain ⟨content, style, kind⟩ := run
  cases kind with
  | text link => exact (map_underLink_charItems style link (some url) _).symm
  | mention page => rfl
  | equation => rfl

theorem underLink_underLink (url : String) (link : Option String) (item : Item) :
    underLink link (underLink (some url) item) = underLink (link.or (some url)) item := by
  cases link <;> cases item <;> rfl

theorem stream_map_linkRun (url : String) (runs : List Run) :
    stream (runs.map (linkRun url)) = (stream runs).map (underLink (some url)) := by
  rw [stream, stream, List.flatMap_map, List.map_flatMap]
  congr 1
  funext run
  exact items_linkRun url run

/-! ### Streams -/

theorem map_underLink_textRuns (context : Context) (style : Style) (link : Option String)
    (cs : List Char) :
    (stream (textRuns context style cs)).map (underLink link) =
      textItems context style link cs := by
  rw [textItems, ← pieceChars_highlights, pieceChars, stream, textRuns, List.flatMap_map,
    List.map_flatMap, List.map_flatMap]
  congr 1
  funext piece
  rw [Run.items_text, map_underLink_charItems, String.toList_ofList, Option.or_none, List.map_map]
  rfl

theorem map_underLink_crossRefRuns (context : Context) (style : Style) (link : Option String)
    (ref : CrossRef) :
    (stream (crossRefRuns context style ref)).map (underLink link) =
      crossRefItems context style link ref := by
  rw [crossRefRuns, crossRefItems]
  split
  · exact map_underLink_text ref.shown style link
  · cases context.resolver.page? ref.target with
    | some page => cases link <;> rfl
    | none =>
      cases context.options.unresolved with
      | placeholder =>
        dsimp only
        rw [map_underLink_text, placeholder, String.toList_append, String.toList_append]
      | text => exact map_underLink_text ref.shown style link
      | skip => rfl

theorem map_underLink_leaf {inline : Inline} (h : inline.isLeaf = true) :
    (stream (inlineRuns context style inline)).map (underLink link) =
      denote context style link inline := by
  cases inline with
  | emphasis | strikethrough | link => cases h
  | text content => rw [inlineRuns, denote, map_underLink_textRuns]
  | crossRef ref => rw [inlineRuns, denote, map_underLink_crossRefRuns]
  | code content | raw content => rw [inlineRuns, denote, map_underLink_text]
  | autolink url => rw [inlineRuns, denote, map_underLink_linked]
  | image url alt title =>
    rw [inlineRuns, denote, imageRun]
    cases Url.isRemote url with
    | true => exact map_underLink_linked _ url style link
    | false => exact map_underLink_text _ style link
  | math display literal =>
    rw [inlineRuns, denote]
    cases link <;> rfl
  | checkbox checked => rfl
  | softBreak | lineBreak =>
    rw [inlineRuns, denote, map_underLink_text]
    rfl

theorem map_underLink_inlineRunsAll (context : Context) (style : Style) (link : Option String)
    (inlines : List Inline) :
    (stream (inlineRunsAll context style inlines)).map (underLink link) =
      denoteAll context style link inlines := by
  -- The link around the content is arbitrary: inside of a link it is another one than outside.
  induction inlines using inlines_induct generalizing style link with
  | nil => rfl
  | leaf inline rest hleaf ih =>
    rw [inlineRunsAll, denoteAll, stream_append, List.map_append, map_underLink_leaf hleaf, ih]
  | emphasis strong children rest ihc ihr =>
    rw [inlineRunsAll, denoteAll, stream_append, List.map_append, ihr]
    cases strong <;> rw [inlineRuns, denote, ihc]
  | strikethrough children rest ihc ihr =>
    rw [inlineRunsAll, denoteAll, stream_append, List.map_append, ihr, inlineRuns, denote, ihc]
  | link url title children rest ihc ihr =>
    rw [inlineRunsAll, denoteAll, stream_append, List.map_append, ihr, inlineRuns, denote, linkRuns]
    simp only [List.isEmpty_iff, inlineRunsAll_eq_nil_iff]
    congr 1
    split
    · exact map_underLink_linked url url style link
    · rw [stream_map_linkRun, List.map_map, ← ihc]
      congr 1
      funext item
      exact underLink_underLink url link item

/-- Composed content shows what its elements denote, one after the other, up to the limit. -/
theorem stream_compose (context : Context) (inlines : List Inline) (style : Style) :
    stream (compose context inlines style) =
      (inlines.flatMap (denote context style none)).flatMap Item.bounded := by
  have hall := map_underLink_inlineRunsAll context style none inlines
  have hsame : underLink none = id := by
    funext item
    cases item <;> rfl
  rw [hsame, List.map_id] at hall
  rw [compose, Page.stream_boundRuns, Page.stream_mergeRuns, hall, denoteAll_eq_flatMap]

end NoteBridge.Compose
