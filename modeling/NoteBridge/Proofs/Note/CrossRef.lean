import NoteBridge.Compose.Inline
import NoteBridge.Proofs.Markup.CrossRef
import NoteBridge.Proofs.Page.Stream
import NoteBridge.Proofs.Render.Run
import NoteBridge.Proofs.Resolver

/-!
References on their way to a page and back. A mention is written as a reference to the name of its
page, with the text it shows as the label where that is not the name, and read again it is the same
mention. A reference without a label stays one when it does not resolve, while its text fits into
one run. What neither keeps is the heading.
-/

namespace NoteBridge

open Markup (CrossRef)
open Markup.CrossRef (IsName)
open Markup.WikiLink (enclosed tight_enclosed)
open Page (Color Run Style runLimit)
open Text (Tight trim)

/-! ### Composing one reference -/

namespace Page

theorem mergeRuns_single {run : Run} (h : run.items ≠ []) : mergeRuns [run] = [run] := by
  rw [mergeRuns, if_neg (mt Run.items_eq_nil_iff.2 h)]
  rfl

theorem boundRuns_single (run : Run) : boundRuns [run] = run.bounded := List.append_nil _

theorem Run.bounded_of_long {run : Run} {link : Option String} (hkind : run.kind = .text link)
    (hlong : runLimit < run.chars.length) :
    run.bounded = (splitText runLimit run.chars).map run.withChars := by
  rw [Run.bounded, if_neg (Nat.not_le.2 hlong)]
  simp only [hkind]

end Page

namespace Compose

variable {context : Context} {ref : CrossRef}

theorem compose_crossRef (context : Context) (ref : CrossRef) :
    compose context [.crossRef ref] =
      Page.boundRuns (Page.mergeRuns (crossRefRuns context {} ref)) := by
  simp [compose, inlineRunsAll, inlineRuns]

theorem compose_of_page? {page : String} (hembed : ref.embed = false)
    (h : context.resolver.page? ref.target = some page) :
    compose context [.crossRef ref] =
      [.mention (String.ofList (ref.shown.toList.take runLimit)) page] := by
  have hruns : crossRefRuns context {} ref = [.mention ref.shown page] := by
    simp [crossRefRuns, hembed, h]
  have hitems : (Run.mention ref.shown page).items ≠ [] := List.cons_ne_nil _ _
  rw [compose_crossRef, hruns, Page.mergeRuns_single hitems, Page.boundRuns_single, Run.bounded]
  split
  · next hshort =>
    have hwhole : ref.shown.toList.take runLimit = ref.shown.toList :=
      List.take_of_length_le hshort
    rw [hwhole, String.ofList_toList]
  · rfl

/-- What a reference that does not resolve becomes. -/
def placeholderRun (shown : String) : Run :=
  .text (placeholder shown) { color := .letters .red }

theorem chars_placeholderRun (shown : String) :
    (placeholderRun shown).chars = enclosed shown.toList := by
  simp [placeholderRun, Run.text, Run.chars, placeholder, enclosed, Markup.WikiLink.opening,
    Markup.WikiLink.closing]

theorem compose_of_page?_eq_none (hembed : ref.embed = false)
    (hplaceholder : context.options.unresolved = .placeholder)
    (h : context.resolver.page? ref.target = none) :
    compose context [.crossRef ref] = (placeholderRun ref.shown).bounded := by
  have hruns : crossRefRuns context {} ref = [placeholderRun ref.shown] := by
    simp [crossRefRuns, hembed, h, hplaceholder, placeholderRun]
  have hitems : (placeholderRun ref.shown).items ≠ [] := by
    rw [Ne, Run.items_eq_nil_iff, chars_placeholderRun]
    exact nofun
  rw [compose_crossRef, hruns, Page.mergeRuns_single hitems, Page.boundRuns_single]

end Compose

/-! ### Writing one run -/

namespace Render

open Compose (placeholderRun)

variable {context : RunContext} {style : Style} {content : List Char} {page name : String}

theorem renderRuns_single (run : Run) : renderRuns context [run] = renderRun context true run :=
  List.append_nil _

theorem wrap_of_tight (h : Tight content) (hcode : style.code = false) (lineStart : Bool) :
    wrap context style literally none lineStart content = decorate context style content := by
  rw [wrap, h.2, if_neg (mt List.isEmpty_iff.1 h.1), h.takeWhile_isBlank, h.takeEndWhile_isBlank,
    hcode]
  simp [literally, linkTo]

/-- What stands between the brackets of a mention, by the name of its page and its text. -/
def mentionInner (name shown : List Char) : List Char :=
  if shown = [] ∨ name = shown then name else name ++ '|' :: shown

theorem mentionText_eq (h : context.resolver.name? page = some name) (shown : List Char) :
    mentionText context page shown = enclosed (mentionInner name.toList shown) := by
  rw [mentionText, h, mentionInner]
  by_cases hnil : shown = []
  · simp [hnil, enclosed, Markup.WikiLink.opening, Markup.WikiLink.closing]
  · by_cases hsame : name.toList = shown <;>
      simp [hnil, hsame, enclosed, Markup.WikiLink.opening, Markup.WikiLink.closing]

theorem renderRuns_mention (h : context.resolver.name? page = some name) (shown : String) :
    renderRuns context [.mention shown page] =
      enclosed (mentionInner name.toList (trim shown.toList)) := by
  have hrun : renderRun context true (.mention shown page) =
      wrap context {} literally none true (mentionText context page (trim shown.toList)) := rfl
  rw [renderRuns_single, hrun, mentionText_eq h, wrap_of_tight (tight_enclosed _) rfl]
  simp [decorate, isHighlighted]

/-- What stands around a reference that did not resolve, when its color is a highlight. -/
def placeholderMark (highlight : Color) : List Char :=
  if highlight = .letters .red then ['=', '='] else []

theorem decorate_red (text : List Char) :
    decorate context { color := .letters .red } text =
      placeholderMark context.highlight ++ text ++ placeholderMark context.highlight := by
  rw [placeholderMark]
  split
  · next h => simp [decorate, isHighlighted, h, enclose]
  · next h => simp [decorate, isHighlighted, Ne.symm h]

theorem isPlaceholder_placeholderRun {shown : String} (h : shown ≠ "") :
    isPlaceholder (placeholderRun shown) = true := by
  have hcore : trim (placeholderRun shown).chars = enclosed shown.toList := by
    rw [Compose.chars_placeholderRun]
    exact (tight_enclosed _).2
  have hsize : 4 < (String.ofList (enclosed shown.toList)).utf8ByteSize := by
    have hpos : shown.utf8ByteSize ≠ 0 := by simpa [String.utf8ByteSize_eq_zero_iff] using h
    have hopen : "[[".utf8ByteSize = 2 := rfl
    have hclose : "]]".utf8ByteSize = 2 := rfl
    have hsame : String.ofList (enclosed shown.toList) = Compose.placeholder shown := by
      rw [← Compose.chars_placeholderRun]
      exact String.ofList_toList
    rw [hsame, Compose.placeholder, String.utf8ByteSize_append, String.utf8ByteSize_append]
    omega
  have hstart : ['[', '['].isPrefixOf (enclosed shown.toList) = true := rfl
  have hend : Text.endsWith [']', ']'] (enclosed shown.toList) = true := by
    rw [Text.endsWith, List.isPrefixOf_iff_prefix]
    exact List.reverse_prefix.2 ⟨_, rfl⟩
  simp only [isPlaceholder, hcore, hsize, hstart, hend]
  rfl

theorem renderRuns_placeholderRun {shown : String} (h : shown ≠ "") :
    renderRuns context [placeholderRun shown] =
      placeholderMark context.highlight ++ enclosed shown.toList ++
        placeholderMark context.highlight := by
  have hkind : (placeholderRun shown).kind = .text none := rfl
  rw [renderRuns_single, renderRun_text hkind, isPlaceholder_placeholderRun h,
    Compose.chars_placeholderRun, if_pos rfl]
  exact (wrap_of_tight (tight_enclosed _) rfl true).trans (decorate_red _)

end Render

/-! ### Reading again -/

open Render (mentionInner placeholderMark renderRuns renderRuns_mention)

variable {name shown : List Char}

theorem parseChars_mentionInner (hname : IsName name) (hshown : trim shown = shown) :
    CrossRef.parseChars (mentionInner name shown) false =
      { target := String.ofList name
        label := if shown = [] ∨ name = shown then none else some (String.ofList shown) } := by
  rw [mentionInner]
  split
  · exact Markup.CrossRef.parseChars_name hname false
  · next h =>
    rw [Markup.CrossRef.parseChars_labelled hname, hshown,
      Markup.CrossRef.nonEmpty?_of_ne_nil fun hnil => h (.inl hnil)]

theorem shown_parseChars_mentionInner (hname : IsName name) (hshown : Tight shown) :
    (CrossRef.parseChars (mentionInner name shown) false).shown = String.ofList shown := by
  rw [parseChars_mentionInner hname hshown.2, CrossRef.shown]
  by_cases hsame : name = shown
  · simp [hsame]
  · simp [hsame, hshown.1]

theorem not_closing_infix_mentionInner (hname : IsName name)
    (hshown : ¬Markup.WikiLink.closing <:+: shown) :
    ¬Markup.WikiLink.closing <:+: mentionInner name shown := by
  rw [mentionInner]
  split
  · exact hname.closing
  · exact Markup.WikiLink.not_closing_infix_labelled hname.closing hshown

theorem mentionInner_ne_nil (hname : IsName name) : mentionInner name shown ≠ [] := by
  rw [mentionInner]
  split
  · exact hname.tight.1
  · exact List.append_ne_nil_of_left_ne_nil hname.tight.1 _

theorem lineFeed_not_mem_mentionInner (hname : IsName name) (hshown : '\n' ∉ shown) :
    '\n' ∉ mentionInner name shown := by
  rw [mentionInner]
  split
  · exact hname.lineFeed
  · simp [hname.lineFeed, hshown]

/-- A mention of a page with a name is written as a reference, and the reference composes into the
mention again. It is also what the written text is split into, unless a bracket before the closing
ones closes it earlier. -/
theorem mention_reread {entries : List (String × String)} {page name shown : String}
    (hnames : (entries.map fun e => Text.toSmallString e.1).Nodup)
    (hpages : (entries.map Prod.snd).Nodup) (hentries : ∀ e ∈ entries, IsName e.1.toList)
    (hpage : (name, page) ∈ entries) (htight : Tight shown.toList)
    (hshort : shown.toList.length ≤ runLimit)
    (hclosing : ¬Markup.WikiLink.closing <:+: shown.toList) (hline : '\n' ∉ shown.toList)
    (options : Options) (highlight : Color) :
    let resolver := (NameIndex.ofList entries).resolver
    ∃ inner, renderRuns ⟨resolver, highlight⟩ [.mention shown page] = enclosed inner ∧
      Compose.compose ⟨options, resolver⟩ [.crossRef (CrossRef.parse (String.ofList inner) false)] =
        [.mention shown page] ∧
      (inner.getLast? ≠ some ']' → Markup.WikiLink.split (String.ofList (enclosed inner)) =
        [.crossRef (CrossRef.parse (String.ofList inner) false)]) := by
  intro resolver
  have hname : IsName name.toList := hentries _ hpage
  obtain ⟨hname?, hpage?⟩ := NameIndex.lead_to_each_other hnames hpages hname.tight.2 hpage
  have hparse : CrossRef.parse (String.ofList (mentionInner name.toList shown.toList)) false =
      CrossRef.parseChars (mentionInner name.toList shown.toList) false := by
    rw [CrossRef.parse, String.toList_ofList]
  refine ⟨mentionInner name.toList shown.toList, ?_, ?_, fun hlast => ?_⟩
  · rw [renderRuns_mention hname?, htight.2]
  · have hread := parseChars_mentionInner hname htight.2
    have htarget : (CrossRef.parseChars (mentionInner name.toList shown.toList) false).target =
        name := by
      rw [hread, String.ofList_toList]
    rw [hparse, Compose.compose_of_page? (by rw [hread]) (by rw [htarget]; exact hpage?),
      shown_parseChars_mentionInner hname htight, String.toList_ofList,
      List.take_of_length_le hshort, String.ofList_toList]
  · rw [hparse]
    apply Markup.WikiLink.split_enclosed (mentionInner_ne_nil hname)
      (lineFeed_not_mem_mentionInner hname hline)
    exact Markup.WikiLink.not_closing_infix_concat
      (not_closing_infix_mentionInner hname hclosing) hlast

def vault : List (String × String) := [("Note", "p1"), ("Plan", "p2")]

def vaultResolver : Resolver := (NameIndex.ofList vault).resolver

/-- The label of a mention may have a bar of its own. -/
theorem mention_with_barred_label_reread :
    ∃ inner, renderRuns ⟨vaultResolver, .default⟩ [.mention "a | b" "p2"] = enclosed inner ∧
      Compose.compose ⟨{}, vaultResolver⟩ [.crossRef (CrossRef.parse (String.ofList inner) false)] =
        [.mention "a | b" "p2"] ∧
      (inner.getLast? ≠ some ']' → Markup.WikiLink.split (String.ofList (enclosed inner)) =
        [.crossRef (CrossRef.parse (String.ofList inner) false)]) := by
  have hpage : ("Plan", "p2") ∈ vault := by decide
  exact mention_reread (by decide) (by decide) (by decide) hpage (by decide) (by decide)
    (by decide) (by decide) {} .default

/-- A reference that resolves to a page of its name is written as a reference to the same note, and
so is one that does not resolve and has no label; one with a label is written as a reference to its
label. The heading is lost in any case. -/
theorem crossRef_reread {ref : CrossRef} (hembed : ref.embed = false)
    (hname : IsName ref.target.toList) (options : Options) (highlight : Color) :
    (∀ entries page, (NameIndex.ofList entries).page? ref.target = some page →
      (ref.target, page) ∈ entries → (∀ other, (other, page) ∈ entries → other = ref.target) →
      let resolver := (NameIndex.ofList entries).resolver
      ∃ inner, renderRuns ⟨resolver, highlight⟩
          (Compose.compose ⟨options, resolver⟩ [.crossRef ref]) = enclosed inner ∧
        (CrossRef.parse (String.ofList inner) false).target = ref.target ∧
        (CrossRef.parse (String.ofList inner) false).heading = none) ∧
    (∀ resolver : Resolver, resolver.page? ref.target = none → options.unresolved = .placeholder →
      ref.shown ≠ "" → ref.shown.toList.length + 4 ≤ runLimit →
      renderRuns ⟨resolver, highlight⟩ (Compose.compose ⟨options, resolver⟩ [.crossRef ref]) =
          placeholderMark highlight ++ enclosed ref.shown.toList ++ placeholderMark highlight ∧
        (ref.label = none → (CrossRef.parse ref.shown false).target = ref.target ∧
          (CrossRef.parse ref.shown false).heading = none)) := by
  constructor
  · intro entries page hpage hmem honly resolver
    have hname? : resolver.name? page = some ref.target :=
      NameIndex.name?_of_forall_mem hmem honly
    refine ⟨mentionInner ref.target.toList
      (trim (String.ofList (ref.shown.toList.take runLimit)).toList), ?_, ?_⟩
    · rw [Compose.compose_of_page? hembed hpage, renderRuns_mention hname?]
    · rw [CrossRef.parse, String.toList_ofList, parseChars_mentionInner hname (Text.trim_trim _),
        String.ofList_toList]
      exact ⟨rfl, rfl⟩
  · intro resolver hpage hplaceholder hshown hshort
    have hbounded : (Compose.placeholderRun ref.shown).bounded =
        [Compose.placeholderRun ref.shown] := by
      rw [Run.bounded, if_pos]
      rw [Compose.chars_placeholderRun, Markup.WikiLink.length_enclosed]
      exact hshort
    refine ⟨?_, fun hlabel => ?_⟩
    · rw [Compose.compose_of_page?_eq_none hembed hplaceholder hpage, hbounded,
        Render.renderRuns_placeholderRun hshown]
    · have htarget : ref.shown = ref.target := by rw [CrossRef.shown, hlabel, Option.getD_none]
      rw [htarget, CrossRef.parse, Markup.CrossRef.parseChars_name hname, String.ofList_toList]
      exact ⟨rfl, rfl⟩

def setup : CrossRef := { target := "Note", heading := some "Setup" }

def labelledSetup : CrossRef := { target := "Note", heading := some "Setup", label := some "a | b" }

/-- One reference to a section that resolves, and one that does not. -/
theorem setup_reread :
    (∃ inner, renderRuns ⟨vaultResolver, .default⟩
          (Compose.compose ⟨{}, vaultResolver⟩ [.crossRef labelledSetup]) = enclosed inner ∧
        (CrossRef.parse (String.ofList inner) false).target = labelledSetup.target ∧
        (CrossRef.parse (String.ofList inner) false).heading = none) ∧
      renderRuns ⟨.empty, .letters .red⟩ (Compose.compose ⟨{}, .empty⟩ [.crossRef setup]) =
          ['=', '='] ++ enclosed setup.shown.toList ++ ['=', '='] ∧
        (CrossRef.parse setup.shown false).target = setup.target ∧
        (CrossRef.parse setup.shown false).heading = none := by
  constructor
  · have hname : IsName labelledSetup.target.toList := by decide
    have honly : ∀ other, (other, "p1") ∈ vault → other = labelledSetup.target := by
      simp [vault, labelledSetup]
    exact (crossRef_reread rfl hname {} .default).1 vault "p1" (by decide) (by decide) honly
  · have hname : IsName setup.target.toList := by decide
    obtain ⟨hrender, hread⟩ := (crossRef_reread rfl hname {} (.letters .red)).2 .empty rfl rfl
      (by decide) (by decide)
    exact ⟨hrender, hread rfl⟩

/-! ### What references lose -/

namespace Render

variable {run : Run} {cs : List Char}

/-- A bracket at the start of a text is escaped, if the text is no placeholder. -/
theorem head?_renderRun_bracket (hkind : run.kind = .text none)
    (hstyle : run.style = { color := .letters .red }) (hchars : run.chars = '[' :: cs)
    (hhighlight : context.highlight ≠ .letters .red) (h : isPlaceholder run = false) :
    (renderRun context true run).head? = some '\\' := by
  have hcore : trim ('[' :: cs) = '[' :: Text.trimEnd cs :=
    Text.trim_cons_of_not_blank (by decide) cs
  have hleading : ('[' :: cs).takeWhile Text.isBlank = [] :=
    List.takeWhile_cons_of_neg (by decide)
  rw [renderRun_text hkind, h, hstyle, hchars, wrap, hcore, hleading]
  simp [decorate_red, placeholderMark, hhighlight, linkTo, escape, escapeFrom, needsEscape,
    isAlwaysEscaped]

theorem isPlaceholder_of_getLast? (hchars : run.chars = '[' :: '[' :: cs ++ [']'])
    (hlast : cs.getLast? ≠ some ']') : isPlaceholder run = false := by
  have hcore : trim run.chars = '[' :: '[' :: cs ++ [']'] := by
    rw [hchars]
    exact (Markup.WikiLink.tight_bracketed ('[' :: cs)).2
  have hend : Text.endsWith [']', ']'] ('[' :: '[' :: cs ++ [']']) = false := by
    rcases List.eq_nil_or_concat cs with rfl | ⟨before, last, rfl⟩
    · rfl
    · rw [List.concat_eq_append, List.getLast?_concat] at hlast
      have hne : last ≠ ']' := mt (congrArg some) hlast
      simp [Text.endsWith, List.isPrefixOf, Ne.symm hne]
  rw [isPlaceholder, hcore, hend, Bool.and_false]

end Render

/-- Of a name that fits into a run, but not with all its brackets, the last bracket is cut off. -/
theorem Compose.compose_of_long {context : Compose.Context} {ref : CrossRef}
    (hembed : ref.embed = false) (hplaceholder : context.options.unresolved = .placeholder)
    (hpage : context.resolver.page? ref.target = none)
    (hlong : ref.shown.toList.length + 3 = runLimit) (hline : '\n' ∉ ref.shown.toList) :
    ∃ run rest, Compose.compose context [.crossRef ref] = run :: rest ∧ run.kind = .text none ∧
      run.style = { color := .letters .red } ∧
      run.chars = '[' :: '[' :: ref.shown.toList ++ [']'] := by
  have hchars : (placeholderRun ref.shown).chars =
      ('[' :: '[' :: ref.shown.toList ++ [']']) ++ [']'] := by
    rw [chars_placeholderRun, Markup.WikiLink.enclosed_eq]
    rfl
  have hlength : ('[' :: '[' :: ref.shown.toList ++ [']']).length = runLimit := by
    simpa using hlong
  have hover : runLimit < (('[' :: '[' :: ref.shown.toList ++ [']']) ++ [']']).length := by
    rw [List.length_append, hlength]
    exact Nat.lt_succ_self _
  rw [compose_of_page?_eq_none hembed hplaceholder hpage,
    Page.Run.bounded_of_long rfl (by rwa [hchars]), hchars,
    Page.splitText_of_not_mem (by decide) hover (by simp [hline]), List.take_left' hlength,
    List.map_cons]
  exact ⟨_, _, rfl, rfl, rfl, String.toList_ofList⟩

/-- Without its last bracket it is no reference any more. -/
theorem renderRuns_ne_enclosed_of_long {context : Compose.Context} {ref : CrossRef}
    {highlight : Color} (hembed : ref.embed = false)
    (hplaceholder : context.options.unresolved = .placeholder)
    (hpage : context.resolver.page? ref.target = none) (hhighlight : highlight ≠ .letters .red)
    (hlong : ref.shown.toList.length + 3 = runLimit) (hline : '\n' ∉ ref.shown.toList)
    (hlast : ref.shown.toList.getLast? ≠ some ']') (inner : List Char) :
    renderRuns ⟨context.resolver, highlight⟩ (Compose.compose context [.crossRef ref]) ≠
      enclosed inner := by
  obtain ⟨run, rest, hcompose, hkind, hstyle, hchars⟩ :=
    Compose.compose_of_long hembed hplaceholder hpage hlong hline
  have hhead : (Render.renderRun ⟨context.resolver, highlight⟩ true run).head? = some '\\' :=
    Render.head?_renderRun_bracket hkind hstyle hchars hhighlight
      (Render.isPlaceholder_of_getLast? hchars hlast)
  intro hsame
  have hfirst := congrArg List.head? hsame
  rw [hcompose, renderRuns, Render.renderRunsFrom, List.head?_append, hhead] at hfirst
  cases hfirst

/-- A name with which the brackets around it are one character too long for a run. -/
def longName : List Char := List.replicate 1997 'a'

theorem length_longName : longName.length + 3 = runLimit := by
  rw [longName, List.length_replicate]
  rfl

theorem not_mem_longName {c : Char} (h : c ≠ 'a') : c ∉ longName :=
  fun hmem => h (List.eq_of_mem_replicate hmem)

theorem isName_longName : IsName longName where
  tight := (Text.unbroken_replicate (by decide) _).tight
    (List.ne_nil_of_length_pos (by rw [List.length_replicate]; decide))
  bar := not_mem_longName (by decide)
  numberSign := not_mem_longName (by decide)
  closing hclosing := not_mem_longName (by decide) (hclosing.subset (List.mem_cons_self ..))
  lineFeed := not_mem_longName (by decide)

def longReference : CrossRef := { target := String.ofList longName }

theorem toList_shown_longReference : longReference.shown.toList = longName := String.toList_ofList

/-- A heading is lost when the reference resolves, the note when it does not and has a label, and
the reference itself when its name is too long. -/
theorem references_lose_heading_note_and_brackets :
    (renderRuns ⟨vaultResolver, .default⟩
          (Compose.compose ⟨{}, vaultResolver⟩ [.crossRef setup]) = enclosed "Note".toList ∧
        (CrossRef.parse "Note" false).heading ≠ setup.heading) ∧
      (renderRuns ⟨.empty, .default⟩ (Compose.compose ⟨{}, .empty⟩ [.crossRef labelledSetup]) =
          enclosed "a | b".toList ∧
        (CrossRef.parse "a | b" false).target ≠ labelledSetup.target) ∧
      IsName longReference.target.toList ∧ ∀ inner, renderRuns ⟨.empty, .default⟩
        (Compose.compose ⟨{}, .empty⟩ [.crossRef longReference]) ≠ enclosed inner := by
  have hname : IsName longReference.target.toList := by
    rw [longReference, String.toList_ofList]
    exact isName_longName
  have hlong : longReference.shown.toList.length + 3 = runLimit := by
    rw [toList_shown_longReference, length_longName]
  have hline : '\n' ∉ longReference.shown.toList := by
    rw [toList_shown_longReference]
    exact isName_longName.lineFeed
  have hlast : longReference.shown.toList.getLast? ≠ some ']' := by
    rw [toList_shown_longReference]
    intro hlast
    exact not_mem_longName (by decide) (List.mem_of_mem_getLast? hlast)
  refine ⟨by decide +kernel, by decide +kernel, hname, ?_⟩
  exact @renderRuns_ne_enclosed_of_long ⟨{}, .empty⟩ longReference .default rfl rfl rfl (by decide)
    hlong hline hlast

end NoteBridge
