import NoteBridge.Note
import NoteBridge.Proofs.Markdown.Fence
import NoteBridge.Proofs.Note.Code
import NoteBridge.Proofs.Render.Depth
import NoteBridge.Proofs.Render.Link

/-!
Queries on their way to a page and back. A callout stands in for a query, with the query as code,
and is written as a fence with the query in it. The fence is longer than any row of backticks in the
query, so it is read as one fence again. What comes back is the query itself unless it has a
carriage return or NUL, which no line of a source has.
-/

namespace NoteBridge

open Compose (codeBlock codeLanguage codeRuns queryCallout withoutLastLineFeeds)
open Markdown (language?)
open Markdown.Outline (sourceText)
open Page (Block)
open Render (fenceFor tick)

variable {language literal : String} {info : Option String}

/-- Whether blocks in the language are queries. -/
def IsQuery (language : String) : Prop := language = "dataview" ∨ language = "dataviewjs"

instance : DecidablePred IsQuery := fun _ => instDecidableOr

/-! ### From queries to blocks -/

theorem Compose.codeBlock_of_isQuery (options : Options) (h : IsQuery (codeLanguage info))
    (literal : String) :
    codeBlock options info literal = queryCallout options (codeLanguage info) literal := by
  have hformula : ¬(codeLanguage info = "math" ∨ codeLanguage info = "latex") := by
    rcases h with h | h <;> rw [h] <;> decide
  rw [codeBlock, if_neg hformula]
  exact if_pos h

theorem Compose.documentBlocks_code (context : Compose.Context) (info : Option String)
    (literal : String) :
    Compose.documentBlocks context [.fencedCode info literal] =
      .ok [codeBlock context.options info literal] := by
  have hcheck : Page.check [codeBlock context.options info literal] = .ok () := by
    unfold codeBlock
    dsimp only
    split_ifs <;> rfl
  change (Page.check [codeBlock context.options info literal] >>= fun _ => _) = _
  rw [hcheck]
  rfl

theorem toBlocks_query (bridge : Bridge) (h : IsQuery (codeLanguage info)) (literal : String) :
    bridge.toBlocks [.fencedCode info literal] =
      .ok [queryCallout bridge.options (codeLanguage info) literal] := by
  rw [Bridge.toBlocks, Compose.documentBlocks_code, Compose.codeBlock_of_isQuery _ h]

/-- A query is told by its callout, up to the line feeds at its end. -/
theorem queryCallout_inj {options : Options} {literal' : String} :
    queryCallout options language literal = queryCallout options language literal' ↔
      withoutLastLineFeeds literal = withoutLastLineFeeds literal' := by
  constructor
  · intro h
    have hruns : codeRuns { code := true } (withoutLastLineFeeds literal) =
        codeRuns { code := true } (withoutLastLineFeeds literal') := by
      simpa [queryCallout, Block.leaf] using h
    have hchars := congrArg Page.plainChars hruns
    rwa [Compose.plainChars_codeRuns, Compose.plainChars_codeRuns] at hchars
  · intro h
    rw [queryCallout, queryCallout, h]

/-! ### From blocks to fences -/

theorem filter_code_codeRuns (content : List Char) :
    (codeRuns { code := true } content).filter (fun run => run.style.code) =
      codeRuns { code := true } content := by
  refine List.filter_eq_self.2 fun run hrun => ?_
  obtain ⟨piece, -, rfl⟩ := List.mem_map.1 hrun
  rfl

/-- The title of the callout tells the language, and its code is the query. -/
theorem Render.renderBlock_queryCallout (context : Render.Context) (depth number : Nat)
    (language literal : String) :
    Render.renderBlock context depth number (queryCallout context.options language literal) =
      .ok (Render.fenced (fenceFor (withoutLastLineFeeds literal)) language.toList
        (withoutLastLineFeeds literal)) := by
  have htitle : Text.before? Compose.queryTitleEnding.toList
      (Page.Run.text (language ++ Compose.queryTitleEnding) { bold := true }).chars =
      some language.toList := by
    rw [Text.before?_eq_some_iff]
    exact String.toList_append
  have hcode : ([Page.Run.text ("\n" ++ Compose.queryNotice ++ "\n")] ++
      codeRuns { code := true } (withoutLastLineFeeds literal)).filter (fun run => run.style.code) =
      codeRuns { code := true } (withoutLastLineFeeds literal) := by
    rw [List.filter_append, filter_code_codeRuns]
    rfl
  have hfence : Render.queryFence? context
      ([.text (language ++ Compose.queryTitleEnding) { bold := true },
        .text ("\n" ++ Compose.queryNotice ++ "\n")] ++
          codeRuns { code := true } (withoutLastLineFeeds literal))
      context.options.callouts.query (.background .blue) =
      some (Render.fenced (fenceFor (withoutLastLineFeeds literal)) language.toList
        (withoutLastLineFeeds literal)) := by
    rw [List.cons_append]
    simp only [Render.queryFence?, and_self, if_true, htitle, hcode, Compose.plainChars_codeRuns]
    rfl
  rw [queryCallout, Block.leaf, Render.renderBlock, hfence]

theorem toMarkup_queryCallout (bridge : Bridge) (language literal : String) :
    bridge.toMarkup [queryCallout bridge.options language literal] =
      .ok (String.ofList (Render.fenced (fenceFor (withoutLastLineFeeds literal)) language.toList
        (withoutLastLineFeeds literal) ++ ['\n'])) := by
  have hne : Render.fenced (fenceFor (withoutLastLineFeeds literal)) language.toList
      (withoutLastLineFeeds literal) ≠ [] := by simp [Render.fenced]
  have hrender := Render.render_leaf rfl rfl hne fun number =>
    Render.renderBlock_queryCallout ⟨bridge.options, bridge.resolver⟩ 0 number language literal
  change (Render.render _ [queryCallout bridge.options language literal] >>= fun _ => _) = _
  rw [queryCallout, hrender]
  rfl

/-! ### From fences to queries -/

theorem codeLanguage_some_of_isQuery (h : IsQuery language) :
    codeLanguage (some language) = language := by
  rcases h with rfl | rfl <;> decide

theorem read_query (h : IsQuery language) (query : List Char) :
    (Markdown.read (String.ofList
      (Render.fenced (fenceFor query) language.toList query ++ ['\n']))).document =
      [.fencedCode (some language) (String.ofList (sourceText (query ++ ['\n'])))] := by
  have hinfo : ∀ c ∈ language.toList, c ∉ ['\x60', '\n', '\r', '\x00'] := by
    rcases h with rfl | rfl <;> simp
  have hlanguage : language? (Markdown.unescape (Text.trimSpacing
      (Markdown.decode language.toList))) = some language := by
    rcases h with rfl | rfl <;> cbv
  have hrow : ¬List.replicate (max (Render.longestRow tick query) 2 + 1) tick <:+: query :=
    Render.not_replicate_infix (by omega)
  have hread := Markdown.Outline.read_fenced (by omega) hinfo hrow
  have hdocument : ∀ {cs : List Char} {info content : List Char},
      Markdown.Outline.read cs = ([.code info content], ∅) →
      (Markdown.read (String.ofList cs)).document =
        [.fencedCode (language? info) (String.ofList content)] := by
    intro cs info content hcs
    rw [Markdown.read, String.toList_ofList, hcs]
    rfl
  rw [← hlanguage]
  exact hdocument hread

/-- The lines of a query are read as they were written if none of its characters is replaced. -/
theorem withoutLastLineFeeds_sourceText_iff :
    withoutLastLineFeeds (String.ofList (sourceText (withoutLastLineFeeds literal ++ ['\n']))) =
      withoutLastLineFeeds literal ↔
      '\r' ∉ withoutLastLineFeeds literal ∧ '\x00' ∉ withoutLastLineFeeds literal := by
  constructor
  · intro h
    have hread : ∀ c ∈ withoutLastLineFeeds literal, c ≠ '\r' ∧ c ≠ '\x00' := by
      intro c hc
      rw [← h, withoutLastLineFeeds, String.toList_ofList] at hc
      exact Markdown.Outline.ne_of_mem_sourceText ((List.rdropWhile_prefix _ _).subset hc)
    exact ⟨fun hc => (hread _ hc).1 rfl, fun hc => (hread _ hc).2 rfl⟩
  · rintro ⟨hreturn, hnul⟩
    rw [Markdown.Outline.sourceText_eq_self (by simp [hreturn]) (by simp [hnul]),
      Compose.withoutLastLineFeeds_concat]

/-- A query is shown as a callout, and the callout is written as a fence with the language and the
query, which is longer than any row of backticks in the query. The text is read as one fence, and
its query is that one as the lines of a source are read. So the callout is the same exactly when the
query has no carriage return and no NUL. -/
theorem query_restored_iff (bridge : Bridge) {info : Option String}
    (h : IsQuery (codeLanguage info)) (literal : String) :
    let language := codeLanguage info
    let query := withoutLastLineFeeds literal
    let fence := fenceFor query
    let callout := queryCallout bridge.options language literal
    let markup := fence ++ language.toList ++ '\n' :: query ++ '\n' :: fence
    let reread := Markup.Node.fencedCode (some language)
      (String.ofList (sourceText (query ++ ['\n'])))
    (∃ n, fence = List.replicate n tick ∧ 3 ≤ n ∧ ∀ m, List.replicate m tick <:+: query → m < n) ∧
      bridge.toBlocks [.fencedCode info literal] = .ok [callout] ∧
      (∀ resolver depth number,
        Render.renderBlock ⟨bridge.options, resolver⟩ depth number callout = .ok markup) ∧
      bridge.toMarkup [callout] = .ok (String.ofList (markup ++ ['\n'])) ∧
      (Markdown.read (String.ofList (markup ++ ['\n']))).document = [reread] ∧
      (bridge.toBlocks [reread] = .ok [callout] ↔ '\r' ∉ query ∧ '\x00' ∉ query) := by
  intro language query fence callout markup reread
  refine ⟨?_, toBlocks_query bridge h literal, fun resolver depth number => ?_,
    toMarkup_queryCallout bridge language literal, read_query h query, ?_⟩
  · refine ⟨_, rfl, by omega, fun m hm => ?_⟩
    have hlong : ¬Render.longestRow tick query < m := fun hlt => Render.not_replicate_infix hlt hm
    omega
  · exact Render.renderBlock_queryCallout ⟨bridge.options, resolver⟩ depth number language literal
  · have hlanguage : codeLanguage (some language) = language := codeLanguage_some_of_isQuery h
    have hagain : IsQuery (codeLanguage (some language)) := hlanguage.symm ▸ h
    rw [toBlocks_query bridge hagain, hlanguage, Except.ok.injEq, List.singleton_inj,
      queryCallout_inj]
    exact withoutLastLineFeeds_sourceText_iff

/-- A query of nothing but backticks, with its language in other letters and more behind it. -/
theorem query_restored_backticks :
    IsQuery (codeLanguage (some "DataView x")) ∧
      Bridge.toMarkup {} [queryCallout {} "dataview" "\x60\x60\x60\n\n"] =
        .ok "\x60\x60\x60\x60dataview\n\x60\x60\x60\n\x60\x60\x60\x60\n" ∧
      Bridge.toBlocks {} (Markdown.read
        "\x60\x60\x60\x60dataview\n\x60\x60\x60\n\x60\x60\x60\x60\n").document =
        .ok [queryCallout {} "dataview" "\x60\x60\x60\n\n"] := by
  have hquery : IsQuery (codeLanguage (some "DataView x")) := by decide
  have hlanguage : codeLanguage (some "DataView x") = "dataview" := by decide
  have hshort : withoutLastLineFeeds "\x60\x60\x60\n\n" = "\x60\x60\x60".toList := by decide
  have htext : String.ofList (fenceFor "\x60\x60\x60".toList ++ "dataview".toList ++
      '\n' :: "\x60\x60\x60".toList ++ '\n' :: fenceFor "\x60\x60\x60".toList ++ ['\n']) =
      "\x60\x60\x60\x60dataview\n\x60\x60\x60\n\x60\x60\x60\x60\n" := by decide
  obtain ⟨-, -, -, hmarkup, hread, hsame⟩ :=
    query_restored_iff {} hquery "\x60\x60\x60\n\n"
  rw [hlanguage, hshort] at hmarkup hread hsame
  rw [htext] at hmarkup hread
  refine ⟨hquery, hmarkup, ?_⟩
  rw [hread]
  exact hsame.2 (by decide)

/-- The lines of a source end at a carriage return too, so a query with one is another query when it
comes back. -/
theorem query_with_return_differs :
    IsQuery (codeLanguage (some "dataview")) ∧
      Bridge.toBlocks {} [.fencedCode (some "dataview") "a\rb"] =
        .ok [queryCallout {} "dataview" "a\rb"] ∧
      Bridge.toMarkup {} [queryCallout {} "dataview" "a\rb"] =
        .ok "\x60\x60\x60dataview\na\rb\n\x60\x60\x60\n" ∧
      Bridge.toBlocks {} (Markdown.read
        "\x60\x60\x60dataview\na\rb\n\x60\x60\x60\n").document ≠
        .ok [queryCallout {} "dataview" "a\rb"] := by
  have hquery : IsQuery (codeLanguage (some "dataview")) := by decide
  have hshort : withoutLastLineFeeds "a\rb" = "a\rb".toList := by decide
  have htext : String.ofList (Render.fenced (fenceFor "a\rb".toList) "dataview".toList
      "a\rb".toList ++ ['\n']) = "\x60\x60\x60dataview\na\rb\n\x60\x60\x60\n" := by decide
  have hmarkup := toMarkup_queryCallout {} "dataview" "a\rb"
  have hread := read_query (.inl rfl : IsQuery "dataview") "a\rb".toList
  rw [hshort, htext] at hmarkup
  rw [htext] at hread
  refine ⟨hquery, toBlocks_query {} hquery "a\rb", hmarkup, ?_⟩
  have hlanguage : codeLanguage (some "dataview") = "dataview" := by decide
  rw [hread, toBlocks_query {} hquery, hlanguage, Ne, Except.ok.injEq, List.singleton_inj,
    queryCallout_inj]
  decide

end NoteBridge
