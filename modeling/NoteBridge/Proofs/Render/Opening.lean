import NoteBridge.Proofs.FrontMatter
import NoteBridge.Proofs.Render.Depth
import NoteBridge.Proofs.Text.Blank

/-!
How the markup of a forest begins. Inline markup at the start of a line never begins with a hyphen,
and no block but a divider has markup that begins with the delimiter of front matter. The markup of
a forest therefore begins with a delimiter line exactly when a divider is what it shows first.
-/

namespace NoteBridge.Render

open Page (Block BlockKind Fault Run Style)
open Text
open FrontMatter (delimiter IsDelimiter)

/-! ### Runs -/

theorem head?_append_ne {c : Char} {a b : List Char} (ha : a.head? ≠ some c)
    (hb : a = [] → b.head? ≠ some c) : (a ++ b).head? ≠ some c := by
  cases a with
  | nil => exact hb rfl
  | cons d a => exact ha

theorem head?_ne_of_forall_blank {cs : List Char} (h : ∀ c ∈ cs, isBlank c) :
    cs.head? ≠ some '-' := by
  intro hc
  have hblank := h '-' (List.mem_of_head? hc)
  revert hblank
  decide

theorem head?_escape (cs : List Char) : (escape true cs).head? ≠ some '-' := by
  cases cs with
  | nil => simp [escape, escapeFrom]
  | cons c cs =>
    rw [escape, escapeFrom]
    split
    · simp
    · next h =>
      intro hc
      have hhyphen : c = '-' := by simpa using hc
      rw [hhyphen] at h
      exact h (by simp [needsEscape, isLineMarker])

theorem head?_codeSpan (content : List Char) : (codeSpan content).head? ≠ some '-' := by
  unfold codeSpan
  split <;> simp [List.replicate_succ, tick]

theorem head?_decorate (context : RunContext) (style : Style) {text : List Char}
    (h : text.head? ≠ some '-') : (decorate context style text).head? ≠ some '-' := by
  unfold decorate
  simp only
  split
  · simp [enclose]
  split
  · simp [enclose]
  split
  · simp [enclose]
  split
  · simp [enclose]
  split
  · simp [underlined]
  · exact h

theorem head?_linkTo (link : Option String) {text : List Char} (h : text.head? ≠ some '-') :
    (linkTo link text).head? ≠ some '-' := by
  cases link with
  | none => exact h
  | some url => simp [linkTo]

theorem head?_wrap (context : RunContext) (style : Style) {writing : Writing}
    (link : Option String) {content : List Char}
    (h : (writing true (trim content)).head? ≠ some '-') :
    (wrap context style writing link true content).head? ≠ some '-' := by
  unfold wrap
  simp only [Bool.true_or]
  split
  · next hcore =>
    intro hc
    obtain ⟨rest, rfl⟩ := List.head?_eq_some_iff.1 hc
    rw [trim_cons_of_not_blank (by decide)] at hcore
    cases hcore
  · rw [List.append_assoc]
    refine head?_append_ne ?_ fun _ => head?_append_ne ?_ fun hnil => ?_
    · exact head?_ne_of_forall_blank fun c hc => List.mem_takeWhile_imp hc
    · refine head?_linkTo _ (head?_decorate _ _ ?_)
      split
      · exact head?_codeSpan _
      · exact h
    · exact head?_ne_of_forall_blank forall_mem_takeEndWhile

theorem head?_mentionText (context : RunContext) (page : String) (shown : List Char) :
    (mentionText context page shown).head? = some '[' := by
  simp [mentionText]

theorem head?_of_isPlaceholder {run : Run} (h : isPlaceholder run) :
    (trim run.chars).head? = some '[' := by
  simp only [isPlaceholder, Bool.and_eq_true] at h
  obtain ⟨rest, hrest⟩ := List.isPrefixOf_iff_prefix.1 h.1.2
  rw [← hrest]
  rfl

theorem head?_renderRun (context : RunContext) (run : Run) :
    (renderRun context true run).head? ≠ some '-' := by
  unfold renderRun
  split
  · simp
  · next page _ =>
    have hbracket := head?_trim_of_not_blank
      (head?_mentionText context page (trim run.chars)) (by decide)
    exact head?_wrap _ _ _ (by simp [literally, hbracket])
  · split
    · next h => exact head?_wrap _ _ _ (by simp [literally, head?_of_isPlaceholder h])
    · exact head?_wrap _ _ _ (head?_escape _)
  · exact head?_wrap _ _ _ (head?_escape _)

theorem head?_renderRuns (context : RunContext) (runs : List Run) :
    (renderRuns context runs).head? ≠ some '-' := by
  unfold renderRuns
  induction runs with
  | nil => simp [renderRunsFrom]
  | cons run runs ih =>
    rw [renderRunsFrom]
    refine head?_append_ne (head?_renderRun context run) fun hnil => ?_
    rw [hnil]
    exact ih

/-! ### Blocks -/

mutual

/-- The kind of the block that the markup of a block begins with, if it shows anything. -/
def openingOf? (context : Context) : Block → Option BlockKind
  | ⟨_, kind, children⟩ =>
    match kind with
    | .columnList | .column | .syncedBlock => opening? context children
    | .text .paragraph runs _ =>
      if (renderRuns context.runs runs).isEmpty then opening? context children else some kind
    | .text .quote runs _ =>
      if (renderRuns context.runs runs).isEmpty then (opening? context children).map fun _ => kind
      else some kind
    | .table .. => if (children.filterMap rowOf?).isEmpty then none else some kind
    | _ => some kind

/-- The kind of the block that the markup of a level begins with. -/
def opening? (context : Context) : List Block → Option BlockKind
  | [] => none
  | block :: blocks => (openingOf? context block).or (opening? context blocks)

end

/-- How a text begins that shows a block of this kind first: a divider begins with a delimiter
line, any other block with something else. -/
def Opens (kind : BlockKind) (text : List Char) : Prop :=
  text ≠ [] ∧
    if kind = .divider then delimiter ++ ['\n'] <+: text ++ ['\n'] else ¬delimiter <+: text

/-- A text, if there is any. -/
def shown? (text : List Char) : Option (List Char) := if text.isEmpty then none else some text

/-- The text begins with a block of this kind, and is empty where there is none. -/
abbrev OpensWith (kind? : Option BlockKind) (text? : Option (List Char)) : Prop :=
  Option.Rel Opens kind? text?

theorem shown?_of_ne_nil {text : List Char} (h : text ≠ []) : shown? text = some text := by
  simp [shown?, h]

theorem delimiter_prefix_of_append {text rest : List Char}
    (h : delimiter <+: text ++ '\n' :: rest) : delimiter <+: text := by
  obtain ⟨tail, htail⟩ := h
  rcases List.append_eq_append_iff.1 htail with ⟨others, rfl, -⟩ | ⟨others, hothers, hrest⟩
  · exact List.prefix_append _ _
  · cases others with
    | nil =>
      have htext : delimiter = text := by simpa using hothers
      exact htext ▸ List.prefix_rfl
    | cons c others =>
      have hc : c ∈ delimiter := by simp [hothers]
      rw [← (List.cons.inj hrest).1] at hc
      exact absurd hc (by decide)

theorem Opens.append {kind : BlockKind} {text : List Char} (h : Opens kind text)
    (rest : List Char) : Opens kind (text ++ '\n' :: rest) := by
  obtain ⟨hne, h⟩ := h
  refine ⟨by simp, ?_⟩
  split at h
  · next hk =>
    rw [if_pos hk]
    exact h.trans ⟨rest ++ ['\n'], by simp⟩
  · next hk =>
    rw [if_neg hk]
    exact fun hprefix => h (delimiter_prefix_of_append hprefix)

/-- A block that is no divider and whose text begins with another character than a hyphen. -/
theorem opensWith_of_head {kind : BlockKind} {text : List Char} {c : Char}
    (hkind : kind ≠ .divider) (h : text.head? = some c) (hc : c ≠ '-') :
    OpensWith (some kind) (shown? text) := by
  obtain ⟨rest, rfl⟩ := List.head?_eq_some_iff.1 h
  refine .some ⟨List.cons_ne_nil _ _, ?_⟩
  rw [if_neg hkind]
  rintro ⟨tail, htail⟩
  exact hc (List.cons.inj htail).1.symm

theorem OpensWith.or {kind? kind?' : Option BlockKind} {text? text?' : Option (List Char)}
    (h : OpensWith kind? text?) (h' : OpensWith kind?' text?') :
    OpensWith (kind?.or kind?') (text?.or text?') := by
  cases h with
  | some h => exact .some h
  | none => exact h'

/-! ### Texts of blocks -/

theorem withNested_nil (nested : List Char) : withNested [] nested = nested := by
  unfold withNested
  split
  · next h => exact (List.isEmpty_iff.1 h).symm
  · rfl

theorem head?_withNested_cons (c : Char) (text nested : List Char) :
    (withNested (c :: text) nested).head? = some c := by
  unfold withNested
  split <;> rfl

theorem withNested_ne_nil (c : Char) (text nested : List Char) :
    withNested (c :: text) nested ≠ [] := by
  intro hnil
  have hhead := head?_withNested_cons c text nested
  rw [hnil] at hhead
  cases hhead

theorem withNested_opensWith {kind : BlockKind} {kind? : Option BlockKind} {text nested : List Char}
    (hkind : kind ≠ .divider) (htext : text.head? ≠ some '-')
    (h : OpensWith kind? (shown? nested)) :
    OpensWith (if text.isEmpty then kind? else some kind) (shown? (withNested text nested)) := by
  cases text with
  | nil =>
    rw [withNested_nil]
    exact h
  | cons c text =>
    have hc : c ≠ '-' := fun hc => htext (congrArg some hc)
    exact opensWith_of_head hkind (head?_withNested_cons c text nested) hc

theorem head?_quoteLines {text : List Char} (h : text ≠ []) :
    (quoteLines text).head? = some '>' := by
  obtain ⟨line, rest, hlines⟩ := List.exists_cons_of_ne_nil (linesKept_ne_nil h)
  rw [quoteLines, mapLines, lines, hlines, List.map_cons, List.map_cons]
  cases rest with
  | nil =>
    rw [List.map_nil, List.map_nil, join]
    split <;> rfl
  | cons next rest =>
    rw [List.map_cons, List.map_cons, join]
    split <;> rfl

theorem quoteLines_opensWith {kind : BlockKind} {text : List Char} (hkind : kind ≠ .divider)
    (h : text ≠ []) : OpensWith (some kind) (shown? (quoteLines text)) :=
  opensWith_of_head hkind (head?_quoteLines h) (by decide)

theorem quote_opensWith {kind : BlockKind} {kind? : Option BlockKind} {text nested : List Char}
    (hkind : kind ≠ .divider) (h : OpensWith kind? (shown? nested)) :
    OpensWith (if text.isEmpty then kind?.map fun _ => kind else some kind)
      (shown? (quoteLines (withNested text nested))) := by
  cases text with
  | nil =>
    rw [withNested_nil]
    cases nested with
    | nil =>
      cases h
      exact .none
    | cons c nested =>
      cases h
      exact quoteLines_opensWith hkind (List.cons_ne_nil _ _)
  | cons c text => exact quoteLines_opensWith hkind (withNested_ne_nil c text nested)

theorem tableText_opensWith (context : Context) (width : Nat) (children : List Block)
    {kind : BlockKind} (hkind : kind ≠ .divider) :
    OpensWith (if (children.filterMap rowOf?).isEmpty then none else some kind)
      (shown? (tableText context width children)) := by
  unfold tableText
  cases children.filterMap rowOf? with
  | nil => exact .none
  | cons header rows => exact opensWith_of_head hkind (c := '|') rfl (by decide)

/-- The marker of an item that has no number is a hyphen and a blank. -/
theorem item_opensWith (context : Context) {kind : BlockKind} (hkind : kind ≠ .divider)
    (marker : List Char) (runs : List Run) (nested : List Char) :
    OpensWith (some kind) (shown? (itemText context ('-' :: ' ' :: marker) runs nested)) := by
  refine .some ⟨List.cons_ne_nil _ _, ?_⟩
  rw [if_neg hkind]
  rintro ⟨tail, htail⟩
  have hsecond := congrArg (fun text => text[1]?) htail
  cases hsecond

theorem numberedItem_opensWith (context : Context) {kind : BlockKind} (hkind : kind ≠ .divider)
    (number : Nat) (runs : List Run) (nested : List Char) :
    OpensWith (some kind)
      (shown? (itemText context ((toString number).toList ++ ['.', ' ']) runs nested)) := by
  obtain ⟨digit, digits, hdigits⟩ := List.exists_cons_of_ne_nil
    (Nat.toDigits_ne_nil (n := number) (b := 10))
  have hnumber : (toString number).toList = digit :: digits := by
    rw [← hdigits]
    simp
  have hdigit : digit.isDigit := by
    refine Nat.isDigit_of_mem_toDigits (b := 10) (n := number) (by decide) (by decide) ?_
    rw [hdigits]
    exact List.mem_cons_self ..
  have hhyphen : digit ≠ '-' := by
    rintro rfl
    revert hdigit
    decide
  rw [hnumber]
  exact opensWith_of_head hkind rfl hhyphen

theorem head?_fenceFor (content : List Char) (rest : List Char) :
    (fenceFor content ++ rest).head? = some tick := by
  rw [fenceFor, List.replicate_succ]
  rfl

theorem head?_fenced (info content : List Char) :
    (fenced (fenceFor content) info content).head? = some tick := by
  rw [fenced, List.append_assoc]
  exact head?_fenceFor content (info ++ ('\n' :: content ++ '\n' :: fenceFor content))

theorem head?_queryFence {context : Context} {runs : List Run} {icon : String} {color : Page.Color}
    {fence : List Char} (h : queryFence? context runs icon color = some fence) :
    fence.head? = some tick := by
  unfold queryFence? at h
  split at h
  · split at h
    · cases h
    · split at h
      · cases h
      · split at h
        · cases h
          exact head?_fenced _ _
        · cases h
  · cases h

theorem head?_calloutHead (context : Context) (runs : List Run) (icon : String) :
    (calloutHead context runs icon).head? = some '[' := by
  simp [calloutHead]

theorem head?_mediaText (form : Page.MediaForm) (url : String) (caption : List Run) :
    (mediaText form url caption).head? = some (if form = .image then '!' else '[') := by
  cases form <;> rfl

/-! ### Levels -/

section

variable {context : Context} {depth number : Nat} {id : Option String} {kind : BlockKind}
  {children : List Block} {text : List Char}

theorem renderText_opensWith {form : Page.TextForm} {runs : List Run} {color : Page.Color}
    (hchildren : ∀ nested, renderLevel context (depth + 1) children = .ok nested →
      OpensWith (opening? context children) (shown? nested))
    (h : renderBlock context depth number ⟨id, .text form runs color, children⟩ = .ok text) :
    OpensWith (openingOf? context ⟨id, .text form runs color, children⟩) (shown? text) := by
  cases form with
  | paragraph =>
    rw [renderBlock] at h
    obtain ⟨nested, hnested, heq⟩ := bind_eq_ok_iff.1 h
    cases heq
    simp only [openingOf?]
    exact withNested_opensWith (by simp) (head?_renderRuns _ runs) (hchildren nested hnested)
  | quote =>
    rw [renderBlock] at h
    obtain ⟨nested, hnested, heq⟩ := bind_eq_ok_iff.1 h
    cases heq
    simp only [openingOf?]
    exact quote_opensWith (by simp) (hchildren nested hnested)
  | bulletedItem | toggle =>
    rw [renderBlock] at h
    obtain ⟨nested, -, heq⟩ := bind_eq_ok_iff.1 h
    cases heq
    simp only [openingOf?]
    exact item_opensWith context (by simp) [] runs nested
  | numberedItem =>
    rw [renderBlock] at h
    obtain ⟨nested, -, heq⟩ := bind_eq_ok_iff.1 h
    cases heq
    simp only [openingOf?]
    exact numberedItem_opensWith context (by simp) number runs nested
  | heading1 | heading2 | heading3 =>
    rw [renderBlock] at h
    cases h
    simp only [openingOf?]
    exact opensWith_of_head (by simp) (c := '#') rfl (by decide)

theorem renderCallout_opensWith {runs : List Run} {icon : String} {color : Page.Color}
    (h : renderBlock context depth number ⟨id, .callout runs icon color, children⟩ = .ok text) :
    OpensWith (openingOf? context ⟨id, .callout runs icon color, children⟩) (shown? text) := by
  rw [renderBlock] at h
  simp only [openingOf?]
  split at h
  · next hfence =>
    cases h
    exact opensWith_of_head (by simp) (head?_queryFence hfence) (by decide)
  · cases h
    exact opensWith_of_head (by simp) (c := '!') rfl (by decide)
  · obtain ⟨nested, -, heq⟩ := bind_eq_ok_iff.1 h
    cases heq
    obtain ⟨rest, hhead⟩ := List.head?_eq_some_iff.1 (head?_calloutHead context runs icon)
    rw [hhead]
    exact quoteLines_opensWith (by simp) (withNested_ne_nil '[' rest nested)

/-- The markup of a block begins as the block opens, when that holds of its children. -/
theorem renderBlock_opensWith
    (hchildren : ∀ nested, renderLevel context (depth + 1) children = .ok nested →
      OpensWith (opening? context children) (shown? nested))
    (hkind : ¬kind.isTransparent)
    (h : renderBlock context depth number ⟨id, kind, children⟩ = .ok text) :
    OpensWith (openingOf? context ⟨id, kind, children⟩) (shown? text) := by
  cases kind with
  | text form runs color => exact renderText_opensWith hchildren h
  | toDo runs checked =>
    rw [renderBlock] at h
    obtain ⟨nested, -, heq⟩ := bind_eq_ok_iff.1 h
    cases heq
    simp only [openingOf?]
    cases checked with
    | false => exact item_opensWith context (by simp) ['[', ' ', ']', ' '] runs nested
    | true => exact item_opensWith context (by simp) ['[', 'x', ']', ' '] runs nested
  | callout runs icon color => exact renderCallout_opensWith h
  | code runs language caption =>
    rw [renderBlock] at h
    cases h
    simp only [openingOf?]
    exact opensWith_of_head (by simp) (head?_fenced _ _) (by decide)
  | divider =>
    rw [renderBlock] at h
    cases h
    exact .some ⟨by decide, by decide⟩
  | equation expression =>
    rw [renderBlock] at h
    cases h
    simp only [openingOf?]
    exact opensWith_of_head (by simp) (c := '$') rfl (by decide)
  | media form url caption =>
    rw [renderBlock] at h
    cases h
    simp only [openingOf?]
    exact opensWith_of_head (by simp) (head?_mediaText form url caption) (by split <;> decide)
  | table width columnHeader rowHeader =>
    rw [renderBlock] at h
    cases h
    simp only [openingOf?]
    exact tableText_opensWith context width children (by simp)
  | tableRow cells =>
    rw [renderBlock] at h
    cases h
  | columnList | column | syncedBlock => exact absurd rfl hkind
  | childPage title =>
    rw [renderBlock] at h
    cases h
    simp only [openingOf?]
    exact opensWith_of_head (by simp) (c := '[') rfl (by decide)
  | unsupported name =>
    rw [renderBlock] at h
    cases h
    simp only [openingOf?]
    exact opensWith_of_head (by simp) (c := '<') rfl (by decide)

end

theorem Opens.joinPieces {kind : BlockKind} {piece : Piece} (h : Opens kind piece.text)
    (pieces : List Piece) : Opens kind (joinPieces (piece :: pieces)) := by
  cases pieces with
  | nil => exact h
  | cons next pieces =>
    rw [Render.joinPieces, List.append_assoc]
    split
    · exact h.append _
    · exact h.append _

theorem joinPieces_opensWith {kind? : Option BlockKind} {pieces : List Piece}
    (h : OpensWith kind? (pieces.head?.map Piece.text)) :
    OpensWith kind? (shown? (joinPieces pieces)) := by
  cases pieces with
  | nil => exact h
  | cons piece pieces =>
    cases h with
    | some h =>
      rw [shown?_of_ne_nil (h.joinPieces pieces).1]
      exact .some (h.joinPieces pieces)

theorem renderLevel_opensWith {context : Context} {depth : Nat} {blocks : List Block}
    {text : List Char}
    (hpieces : ∀ pieces last, renderPieces context depth 0 blocks = .ok (pieces, last) →
      OpensWith (opening? context blocks) (pieces.head?.map Piece.text))
    (h : renderLevel context depth blocks = .ok text) :
    OpensWith (opening? context blocks) (shown? text) := by
  obtain ⟨-, pieces, last, hrun, rfl⟩ := renderLevel_eq_ok_iff.1 h
  exact joinPieces_opensWith (hpieces pieces last hrun)

theorem openingOf?_of_isTransparent {context : Context} {id : Option String} {kind : BlockKind}
    {children : List Block} (h : kind.isTransparent) :
    openingOf? context ⟨id, kind, children⟩ = opening? context children := by
  cases kind with
  | columnList | column | syncedBlock => rfl
  | _ => cases h

theorem renderPieces_opensWith (context : Context) :
    ∀ (blocks : List Block) (depth number : Nat) (pieces : List Piece) (last : Nat),
      renderPieces context depth number blocks = .ok (pieces, last) →
      OpensWith (opening? context blocks) (pieces.head?.map Piece.text)
  | [], depth, number, pieces, last, h => by
    rw [renderPieces] at h
    cases h
    exact .none
  | ⟨id, kind, children⟩ :: blocks, depth, number, pieces, last, h => by
    have hchildren := renderPieces_opensWith context children
    have hblocks := renderPieces_opensWith context blocks
    rw [opening?]
    by_cases hkind : kind.isTransparent
    · obtain ⟨inside, next, others, hinside, hothers, rfl⟩ :=
        (renderPieces_group_eq_ok_iff hkind).1 h
      rw [openingOf?_of_isTransparent hkind, List.head?_append, Option.map_or]
      exact (hchildren _ _ _ _ hinside).or (hblocks _ _ _ _ hothers)
    · obtain ⟨text, others, htext, hothers, rfl⟩ :=
        (renderPieces_shown_eq_ok_iff (Bool.not_eq_true _ ▸ hkind)).1 h
      have hblock := renderBlock_opensWith
        (fun nested => renderLevel_opensWith (hchildren (depth + 1) 0)) hkind htext
      have hboth := hblock.or (hblocks _ _ _ _ hothers)
      unfold shown? at hboth
      by_cases hempty : text.isEmpty
      · rwa [if_pos hempty] at hboth ⊢
      · rwa [if_neg hempty] at hboth ⊢

/-! ### Forests -/

/-- The markup of a forest begins with a delimiter line when a divider opens it, and else it does
not even begin with a delimiter. -/
theorem render_opens {context : Context} {blocks : List Block} {text : List Char}
    (h : render context blocks = .ok text) :
    if opening? context blocks = some .divider then delimiter ++ ['\n'] <+: text
    else ¬delimiter <+: text := by
  obtain ⟨_, _, h⟩ := bind_eq_ok_iff.1 h
  obtain ⟨level, hlevel, heq⟩ := bind_eq_ok_iff.1 h
  have hopens := renderLevel_opensWith (renderPieces_opensWith context blocks 0 0) hlevel
  cases heq
  generalize opening? context blocks = kind? at hopens ⊢
  cases level with
  | nil =>
    cases hopens
    decide
  | cons c level =>
    cases hopens with
    | some hopens =>
      obtain ⟨-, hopens⟩ := hopens
      simp only [Option.some_inj]
      split at hopens
      · next hkind =>
        rw [if_pos hkind]
        exact hopens
      · next hkind =>
        rw [if_neg hkind]
        exact fun hprefix => hopens (delimiter_prefix_of_append hprefix)

end NoteBridge.Render
