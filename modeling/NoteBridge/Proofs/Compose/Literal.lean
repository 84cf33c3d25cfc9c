import NoteBridge.Compose.Document
import NoteBridge.Proofs.Compose.Stream
import NoteBridge.Proofs.Markup.WikiLink
import NoteBridge.Proofs.Page.Plain

/-!
Literal text as content. It is split at references and highlighted like any other text, so it is
shown as it was if and only if it has neither of them. As a paragraph it must be no formula either,
and as a quote not begin like a callout.
-/

namespace NoteBridge.Compose

open Markup (Inline)
open Markup.WikiLink (HasLink split textNode)
open Page (Item Run charItems stream plainText plainChars)
open Text (Tight after?_eq_some_iff before?_eq_some_iff trim_eq_nil_iff)
open Text (after? allBlank before? isWord trim trimStart)

variable {context : Context} {s : String} {cs : List Char}

/-! ### Plain streams -/

theorem stream_compose_eq_denoteAll (context : Context) (inlines : List Inline) :
    stream (compose context inlines) =
      (denoteAll context {} none inlines).flatMap Item.bounded := by
  have hsame : underLink none = id := by
    funext item
    cases item <;> rfl
  rw [compose, Page.stream_boundRuns, Page.stream_mergeRuns, ← map_underLink_inlineRunsAll, hsame,
    List.map_id]

theorem items_ne_nil_of_mem_compose {inlines : List Inline} :
    ∀ run ∈ compose context inlines, run.items ≠ [] := fun _ hrun =>
  Page.items_ne_nil_of_mem_boundRuns (fun _ => Page.items_ne_nil_of_mem_mergeRuns) hrun

/-! ### What a text shows -/

/-- A reference that shows in the default style shows no more than its text. -/
theorem length_crossRefItems_le {ref : Markup.CrossRef}
    (h : ∀ item ∈ crossRefItems context {} none ref, item.IsPlain) :
    (crossRefItems context {} none ref).length ≤ ref.shown.toList.length := by
  have hshown : (charItems {} none ref.shown.toList).length = ref.shown.toList.length :=
    List.length_map _
  unfold crossRefItems at *
  split at h
  · next hembed =>
    rw [if_pos hembed, hshown]
  · next hembed =>
    rw [if_neg hembed]
    cases hpage : context.resolver.page? ref.target with
    | some page =>
      rw [hpage] at h
      obtain ⟨c, hc⟩ := h _ (List.mem_singleton_self _)
      cases hc
    | none =>
      rw [hpage] at h
      cases hunresolved : context.options.unresolved with
      | placeholder =>
        rw [hunresolved] at h
        obtain ⟨c, hc⟩ := h (.char '[' { color := .letters .red } none) (List.mem_cons_self ..)
        cases hc
      | text => exact Nat.le_of_eq hshown
      | skip => exact Nat.zero_le _

theorem length_textItems_le (context : Context) (cs : List Char) :
    (textItems context {} none cs).length ≤ cs.length := by
  have hle := length_shownChars_le (segments cs)
  rw [join_segments] at hle
  rwa [textItems, List.length_map]

/-- Split text that shows in the default style shows no more than what is left without brackets. -/
theorem length_denoteAll_le {nodes : List Inline}
    (hnodes : ∀ node ∈ nodes, (∃ s, node = .text s) ∨ ∃ ref, node = .crossRef ref)
    (hplain : ∀ item ∈ denoteAll context {} none nodes, item.IsPlain) :
    (denoteAll context {} none nodes).length ≤ (Inline.plainCharsAll nodes).length := by
  induction nodes with
  | nil => exact Nat.le_refl _
  | cons node nodes ih =>
    obtain ⟨hnode, hrest⟩ := List.forall_mem_cons.1 hnodes
    rw [denoteAll, List.forall_mem_append] at hplain
    have hle := ih hrest hplain.2
    rw [denoteAll, Inline.plainCharsAll, List.length_append, List.length_append]
    rcases hnode with ⟨s, rfl⟩ | ⟨ref, rfl⟩
    · have hfirst := length_textItems_le context s.toList
      rw [denote, Inline.plainChars]
      omega
    · rw [denote] at hplain ⊢
      have hfirst := length_crossRefItems_le hplain.1
      rw [Inline.plainChars]
      omega

theorem split_of_not_hasLink (hs : s ≠ "") (h : ¬HasLink s.toList) : split s = [.text s] := by
  rw [split, Markup.WikiLink.splitFrom_of_not_hasLink h, List.nil_append, textNode,
    if_neg (by simpa using hs), String.ofList_toList]

/-- A text shows as it is exactly when it has no reference and no highlight. -/
theorem stream_compose_split_iff (context : Context) (hs : s ≠ "") :
    stream (compose context (split s)) = charItems {} none s.toList ↔
      ¬HasLink s.toList ∧ ¬HasHighlight s.toList := by
  have hlength : (charItems {} none s.toList).length = s.toList.length := List.length_map _
  rw [stream_compose_eq_denoteAll, Page.flatMap_bounded_eq_charItems_iff]
  constructor
  · intro h
    have hlink : ¬HasLink s.toList := by
      intro hlink
      have hlt := Markup.WikiLink.length_plainCharsAll_splitFrom hlink []
      have hnodes : ∀ node ∈ split s, (∃ s, node = .text s) ∨ ∃ ref, node = .crossRef ref :=
        fun _ => Markup.WikiLink.mem_splitFrom
      have hplain : ∀ item ∈ denoteAll context {} none (split s), item.IsPlain := by
        intro item hitem
        rw [h] at hitem
        exact Page.isPlain_of_mem_charItems hitem
      have hle := length_denoteAll_le hnodes hplain
      rw [h, hlength] at hle
      rw [← split, List.length_nil] at hlt
      omega
    refine ⟨hlink, ?_⟩
    rintro ⟨c, hc⟩
    have hlt := length_shownChars_lt hc
    rw [split_of_not_hasLink hs hlink, denoteAll, denote, denoteAll, List.append_nil] at h
    have hshown : (shownChars (segments s.toList)).length = s.toList.length := by
      rw [← hlength, ← h, textItems, List.length_map]
    rw [join_segments] at hlt
    omega
  · rintro ⟨hlink, hhighlight⟩
    have hshown : shownChars (segments s.toList) = s.toList.map (·, false) := by
      rw [shownChars_of_forall_not_mem fun c hc => hhighlight ⟨c, hc⟩, join_segments]
    rw [split_of_not_hasLink hs hlink, denoteAll, denote, denoteAll, List.append_nil, textItems,
      hshown, List.map_map]
    rfl

/-- Whether runs show a text as it is, without style and link. -/
def ShowsPlainly (runs : List Run) (s : String) : Prop :=
  (∀ run ∈ runs, run.IsPlain) ∧ plainText runs = s

theorem showsPlainly_compose_split_iff (context : Context) (hs : s ≠ "") :
    ShowsPlainly (compose context (split s)) s ↔
      ¬HasLink s.toList ∧ ¬HasHighlight s.toList := by
  rw [← stream_compose_split_iff context hs,
    Page.stream_eq_charItems_iff items_ne_nil_of_mem_compose, ShowsPlainly, plainText]
  have htext : String.ofList (plainChars (compose context (split s))) = s ↔
      plainChars (compose context (split s)) = s.toList := by
    constructor
    · intro h
      have hchars := congrArg String.toList h
      rwa [String.toList_ofList] at hchars
    · intro h
      rw [h, String.ofList_toList]
  rw [htext]

/-! ### Paragraphs -/

/-- Whether a text stands between dollar signs, as a formula does. -/
def IsFormula (cs : List Char) : Prop :=
  ∃ inner, cs = ['$', '$'] ++ inner ++ ['$', '$'] ∧ allBlank inner = false

theorem dollarMath?_eq_none_iff (h : trim cs = cs) : dollarMath? cs = none ↔ ¬IsFormula cs := by
  rw [dollarMath?, h]
  constructor
  · rintro hnone ⟨inner, rfl, hinner⟩
    have hread : (after? ['$', '$'] (['$', '$'] ++ inner ++ ['$', '$'])).bind
        (before? ['$', '$']) = some inner := by
      rw [List.append_assoc, after?_eq_some_iff.2 rfl]
      exact before?_eq_some_iff.2 rfl
    rw [hread] at hnone
    dsimp only at hnone
    split at hnone
    · next hblank =>
      rw [List.isEmpty_iff, trim_eq_nil_iff, hinner] at hblank
      cases hblank
    · cases hnone
  · intro hformula
    split
    · next inner hread =>
      obtain ⟨rest, hafter, hbefore⟩ := Option.bind_eq_some_iff.1 hread
      rw [after?_eq_some_iff] at hafter
      rw [before?_eq_some_iff] at hbefore
      have hblank : allBlank inner = true := by
        cases hinner : allBlank inner with
        | true => rfl
        | false =>
          refine absurd ⟨inner, ?_, hinner⟩ hformula
          rw [hafter, hbefore, List.append_assoc]
      rw [if_pos (List.isEmpty_iff.2 (trim_eq_nil_iff.2 hblank))]
    · rfl

theorem visible_text (h : Tight s.toList) : visible [.text s] = [.text s] := by
  have hblank : allBlank s.toList = false := by
    rw [← Bool.not_eq_true, ← trim_eq_nil_iff, h.2]
    exact h.1
  simp [visible, Inline.isBlank, hblank]

theorem displayMath?_text (h : Tight s.toList) :
    displayMath? [.text s] = dollarMath? s.toList := by
  rw [displayMath?, visible_text h]
  simp [isTextOrBreak, Inline.plainCharsAll, Inline.plainChars]

theorem loneImage?_text (h : Tight s.toList) : loneImage? [.text s] = none := by
  rw [loneImage?, visible_text h]

/-- The paragraph of a text shows the text exactly when it is nothing but text. -/
theorem paragraphBlock_split_iff (context : Context) (h : Tight s.toList) :
    (∃ runs, paragraphBlock context (split s) = .paragraph runs ∧ ShowsPlainly runs s) ↔
      ¬HasLink s.toList ∧ ¬HasHighlight s.toList ∧ ¬IsFormula s.toList := by
  have hs : s ≠ "" := by simpa using h.1
  rw [← dollarMath?_eq_none_iff h.2, ← and_assoc, ← showsPlainly_compose_split_iff context hs]
  constructor
  · rintro ⟨runs, hblock, hruns⟩
    have hcompose : displayMath? (split s) = none ∧ compose context (split s) = runs := by
      rw [paragraphBlock] at hblock
      split at hblock
      · cases hblock
      · next hmath =>
        refine ⟨hmath, ?_⟩
        split at hblock
        · next url alt _ =>
          unfold imageBlock at hblock
          split at hblock <;> cases hblock
        · cases hblock
          rfl
    obtain ⟨hmath, rfl⟩ := hcompose
    refine ⟨hruns, ?_⟩
    rw [split_of_not_hasLink hs ((showsPlainly_compose_split_iff context hs).1 hruns).1,
      displayMath?_text h] at hmath
    exact hmath
  · rintro ⟨hruns, hmath⟩
    refine ⟨compose context (split s), ?_, hruns⟩
    rw [split_of_not_hasLink hs ((showsPlainly_compose_split_iff context hs).1 hruns).1,
      paragraphBlock, displayMath?_text h, hmath, loneImage?_text h]

/-! ### Quotes -/

/-- Whether a text begins like a callout: with a name in brackets, behind an exclamation mark. -/
def OpensCallout (cs : List Char) : Prop :=
  ∃ c name rest, cs = '[' :: '!' :: c :: (name ++ ']' :: rest) ∧ isWord c = true ∧
    ∀ d ∈ name, isWord d = true ∨ d = '-'

theorem calloutLine?_ne_none {c : Char} {name rest : List Char} (hc : isWord c = true)
    (hname : ∀ d ∈ name, isWord d = true ∨ d = '-') (hline : '\n' ∉ rest) :
    calloutLine? ('[' :: '!' :: c :: (name ++ ']' :: rest)) ≠ none := by
  have hdrop : (name ++ ']' :: rest).dropWhile (fun d => isWord d || d == '-') = ']' :: rest := by
    rw [List.dropWhile_append_of_pos]
    · exact List.dropWhile_cons_of_neg (by decide)
    · intro d hd
      simpa using hname d hd
  have htitle : ∀ title : List Char, title ⊆ rest → (trimStart title).contains '\n' = false := by
    intro title hsub
    have hline' : '\n' ∉ trimStart title := fun hmem =>
      hline (hsub ((List.dropWhile_suffix _).subset hmem))
    simpa using hline'
  simp only [calloutLine?, hc, hdrop, if_true]
  rw [htitle]
  · nofun
  · split
    · exact List.subset_cons_self _ _
    · exact List.subset_cons_self _ _
    · exact List.Subset.refl _

theorem calloutLine?_eq_none_iff (h : '\n' ∉ cs) : calloutLine? cs = none ↔ ¬OpensCallout cs := by
  constructor
  · rintro hnone ⟨c, name, rest, rfl, hc, hname⟩
    refine calloutLine?_ne_none hc hname ?_ hnone
    simp at h
    exact h.2.2
  · intro hcallout
    unfold calloutLine?
    split
    · next c cs =>
      split
      · next hc =>
        dsimp only
        split
        · next rest hrest =>
          have hname := List.takeWhile_append_dropWhile (p := fun d => isWord d || d == '-') (l := cs)
          rw [hrest] at hname
          refine absurd ⟨c, _, rest, by rw [hname], hc, fun d hd => ?_⟩ hcallout
          simpa using List.mem_takeWhile_imp hd
        · rfl
      · rfl
    · rfl

theorem calloutMarker?_text (h : Tight s.toList) : calloutMarker? [.text s] = none ↔
    calloutLine? s.toList = none := by
  simp [calloutMarker?, Inline.isBreak, Inline.plainCharsAll, Inline.plainChars, h.2]

/-- The quote of a text shows the text exactly when it is nothing but text. -/
theorem quoteKind_split_iff (context : Context) (h : Tight s.toList) (hline : '\n' ∉ s.toList) :
    (∃ runs, quoteKind context (some (split s)) = .text .quote runs ∧ ShowsPlainly runs s) ↔
      ¬HasLink s.toList ∧ ¬HasHighlight s.toList ∧ ¬OpensCallout s.toList := by
  have hs : s ≠ "" := by simpa using h.1
  rw [← calloutLine?_eq_none_iff hline, ← calloutMarker?_text h, ← and_assoc,
    ← showsPlainly_compose_split_iff context hs]
  constructor
  · rintro ⟨runs, hkind, hruns⟩
    have hcompose : calloutMarker? (split s) = none ∧ compose context (split s) = runs := by
      rw [quoteKind, Option.bind_some] at hkind
      split at hkind
      · cases hkind
      · next hnone =>
        cases hkind
        exact ⟨hnone, rfl⟩
    obtain ⟨hmarker, rfl⟩ := hcompose
    rw [split_of_not_hasLink hs ((showsPlainly_compose_split_iff context hs).1 hruns).1] at hmarker
    exact ⟨hruns, hmarker⟩
  · rintro ⟨hruns, hmarker⟩
    refine ⟨compose context (split s), ?_, hruns⟩
    rw [split_of_not_hasLink hs ((showsPlainly_compose_split_iff context hs).1 hruns).1,
      quoteKind, Option.bind_some, hmarker, Option.getD_some]

end NoteBridge.Compose
