import NoteBridge.Markdown.Document
import NoteBridge.Proofs.Markdown.Span
import NoteBridge.Proofs.Markdown.Tag
import NoteBridge.Proofs.Text.Search
import NoteBridge.Proofs.Unseen

/-!
The order in which the tags of spans are collected. Those inside the spans of a level come before
those of its own texts, so a tag that is read in a text comes behind the tags inside all that
follows it at its level. When each tag counts at its first place only, this shows unless what both
add begins alike at each text.
-/

namespace NoteBridge

/-- Whether inline content is a text. -/
def Markup.Inline.isText : Markup.Inline → Bool
  | .text _ => true
  | _ => false

namespace Markdown

open Markup (Inline)

namespace Span

/-! ### Orders of tags -/

/-- The tags of a text, and none of what is no text. -/
def ownTags : Span → List String
  | text cs => Tag.tagsIn cs
  | _ => []

mutual

/-- The tags of a span in the order of its texts. -/
def tagsRead : Span → List String
  | text cs => Tag.tagsIn cs
  | emphasis _ children | strikethrough children | link _ _ children => tagsReadAll children
  | _ => []

/-- The tags of spans in the order of their texts. -/
def tagsReadAll : List Span → List String
  | [] => []
  | span :: spans => span.tagsRead ++ tagsReadAll spans

end

mutual

/-- The tags inside a span, at each level those further inside first. -/
def tagsInside : Span → List String
  | emphasis _ children | strikethrough children | link _ _ children =>
    tagsInsideAll children ++ children.flatMap ownTags
  | _ => []

def tagsInsideAll : List Span → List String
  | [] => []
  | span :: spans => span.tagsInside ++ tagsInsideAll spans

end

/-- The tags of spans in the order in which they are collected: those inside, then the own ones. -/
def tagsCollected (spans : List Span) : List String :=
  tagsInsideAll spans ++ spans.flatMap ownTags

@[simp] theorem tagsReadAll_nil : tagsReadAll [] = [] := rfl

theorem tagsInside_eq (span : Span) : span.tagsInside = tagsCollected span.inner := by
  cases span <;> rfl

theorem tagsRead_eq (span : Span) : span.tagsRead = span.ownTags ++ tagsReadAll span.inner := by
  cases span <;> simp [tagsRead, ownTags, inner]

theorem tagsReadAll_text (cs : List Char) (spans : List Span) :
    tagsReadAll (text cs :: spans) = Tag.tagsIn cs ++ tagsReadAll spans := rfl

theorem tagsCollected_text (cs : List Char) (spans : List Span) :
    tagsCollected (text cs :: spans) =
      tagsInsideAll spans ++ (Tag.tagsIn cs ++ spans.flatMap ownTags) := rfl

theorem ownTags_of_not_text {span : Span} (h : span.isText = false) : span.ownTags = [] := by
  cases span with
  | text => cases h
  | _ => rfl

theorem tagsReadAll_of_not_text {span : Span} (h : span.isText = false) (spans : List Span) :
    tagsReadAll (span :: spans) = tagsReadAll span.inner ++ tagsReadAll spans := by
  rw [tagsReadAll, tagsRead_eq, ownTags_of_not_text h, List.nil_append]

theorem tagsCollected_of_not_text {span : Span} (h : span.isText = false) (spans : List Span) :
    tagsCollected (span :: spans) = tagsCollected span.inner ++ tagsCollected spans := by
  rw [tagsCollected, tagsInsideAll, tagsInside_eq, List.flatMap_cons, ownTags_of_not_text h,
    List.nil_append, List.append_assoc]
  rfl

/-! ### Collecting -/

theorem tagsInsideAll_consJoining_text (cs : List Char) (spans : List Span) :
    tagsInsideAll (consJoining (text cs) spans) = tagsInsideAll spans := by
  rcases spans with _ | ⟨span, spans⟩
  · rfl
  · cases span <;> rfl

/-- The own tags of content that is the last one first. -/
def ownTagsOf (out : List Inline) : List String := out.reverse.flatMap tagsOf

theorem ownTagsOf_cons (inline : Inline) (out : List Inline) :
    ownTagsOf (inline :: out) = ownTagsOf out ++ tagsOf inline := by
  rw [ownTagsOf, List.reverse_cons, List.flatMap_append, List.flatMap_singleton]
  rfl

theorem ownTagsOf_text (s : String) (out : List Inline) :
    ownTagsOf (.text s :: out) = ownTagsOf out ++ Tag.tagsIn s.toList := by
  rw [ownTagsOf_cons, tagsOf, Tag.inText_eq]

/-- The mark that makes a reference an embedding takes no tag with it. -/
theorem ownTagsOf_takeEmbedMark (out : List Inline) :
    ownTagsOf (takeEmbedMark out).2 = ownTagsOf out := by
  unfold takeEmbedMark
  split
  · next last before =>
    have hmark : ∀ {rest}, Text.before? ['!'] last.toList = some rest →
        ownTagsOf (.text last :: before) = ownTagsOf before ++ Tag.tagsIn rest := by
      intro rest hrest
      rw [ownTagsOf_text, Text.before?_eq_some_iff.1 hrest, Tag.tagsIn_concat_mark]
    split
    · next hrest => rw [hmark hrest]; exact (List.append_nil _).symm
    · next rest _ hrest => rw [hmark hrest, ownTagsOf_text, String.toList_ofList]
    · rfl
  · rfl

theorem isText_link (url title : List Char) (children : List Inline) :
    (Markdown.link url title children).isText = false := by
  unfold Markdown.link
  simp only
  split <;> split <;> rfl

theorem tagsOf_of_not_text {inline : Inline} (h : inline.isText = false) : tagsOf inline = [] := by
  cases inline with
  | text => cases h
  | _ => rfl

/-- What is no text is put behind the other content, whose tags stay as they are. -/
theorem push_of_not_text {span : Span} (h : span.isText = false) (out : List Inline) :
    ∃ inline before, (span.push out).1 = inline :: before ∧ inline.isText = false ∧
      ownTagsOf before = ownTagsOf out := by
  cases span with
  | text => cases h
  | link url title children => exact ⟨_, out, by rw [push], isText_link .., rfl⟩
  | crossRef url label =>
    exact ⟨_, (takeEmbedMark out).2, by rw [push], rfl, ownTagsOf_takeEmbedMark out⟩
  | _ => exact ⟨_, out, by rw [push], rfl, rfl⟩

/-- The content before a text that can still grow. -/
def settled : List Inline → List Inline
  | .text _ :: out => out
  | out => out

/-- Spans with the text that can still grow, if there is one, in front of them. -/
def withPending : List Inline → List Span → List Span
  | .text last :: _, spans => consJoining (text last.toList) spans
  | _, spans => spans

theorem settled_pushText (cs : List Char) (out : List Inline) :
    settled (pushText cs out) = settled out := by
  rcases out with _ | ⟨inline, out⟩
  · rfl
  · cases inline <;> rfl

theorem withPending_pushText (cs : List Char) (out : List Inline) (spans : List Span) :
    withPending (pushText cs out) spans = withPending out (consJoining (text cs) spans) := by
  rcases out with _ | ⟨inline, out⟩
  · simp only [pushText, withPending, String.toList_ofList]
  · cases inline with
    | text last =>
      simp only [pushText, withPending, consJoining_text_text, String.toList_append,
        String.toList_ofList]
    | _ => simp only [pushText, withPending, String.toList_ofList]

theorem settled_of_not_text {inline : Inline} (h : inline.isText = false) (out : List Inline) :
    settled (inline :: out) = inline :: out := by
  cases inline with
  | text => cases h
  | _ => rfl

theorem withPending_of_not_text {inline : Inline} (h : inline.isText = false) (out : List Inline)
    (spans : List Span) : withPending (inline :: out) spans = spans := by
  cases inline with
  | text => cases h
  | _ => rfl

/-- No text grows by what is no text. -/
theorem withPending_append {span : Span} (h : span.isText = false) (out : List Inline)
    (spans : List Span) :
    withPending out (span :: spans) = withPending out [] ++ span :: spans := by
  rcases out with _ | ⟨inline, out⟩
  · rfl
  · cases inline with
    | text last =>
      cases span with
      | text => cases h
      | _ => rfl
    | _ => rfl

theorem ownTagsOf_withPending_nil (out : List Inline) :
    ownTagsOf (settled out) ++ (withPending out []).flatMap ownTags = ownTagsOf out := by
  rcases out with _ | ⟨inline, out⟩
  · rfl
  · cases inline with
    | text last => simp [settled, withPending, consJoining, ownTagsOf_text, ownTags]
    | _ => exact List.append_nil _

theorem pushAll_cons_fst (out : List Inline) (span : Span) (spans : List Span) :
    (pushAll out (span :: spans)).1 = (pushAll (span.push out).1 spans).1 := by
  rw [pushAll]

theorem pushAll_cons_snd (out : List Inline) (span : Span) (spans : List Span) :
    (pushAll out (span :: spans)).2 = (span.push out).2 ++ (pushAll (span.push out).1 spans).2 := by
  rw [pushAll]

/-- The own tags of content that spans are put behind are its own and theirs, a text at its end
being joined to one at their start. -/
theorem ownTagsOf_pushAll (out : List Inline) (spans : List Span) :
    ownTagsOf (pushAll out spans).1 =
      ownTagsOf (settled out) ++ (withPending out (joinTexts spans)).flatMap ownTags := by
  induction spans using spans_induct generalizing out with
  | nil =>
    rw [pushAll, joinTexts, ownTagsOf_withPending_nil]
  | text cs spans ih =>
    rw [pushAll_cons_fst, push, ih, settled_pushText, withPending_pushText, joinTexts_text]
  | other span spans hspan _ ih =>
    obtain ⟨inline, before, hpush, hinline, hbefore⟩ := push_of_not_text hspan out
    have hjoined : span.joined.isText = false := (isText_joined span).trans hspan
    rw [pushAll_cons_fst, hpush, ih, settled_of_not_text hinline, withPending_of_not_text hinline,
      ownTagsOf_cons, tagsOf_of_not_text hinline, hbefore, List.append_nil,
      joinTexts_of_not_text hspan, withPending_append hjoined, List.flatMap_append,
      ← List.append_assoc, ownTagsOf_withPending_nil, List.flatMap_cons,
      ownTags_of_not_text hjoined, List.nil_append]

theorem inlines_snd_eq_append (spans : List Span) :
    (inlines spans).2 = (pushAll [] spans).2 ++ (joinTexts spans).flatMap ownTags := by
  rw [inlines]
  exact congrArg ((pushAll [] spans).2 ++ ·) (ownTagsOf_pushAll [] spans)

theorem inlines_nil : inlines [] = ([], []) := by
  rw [inlines, pushAll]
  rfl

/-- What comes with a span are the tags of what it has inside. -/
theorem push_snd (out : List Inline) (span : Span) :
    (span.push out).2 = (inlines span.inner).2 := by
  cases span <;> simp only [push, inner, inlines_nil]

theorem pushAll_snd (out : List Inline) (spans : List Span) :
    (pushAll out spans).2 = tagsInsideAll (joinTexts spans) := by
  induction spans using spans_induct generalizing out with
  | nil => rw [pushAll, joinTexts, tagsInsideAll]
  | text cs spans ih =>
    rw [pushAll_cons_snd, ih, joinTexts_text, tagsInsideAll_consJoining_text, push, List.nil_append]
  | other span spans hspan hinner hspans =>
    rw [pushAll_cons_snd, hspans, push_snd, inlines_snd_eq_append, hinner,
      joinTexts_of_not_text hspan, tagsInsideAll, tagsInside_eq, inner_joined, tagsCollected]

/-- The tags that come with the content of spans are collected level by level. -/
theorem inlines_snd (spans : List Span) :
    (inlines spans).2 = tagsCollected (joinTexts spans) := by
  rw [inlines_snd_eq_append, pushAll_snd, tagsCollected]

/-! ### The order of the texts -/

/-- Both orders are of the same tags. -/
theorem tagsCollected_perm (spans : List Span) :
    (tagsCollected spans).Perm (tagsReadAll spans) := by
  induction spans using spans_induct with
  | nil => exact .nil
  | text cs spans ih =>
    rw [tagsCollected_text, tagsReadAll_text, ← List.append_assoc]
    refine (List.perm_append_comm.append_right _).trans ?_
    rw [List.append_assoc]
    exact ih.append_left _
  | other span spans hspan hinner hspans =>
    rw [tagsCollected_of_not_text hspan, tagsReadAll_of_not_text hspan]
    exact hinner.append hspans

/-- A text that stands among spans or inside of them, with the tags that are read before it and
those inside what stands behind it at its level. -/
inductive TextAt : List Span → List String → List Char → List String → Prop
  | here (cs : List Char) (spans : List Span) :
    TextAt (text cs :: spans) [] cs (tagsInsideAll spans)
  | inside {span : Span} {spans : List Span} {seen : List String} {cs : List Char}
    {later : List String} : TextAt span.inner seen cs later → TextAt (span :: spans) seen cs later
  | behind {span : Span} {spans : List Span} {seen : List String} {cs : List Char}
    {later : List String} : TextAt spans seen cs later →
      TextAt (span :: spans) (span.tagsRead ++ seen) cs later

variable {cs : List Char} {seen later : List String} {spans : List Span} {span : Span}

theorem not_textAt_nil : ¬TextAt [] seen cs later := by
  rintro ⟨⟩

theorem textAt_text_iff {text : List Char} : TextAt (.text text :: spans) seen cs later ↔
    (seen = [] ∧ cs = text ∧ later = tagsInsideAll spans) ∨
      ∃ before, seen = Tag.tagsIn text ++ before ∧ TextAt spans before cs later := by
  constructor
  · rintro (_ | h | h)
    · exact .inl ⟨rfl, rfl, rfl⟩
    · exact absurd h not_textAt_nil
    · exact .inr ⟨_, rfl, h⟩
  · rintro (⟨rfl, rfl, rfl⟩ | ⟨before, rfl, h⟩)
    · exact .here _ _
    · exact .behind h

theorem textAt_other_iff (hspan : span.isText = false) : TextAt (span :: spans) seen cs later ↔
    TextAt span.inner seen cs later ∨
      ∃ before, seen = tagsReadAll span.inner ++ before ∧ TextAt spans before cs later := by
  have hread : span.tagsRead = tagsReadAll span.inner := by
    rw [tagsRead_eq, ownTags_of_not_text hspan, List.nil_append]
  rw [← hread]
  constructor
  · rintro (_ | h | h)
    · cases hspan
    · exact .inl h
    · exact .inr ⟨_, rfl, h⟩
  · rintro (h | ⟨before, rfl, h⟩)
    · exact .inside h
    · exact .behind h

/-- Whether each text among spans adds to what is read before it what the spans behind it at its
level have inside, as far as both go. -/
def InOrder (seen : List String) (spans : List Span) : Prop :=
  ∀ before cs later, TextAt spans before cs later →
    BeginAlike (seen ++ before) (Tag.tagsIn cs) later

theorem inOrder_text_iff {text : List Char} : InOrder seen (.text text :: spans) ↔
    BeginAlike seen (Tag.tagsIn text) (tagsInsideAll spans) ∧
      InOrder (seen ++ Tag.tagsIn text) spans := by
  constructor
  · intro h
    constructor
    · simpa using h [] text _ (.here text spans)
    · intro before cs later hat
      rw [List.append_assoc]
      exact h _ cs later (.behind hat)
  · rintro ⟨hhere, hbehind⟩ before cs later hat
    rcases textAt_text_iff.1 hat with ⟨rfl, rfl, rfl⟩ | ⟨before, rfl, hspans⟩
    · simpa using hhere
    · rw [← List.append_assoc]
      exact hbehind before cs later hspans

theorem inOrder_other_iff (hspan : span.isText = false) : InOrder seen (span :: spans) ↔
    InOrder seen span.inner ∧ InOrder (seen ++ tagsReadAll span.inner) spans := by
  simp only [InOrder, textAt_other_iff hspan]
  constructor
  · intro h
    constructor
    · exact fun before cs later hat => h before cs later (.inl hat)
    · intro before cs later hat
      rw [List.append_assoc]
      exact h _ cs later (.inr ⟨before, rfl, hat⟩)
  · rintro ⟨hinside, hbehind⟩ before cs later (hat | ⟨before, rfl, hat⟩)
    · exact hinside before cs later hat
    · rw [← List.append_assoc]
      exact hbehind before cs later hat

/-- Behind what was seen, the tags of spans are collected as they are read if and only if each text
adds what the spans behind it have inside, as far as both go. -/
theorem unseen_tags_eq_iff (seen : List String) (spans : List Span) :
    unseen seen (tagsReadAll spans) = unseen seen (tagsCollected spans) ↔ InOrder seen spans := by
  induction spans using spans_induct generalizing seen with
  | nil => exact ⟨fun _ _ _ _ hat => absurd hat not_textAt_nil, fun _ => rfl⟩
  | text cs spans ih =>
    rw [tagsReadAll_text, tagsCollected_text, unseen_append_eq_iff, inOrder_text_iff, ← ih]
    rfl
  | other span spans hspan hinner hspans =>
    rw [tagsReadAll_of_not_text hspan, tagsCollected_of_not_text hspan, inOrder_other_iff hspan,
      unseen_append_eq_iff_of_perm (tagsCollected_perm span.inner), hinner, hspans]

/-- The same of contents that stand one behind the other. -/
theorem unseen_flatMap_tags_eq_iff (seen : List String) (contents : List (List Span)) :
    unseen seen (contents.flatMap tagsReadAll) = unseen seen (contents.flatMap tagsCollected) ↔
      ∀ before content after, contents = before ++ content :: after →
        InOrder (seen ++ before.flatMap tagsReadAll) content := by
  induction contents generalizing seen with
  | nil => simp
  | cons content contents ih =>
    rw [List.flatMap_cons, List.flatMap_cons,
      unseen_append_eq_iff_of_perm (tagsCollected_perm content), unseen_tags_eq_iff, ih]
    constructor
    · rintro ⟨hhere, hlater⟩ before other after h
      rcases List.cons_eq_append_iff.1 h with ⟨rfl, heq⟩ | ⟨before, rfl, heq⟩
      · obtain ⟨rfl, rfl⟩ := List.cons.inj heq
        simpa using hhere
      · rw [List.flatMap_cons, ← List.append_assoc]
        exact hlater before other after heq
    · intro h
      constructor
      · simpa using h [] content contents rfl
      · rintro before other after rfl
        rw [List.append_assoc]
        exact h (content :: before) other after rfl

end Span
end Markdown
end NoteBridge
