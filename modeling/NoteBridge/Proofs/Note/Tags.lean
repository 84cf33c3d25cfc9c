import Mathlib.Data.List.Perm.Basic
import NoteBridge.Note
import NoteBridge.Proofs.Markdown.TagOrder

/-!
The tags of a note. They are those of its front matter and of its body, each once; in the body they
are collected content by content, and inside a content level by level. So they come in the order in
which a reader finds them unless a text is followed, at its level, by new tags inside a span.
-/

namespace NoteBridge

open Markdown (Span)
open Markdown.Span (TextAt joinTexts tagsCollected tagsReadAll)

namespace Markdown

/-! ### The contents of blocks -/

/-- The spans of a text with its texts joined. -/
def textContent (refs : References) (cs : List Char) : List Span := joinTexts (spans refs cs)

/-- The spans of the paragraph that begins an item, behind its box if it has one. -/
def itemTextContent (refs : References) (cs : List Char) : List Span :=
  match Span.read refs cs with
  | .text first :: others =>
    match task? first with
    | some (_, rest) => joinTexts (Autolink.inSpans (.text rest :: others))
    | none => textContent refs cs
  | _ => textContent refs cs

def rowContents (refs : References) (cells : List (List Char)) : List (List Span) :=
  cells.map (textContent refs)

mutual

/-- The inline contents of a block in their order, with their texts joined. -/
def Block.contents (refs : References) (inItem : Bool) : Block → List (List Span)
  | .heading _ cs => [textContent refs cs]
  | .paragraph cs => [if inItem then itemTextContent refs cs else textContent refs cs]
  | .list _ items => Block.itemContents refs items
  | .quote children => Block.contentsAll refs false children
  | .table header rows => rowContents refs header ++ rows.flatMap (rowContents refs)
  | .code .. | .rule | .html _ => []

def Block.contentsAll (refs : References) (inItem : Bool) : List Block → List (List Span)
  | [] => []
  | block :: blocks => block.contents refs inItem ++ Block.contentsAll refs false blocks

def Block.itemContents (refs : References) : List (List Block) → List (List Span)
  | [] => []
  | item :: items => Block.contentsAll refs true item ++ Block.itemContents refs items

end

/-- The inline contents of a text in their order. -/
def contents (source : String) : List (List Span) :=
  let (blocks, refs) := Outline.read source.toList
  Block.contentsAll refs false blocks

theorem content_snd (refs : References) (cs : List Char) :
    (content refs cs).2 = tagsCollected (textContent refs cs) :=
  Span.inlines_snd (spans refs cs)

theorem itemContent_snd (refs : References) (cs : List Char) :
    (itemContent refs cs).2 = tagsCollected (itemTextContent refs cs) := by
  unfold itemContent itemTextContent
  generalize Span.read refs cs = spans
  rcases spans with _ | ⟨span, others⟩
  · exact content_snd refs cs
  · cases span with
    | text first =>
      cases htask : task? first with
      | none => simpa only [htask] using content_snd refs cs
      | some box => simpa only [htask] using Span.inlines_snd _
    | _ => exact content_snd refs cs

theorem row_snd (refs : References) (cells : List (List Char)) :
    (row refs cells).2 = (rowContents refs cells).flatMap tagsCollected := by
  simp only [row, rowContents, List.flatMap_map, content_snd]

mutual

/-- The tags of a block are those of its contents, one behind the other. -/
theorem Block.node_snd (refs : References) (inItem : Bool) (block : Block) :
    (block.node refs inItem).2 = (block.contents refs inItem).flatMap tagsCollected := by
  cases block with
  | heading level cs =>
    rw [Block.node, Block.contents, List.flatMap_singleton, content_snd]
  | paragraph cs =>
    rw [Block.node, Block.contents, List.flatMap_singleton]
    cases inItem with
    | true => exact itemContent_snd refs cs
    | false => exact content_snd refs cs
  | list bullet items =>
    rw [Block.node, Block.contents, Block.itemNodes_snd]
  | quote children =>
    rw [Block.node, Block.contents, Block.nodes_snd]
  | table header rows =>
    rw [Block.node, Block.contents, List.flatMap_append, ← row_snd, List.flatMap_assoc]
    simp only [← row_snd, List.flatMap_map]
  | code | rule | html => rw [Block.node, Block.contents, List.flatMap_nil]

theorem Block.nodes_snd (refs : References) (inItem : Bool) (blocks : List Block) :
    (Block.nodes refs inItem blocks).2 =
      (Block.contentsAll refs inItem blocks).flatMap tagsCollected := by
  cases blocks with
  | nil => rw [Block.nodes, Block.contentsAll, List.flatMap_nil]
  | cons block blocks =>
    rw [Block.nodes, Block.contentsAll, List.flatMap_append, ← Block.node_snd, ← Block.nodes_snd]

theorem Block.itemNodes_snd (refs : References) (items : List (List Block)) :
    (Block.itemNodes refs items).2 = (Block.itemContents refs items).flatMap tagsCollected := by
  cases items with
  | nil => rw [Block.itemNodes, Block.itemContents, List.flatMap_nil]
  | cons item items =>
    rw [Block.itemNodes, Block.itemContents, List.flatMap_append, ← Block.nodes_snd,
      ← Block.itemNodes_snd]

end

theorem read_tags (source : String) :
    (read source).tags = ((contents source).flatMap tagsCollected).eraseDups := by
  rw [read, contents, ← Block.nodes_snd]

end Markdown

/-! ### Notes -/

namespace Note

/-- The inline contents of the body of a note. -/
def bodyContents (source : String) : List (List Span) :=
  Markdown.contents (String.ofList (FrontMatter.splitChars source.toList).2)

theorem read_tags (source title : String) :
    (read source title).tags = (FrontMatter.tags (read source title).record ++
      (bodyContents source).flatMap tagsCollected).eraseDups := by
  have hread : (read source title).tags = (FrontMatter.tags (read source title).record ++
      ((bodyContents source).flatMap tagsCollected).eraseDups).eraseDups := by
    rw [bodyContents, ← Markdown.read_tags]
    rfl
  rw [hread, eraseDups_append_eq, unseen_eraseDups, ← eraseDups_append_eq]

/-- The tags of a note are those of its front matter and, behind them, those of its body as they are
collected, each at its first place. They are all the tags that are read in the texts of the body,
and they come in the order of these texts if and only if each text adds to what is read before it
what the spans behind it at its level have inside, as far as both go. -/
theorem tags_inOrder_iff (source title : String) :
    let tags := (read source title).tags
    let front := FrontMatter.tags (read source title).record
    let contents := bodyContents source
    tags = (front ++ contents.flatMap tagsCollected).eraseDups ∧
      tags.Nodup ∧ (∀ tag, tag ∈ tags ↔ tag ∈ front ++ contents.flatMap tagsReadAll) ∧
      (tags = (front ++ contents.flatMap tagsReadAll).eraseDups ↔
        ∀ before content after, contents = before ++ content :: after →
          ∀ seen text later, TextAt content seen text later →
            BeginAlike (front ++ before.flatMap tagsReadAll ++ seen)
              (Markdown.Tag.tagsIn text) later) := by
  intro tags front contents
  have htags : tags = (front ++ contents.flatMap tagsCollected).eraseDups := read_tags source title
  have hperm : (contents.flatMap tagsCollected).Perm (contents.flatMap tagsReadAll) :=
    List.Perm.flatMap_left contents fun content _ => Span.tagsCollected_perm content
  refine ⟨htags, ?_, ?_, ?_⟩
  · rw [htags, eraseDups_eq_unseen]
    exact nodup_unseen _ _
  · intro tag
    rw [htags, List.mem_eraseDups, List.mem_append, List.mem_append, hperm.mem_iff]
  · rw [htags, eraseDups_append_eq, eraseDups_append_eq, List.append_right_inj, eq_comm,
      Span.unseen_flatMap_tags_eq_iff]
    rfl

def linkBehindTag : String := "#a[#b](u)\n"

/-- A tag in a link comes before the tag in front of the link. -/
theorem linkBehindTag_not_inOrder :
    (read linkBehindTag "").tags = ["b", "a"] ∧
      (FrontMatter.tags (read linkBehindTag "").record ++
        (bodyContents linkBehindTag).flatMap tagsReadAll).eraseDups = ["a", "b"] := by
  have hsplit : FrontMatter.splitChars linkBehindTag.toList = (none, linkBehindTag.toList) := by
    cbv
  have hfront : FrontMatter.tags (read linkBehindTag "").record = [] := by
    have hrecord : (read linkBehindTag "").record = {} := by
      rw [read, hsplit]
      rfl
    rw [hrecord]
    cbv
  have hcontents : bodyContents linkBehindTag =
      [[.text ['#', 'a'], .link ['u'] [] [.text ['#', 'b']]]] := by
    rw [bodyContents, hsplit, String.ofList_toList]
    cbv
  have ha : Markdown.Tag.tagsIn ['#', 'a'] = ["a"] := by decide +kernel
  have hb : Markdown.Tag.tagsIn ['#', 'b'] = ["b"] := by decide +kernel
  constructor
  · rw [read_tags, hfront, hcontents]
    simp [tagsCollected, Span.tagsInsideAll, Span.tagsInside, Span.ownTags, ha, hb,
      List.eraseDups_cons]
  · rw [hfront, hcontents]
    simp [tagsReadAll, Span.tagsRead, ha, hb, List.eraseDups_cons]

end Note
end NoteBridge
