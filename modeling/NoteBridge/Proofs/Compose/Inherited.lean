import Mathlib.Data.List.Forall2
import NoteBridge.Proofs.Compose.Stream

/-!
Inherited style. Content that is composed inside of a style shows what it shows without it, item by
item: each item has the flags of both, and the color that the content gives it or else the inherited
one. How the runs are merged and cut differs, since styles that were apart may become equal, but the
stream does not show it.
-/

namespace NoteBridge.Compose

open Markup (CrossRef Inline inlines_induct)
open Page (Item Run Style charItems stream)

variable {context : Context} {inherited plain styled : Style}

/-- Whether `styled` is a style with what it inherits, `plain` being the style without that. Content
that has a color of its own is highlighted, or a reference that leads nowhere. -/
structure Inherits (context : Context) (inherited plain styled : Style) : Prop where
  bold : styled.bold = (inherited.bold || plain.bold)
  italic : styled.italic = (inherited.italic || plain.italic)
  strikethrough : styled.strikethrough = (inherited.strikethrough || plain.strikethrough)
  underline : styled.underline = (inherited.underline || plain.underline)
  code : styled.code = (inherited.code || plain.code)
  color : styled.color = inherited.color ∧ plain.color = .default ∨
    styled.color = plain.color ∧
      (styled.color = context.options.highlight ∨ styled.color = .letters .red)

/-- Whether two items are the same apart from what the style of the second inherits. -/
inductive ItemInherits (context : Context) (inherited : Style) : Item → Item → Prop
  | char (c : Char) (link : Option String) {plain styled : Style} :
    Inherits context inherited plain styled →
      ItemInherits context inherited (.char c plain link) (.char c styled link)
  | mention (shown page : String) {plain styled : Style} :
    Inherits context inherited plain styled →
      ItemInherits context inherited (.mention shown page plain) (.mention shown page styled)
  | equation (expression : String) {plain styled : Style} :
    Inherits context inherited plain styled →
      ItemInherits context inherited (.equation expression plain) (.equation expression styled)

/-- Whether two streams are the same, item by item, apart from the inherited style. -/
def StreamInherits (context : Context) (inherited : Style) : List Item → List Item → Prop :=
  List.Forall₂ (ItemInherits context inherited)

/-! ### Styles -/

theorem inherits_default (context : Context) (inherited : Style) :
    Inherits context inherited {} inherited where
  bold := (Bool.or_false _).symm
  italic := (Bool.or_false _).symm
  strikethrough := (Bool.or_false _).symm
  underline := (Bool.or_false _).symm
  code := (Bool.or_false _).symm
  color := .inl ⟨rfl, rfl⟩

namespace Inherits

theorem withBold (h : Inherits context inherited plain styled) :
    Inherits context inherited { plain with bold := true } { styled with bold := true } :=
  { h with bold := (Bool.or_true _).symm }

theorem withItalic (h : Inherits context inherited plain styled) :
    Inherits context inherited { plain with italic := true } { styled with italic := true } :=
  { h with italic := (Bool.or_true _).symm }

theorem withStrikethrough (h : Inherits context inherited plain styled) :
    Inherits context inherited { plain with strikethrough := true }
      { styled with strikethrough := true } :=
  { h with strikethrough := (Bool.or_true _).symm }

theorem withCode (h : Inherits context inherited plain styled) :
    Inherits context inherited { plain with code := true } { styled with code := true } :=
  { h with code := (Bool.or_true _).symm }

theorem withColor (h : Inherits context inherited plain styled) {color : Page.Color}
    (hcolor : color = context.options.highlight ∨ color = .letters .red) :
    Inherits context inherited { plain with color } { styled with color } :=
  { h with color := .inr ⟨rfl, hcolor⟩ }

/-! ### Elements -/

theorem charItems (h : Inherits context inherited plain styled) (link : Option String)
    (cs : List Char) :
    StreamInherits context inherited (charItems plain link cs) (charItems styled link cs) := by
  induction cs with
  | nil => exact .nil
  | cons c cs ih => exact .cons (.char c link h) ih

theorem textItems (h : Inherits context inherited plain styled) (link : Option String)
    (cs : List Char) :
    StreamInherits context inherited (textItems context plain link cs)
      (textItems context styled link cs) := by
  rw [StreamInherits, Compose.textItems, Compose.textItems, List.forall₂_map_left_iff,
    List.forall₂_map_right_iff, List.forall₂_same]
  rintro ⟨c, highlighted⟩ -
  cases highlighted with
  | true => exact .char c link (h.withColor (.inl rfl))
  | false => exact .char c link h

theorem crossRefItems (h : Inherits context inherited plain styled) (link : Option String)
    (ref : CrossRef) :
    StreamInherits context inherited (crossRefItems context plain link ref)
      (crossRefItems context styled link ref) := by
  rw [Compose.crossRefItems, Compose.crossRefItems]
  split
  · exact h.charItems link _
  · cases context.resolver.page? ref.target with
    | some page => exact .cons (.mention ref.shown page h) .nil
    | none =>
      cases context.options.unresolved with
      | placeholder => exact (h.withColor (.inr rfl)).charItems link _
      | text => exact h.charItems link _
      | skip => exact .nil

theorem leaf {inline : Inline} (h : Inherits context inherited plain styled)
    (hleaf : inline.isLeaf = true) (link : Option String) :
    StreamInherits context inherited (denote context plain link inline)
      (denote context styled link inline) := by
  cases inline with
  | emphasis | strikethrough | link => cases hleaf
  | text content =>
    rw [denote, denote]
    exact h.textItems link _
  | crossRef ref =>
    rw [denote, denote]
    exact h.crossRefItems link ref
  | code content =>
    rw [denote, denote]
    exact h.withCode.charItems link _
  | autolink | image | raw =>
    rw [denote, denote]
    exact h.charItems _ _
  | math display literal =>
    rw [denote, denote]
    exact .cons (.equation _ h) .nil
  | checkbox => exact .nil
  | softBreak | lineBreak =>
    rw [denote, denote]
    exact .cons (.char '\n' link h) .nil

theorem denoteAll (h : Inherits context inherited plain styled) (link : Option String)
    (inlines : List Inline) :
    StreamInherits context inherited (denoteAll context plain link inlines)
      (denoteAll context styled link inlines) := by
  -- Both styles change on the way down, while what they inherit stays.
  induction inlines using inlines_induct generalizing plain styled link with
  | nil => exact .nil
  | leaf inline rest hleaf ih =>
    rw [Compose.denoteAll, Compose.denoteAll]
    exact List.rel_append (h.leaf hleaf link) (ih h link)
  | emphasis strong children rest ihc ihr =>
    rw [Compose.denoteAll, Compose.denoteAll]
    refine List.rel_append ?_ (ihr h link)
    cases strong with
    | true =>
      rw [denote, denote]
      exact ihc h.withBold link
    | false =>
      rw [denote, denote]
      exact ihc h.withItalic link
  | strikethrough children rest ihc ihr =>
    rw [Compose.denoteAll, Compose.denoteAll, denote, denote]
    exact List.rel_append (ihc h.withStrikethrough link) (ihr h link)
  | link url title children rest ihc ihr =>
    rw [Compose.denoteAll, Compose.denoteAll, denote, denote]
    refine List.rel_append ?_ (ihr h link)
    split
    · exact h.charItems _ _
    · exact ihc h _

end Inherits

/-! ### The limit -/

theorem ItemInherits.bounded {item other : Item} (h : ItemInherits context inherited item other) :
    StreamInherits context inherited item.bounded other.bounded := by
  cases h with
  | char c link hstyle => exact .cons (.char c link hstyle) .nil
  | mention shown page hstyle => exact .cons (.mention _ page hstyle) .nil
  | equation expression hstyle =>
    rw [Item.bounded, Item.bounded]
    split
    · exact .cons (.equation expression hstyle) .nil
    · exact hstyle.withCode.charItems none _

/-- Content that is composed inside of a style shows what it shows without it, item by item, with
the flags of both. Its colors are the inherited one, that of highlights and that of references which
lead nowhere. -/
theorem stream_compose_inherits (context : Context) (inlines : List Inline) (inherited : Style) :
    StreamInherits context inherited (stream (compose context inlines))
      (stream (compose context inlines inherited)) := by
  have hall := (inherits_default context inherited).denoteAll none inlines
  rw [stream_compose, stream_compose, ← denoteAll_eq_flatMap, ← denoteAll_eq_flatMap]
  exact List.rel_flatMap hall fun _ _ h => h.bounded

end NoteBridge.Compose
