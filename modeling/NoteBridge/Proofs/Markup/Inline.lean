import NoteBridge.Markup.Tree

/-!
Induction over inline content: into the content of what styles or links it, and on to what stands
behind it.
-/

namespace NoteBridge.Markup

/-- Whether inline content holds no other inline content. -/
def Inline.isLeaf : Inline → Bool
  | .emphasis .. | .strikethrough _ | .link .. => false
  | .text _ | .code _ | .autolink _ | .image .. | .raw _ | .crossRef _ | .math .. | .checkbox _
  | .softBreak | .lineBreak => true

@[elab_as_elim]
theorem inlines_induct {P : List Inline → Prop} (nil : P [])
    (leaf : ∀ inline rest, inline.isLeaf = true → P rest → P (inline :: rest))
    (emphasis : ∀ strong children rest, P children → P rest →
      P (.emphasis strong children :: rest))
    (strikethrough : ∀ children rest, P children → P rest → P (.strikethrough children :: rest))
    (link : ∀ url title children rest, P children → P rest →
      P (.link url title children :: rest)) (inlines : List Inline) : P inlines := by
  have smaller : ∀ others : List Inline, sizeOf others < sizeOf inlines → P others :=
    fun others _ => inlines_induct nil leaf emphasis strikethrough link others
  cases inlines with
  | nil => exact nil
  | cons inline rest =>
    have hrest : P rest := smaller rest (by simp only [List.cons.sizeOf_spec]; omega)
    cases inline with
    | emphasis strong children =>
      exact emphasis strong children rest (smaller children (by simp; omega)) hrest
    | strikethrough children =>
      exact strikethrough children rest (smaller children (by simp; omega)) hrest
    | link url title children =>
      exact link url title children rest (smaller children (by simp; omega)) hrest
    | _ => exact leaf _ rest rfl hrest
termination_by sizeOf inlines

end NoteBridge.Markup
