import NoteBridge.Markdown.Span

/-!
Induction over spans, into what a span has inside and on to what stands behind it; and how their
texts are joined.
-/

namespace NoteBridge.Markdown.Span

/-! ### Inside and behind -/

/-- Whether a span is a text. -/
def isText : Span → Bool
  | text _ => true
  | _ => false

/-- The spans inside a span whose texts count as texts of the document. -/
def inner : Span → List Span
  | emphasis _ children | strikethrough children | link _ _ children => children
  | _ => []

/-- Induction over spans: into what a span has inside, and on to what stands behind it. -/
@[elab_as_elim]
theorem spans_induct {P : List Span → Prop} (nil : P [])
    (text : ∀ cs spans, P spans → P (.text cs :: spans))
    (other : ∀ span spans, span.isText = false → P span.inner → P spans → P (span :: spans))
    (spans : List Span) : P spans := by
  have smaller : ∀ others : List Span, sizeOf others < sizeOf spans → P others :=
    fun others _ => spans_induct nil text other others
  cases spans with
  | nil => exact nil
  | cons span spans =>
    have hspans : P spans := smaller spans (by simp only [List.cons.sizeOf_spec]; omega)
    have hinner : P span.inner := by
      refine smaller span.inner ?_
      cases span <;> simp [inner] <;> omega
    cases span with
    | text cs => exact text cs spans hspans
    | _ => exact other _ spans rfl hinner hspans
termination_by sizeOf spans

/-! ### Joining texts -/

theorem consJoining_of_not_text {span : Span} (h : span.isText = false) (spans : List Span) :
    consJoining span spans = span :: spans := by
  cases span with
  | text => cases h
  | _ => rfl

theorem consJoining_text_text (cs ds : List Char) (spans : List Span) :
    consJoining (text cs) (consJoining (text ds) spans) = consJoining (text (cs ++ ds)) spans := by
  rcases spans with _ | ⟨span, spans⟩
  · rfl
  · cases span with
    | text => simp only [consJoining, List.append_assoc]
    | _ => rfl

@[simp] theorem isText_joined (span : Span) : span.joined.isText = span.isText := by
  cases span <;> rfl

@[simp] theorem inner_joined (span : Span) : span.joined.inner = joinTexts span.inner := by
  cases span <;> rfl

theorem joinTexts_of_not_text {span : Span} (h : span.isText = false) (spans : List Span) :
    joinTexts (span :: spans) = span.joined :: joinTexts spans := by
  rw [joinTexts, consJoining_of_not_text ((isText_joined span).trans h)]

theorem joinTexts_text (cs : List Char) (spans : List Span) :
    joinTexts (text cs :: spans) = consJoining (text cs) (joinTexts spans) := by
  simp only [joinTexts, joined]

end NoteBridge.Markdown.Span
