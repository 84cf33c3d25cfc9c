import NoteBridge.Markup.Tree

/-!
Cross-references inside a text. A reference is two opening brackets, an inner text on one line that
is not empty, and the next two closing brackets; an exclamation mark in front makes it an
embedding. Brackets that enclose no reference stay text.
-/

namespace NoteBridge.Markup.WikiLink

open Text

def opening : List Char := ['[', '[']

def closing : List Char := [']', ']']

def textNode (cs : List Char) : List Inline :=
  if cs.isEmpty then [] else [.text (String.ofList cs)]

theorem length_cut? {needle cs before after : List Char} (hn : needle ≠ [])
    (h : cut? needle cs = some (before, after)) :
    before.length + needle.length + after.length = cs.length := by
  induction cs generalizing before with
  | nil =>
    unfold cut? at h
    simp [hn] at h
  | cons c cs ih =>
    unfold cut? at h
    split at h
    · next hp =>
      cases h
      have := (List.isPrefixOf_iff_prefix.1 hp).length_le
      simp only [List.length_nil, List.length_drop]
      omega
    · obtain ⟨⟨b, a⟩, hb, heq⟩ := Option.map_eq_some_iff.1 h
      cases heq
      have := ih hb
      simp only [List.length_cons]
      omega

/-- Splits a text whose part `pending` is already known to be no reference. -/
def splitFrom (pending cs : List Char) : List Inline :=
  match ho : cut? opening cs with
  | none => textNode (pending ++ cs)
  | some (before, rest) =>
    match hc : cut? closing rest with
    | none => textNode (pending ++ cs)
    | some (inner, after) =>
      have hopen := length_cut? (by decide) ho
      have hclose := length_cut? (by decide) hc
      if inner.isEmpty || inner.contains '\n' then
        splitFrom (pending ++ before ++ opening) rest
      else
        let embed := endsWith ['!'] before
        let lead := if embed then before.dropLast else before
        textNode (pending ++ lead) ++
          .crossRef (CrossRef.parseChars inner embed) :: splitFrom [] after
termination_by cs.length
decreasing_by
  all_goals
    simp only [opening, closing, List.length_cons, List.length_nil] at hopen hclose
    omega

/-- The nodes of a text, cross-references apart. -/
def split (s : String) : List Inline := splitFrom [] s.toList

end NoteBridge.Markup.WikiLink
