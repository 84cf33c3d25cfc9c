import Mathlib.Data.List.Chain
import NoteBridge.Proofs.Markup.CrossRef

/-!
The parts that a text is split into: plain texts and references with their brackets. Joined they are
the text, no two plain texts stand side by side, and no plain text has brackets that open a
reference. Since each reference is the first one that opens behind the plain text before it, there
is one such way to part a text.
-/

namespace NoteBridge.Markup.WikiLink

open Text (cut? eq_append_of_cut? length_le_of_cut? cut?_append cut?_append_right cut?_eq_some_iff)

variable {cs rest pending before inner after place lead : List Char} {embed : Bool}

/-! ### Places where a reference opens -/

theorem OpensAt.append_right (h : OpensAt place cs) (more : List Char) :
    OpensAt place (cs ++ more) := by
  obtain ⟨rest, inner, after, rfl, hclose, hinner⟩ := h
  exact ⟨rest ++ more, inner, after ++ more, List.append_assoc ..,
    cut?_append_right (by decide) hclose more, hinner⟩

/-- A reference that opens before closing brackets closes with them or before. -/
theorem OpensAt.of_append (h : OpensAt place (cs ++ closing ++ after))
    (hplace : place ++ opening <+: cs) : OpensAt place (cs ++ closing) := by
  obtain ⟨rest, inner, after', hcs, hclose, hinner⟩ := h
  obtain ⟨middle, rfl⟩ := hplace
  have hrest : rest = middle ++ closing ++ after := by
    simp only [List.append_assoc] at hcs
    have hbehind := List.append_cancel_left (List.append_cancel_left hcs)
    rw [← hbehind, List.append_assoc]
  obtain ⟨hinner', hearlier⟩ := (cut?_eq_some_iff (by decide)).1 hclose
  have hle : inner.length ≤ middle.length := length_le_of_cut? hclose hrest
  obtain ⟨left, hleft⟩ : inner ++ closing <+: middle ++ closing := by
    apply List.prefix_of_prefix_length_le _ ⟨after, hrest.symm⟩
    · simpa using hle
    · exact ⟨after', hinner'.symm⟩
  refine ⟨middle ++ closing, inner, left, List.append_assoc .., ?_, hinner⟩
  exact (cut?_eq_some_iff (by decide)).2 ⟨hleft.symm, hearlier⟩

theorem not_closing_infix_of_cut? (h : cut? closing rest = some (inner, after)) :
    ¬closing <:+: inner ∧ inner.getLast? ≠ some ']' :=
  (Text.cut?_pair_eq_some_iff.1 h).2

/-! ### Parts -/

inductive Part
  | text (cs : List Char)
  | reference (embed : Bool) (inner : List Char)

/-- What makes a reference an embedding. -/
def embedMark (embed : Bool) : List Char := if embed then ['!'] else []

namespace Part

/-- The text of a part, with all marks. -/
def source : Part → List Char
  | text cs => cs
  | reference embed inner => embedMark embed ++ enclosed inner

def node : Part → Inline
  | text cs => .text (String.ofList cs)
  | reference embed inner => .crossRef (CrossRef.parseChars inner embed)

/-- Whether a part is a text without references or one reference. -/
def IsProper : Part → Prop
  | text cs => cs ≠ [] ∧ ¬HasLink cs
  | reference _ inner =>
    inner ≠ [] ∧ '\n' ∉ inner ∧ ¬closing <:+: inner ∧ inner.getLast? ≠ some ']'

/-- Whether a part can stand before another: no text before a text, and before a reference only a
text that does not hold its mark, in front of the first brackets that open a reference. -/
def Precedes : Part → Part → Prop
  | text _, text _ => False
  | text cs, reference embed inner =>
    (embed = false → cs.getLast? ≠ some '!') ∧
      ∀ place, OpensAt place (cs ++ embedMark embed ++ enclosed inner) →
        cs ++ embedMark embed <+: place
  | reference _ _, _ => True

end Part

/-! ### Parting a text -/

theorem textNode_of_ne_nil (h : cs ≠ []) : textNode cs = [.text (String.ofList cs)] :=
  if_neg (mt List.isEmpty_iff.1 h)

/-- A text as parts: none if there is nothing in it. -/
def textParts (cs : List Char) : List Part := if cs.isEmpty then [] else [.text cs]

theorem map_node_textParts (cs : List Char) : (textParts cs).map Part.node = textNode cs := by
  unfold textParts textNode
  split <;> rfl

theorem flatMap_source_textParts (cs : List Char) : (textParts cs).flatMap Part.source = cs := by
  unfold textParts
  split
  · next hempty => exact (List.isEmpty_iff.1 hempty).symm
  · exact List.append_nil cs

theorem isProper_of_mem_textParts {part : Part} (hcs : ¬HasLink cs) (h : part ∈ textParts cs) :
    part.IsProper := by
  unfold textParts at h
  split at h
  · cases h
  · next hne =>
    rw [List.mem_singleton.1 h]
    exact ⟨mt List.isEmpty_iff.2 hne, hcs⟩

theorem endsWith_single_iff {c : Char} : Text.endsWith [c] cs = true ↔ cs.getLast? = some c := by
  rw [Text.endsWith, List.isPrefixOf_iff_prefix, List.reverse_prefix, List.getLast?_eq_some_iff]
  exact exists_congr fun before => eq_comm

/-- The mark of an embedding is what the text before the brackets loses. -/
theorem lead_append_embedMark (before : List Char) :
    (if Text.endsWith ['!'] before then before.dropLast else before) ++
      embedMark (Text.endsWith ['!'] before) = before := by
  split
  · next hmark =>
    obtain ⟨lead, rfl⟩ := List.getLast?_eq_some_iff.1 (endsWith_single_iff.1 hmark)
    rw [hmark, List.dropLast_concat]
    rfl
  · next hmark =>
    rw [Bool.eq_false_iff.2 hmark]
    exact List.append_nil before

/-- A text that has all its references behind a part of it, and none there, has none. -/
theorem not_hasLink_append (hpending : ∀ place, OpensAt place (pending ++ cs) → pending <+: place)
    (h : ¬HasLink cs) : ¬HasLink (pending ++ cs) := by
  rintro ⟨place, hplace⟩
  obtain ⟨later, rfl⟩ := hpending place hplace
  exact h ⟨later, (opensAt_append_left pending later cs).1 hplace⟩

theorem OpensAt.length_lt (h : OpensAt place cs) : place.length < cs.length := by
  obtain ⟨rest, inner, after, rfl, -⟩ := h
  simp only [opening, List.length_append, List.length_cons, List.length_nil]
  omega

/-- A text has no reference of its own if all that open in it and behind it open behind it. -/
theorem not_hasLink_of_prefix (more : List Char)
    (h : ∀ place, OpensAt place (cs ++ more) → cs <+: place) : ¬HasLink cs := by
  rintro ⟨place, hplace⟩
  have hlt := OpensAt.length_lt hplace
  have hle := (h place (OpensAt.append_right hplace more)).length_le
  omega

/-- The first brackets stand before all references, also behind a part without references. -/
theorem prefix_of_cut?_append
    (hpending : ∀ place, OpensAt place (pending ++ cs) → pending <+: place)
    (hopen : cut? opening cs = some (before, rest)) (h : OpensAt place (pending ++ cs)) :
    pending ++ before <+: place := by
  obtain ⟨later, rfl⟩ := hpending place h
  rw [List.prefix_append_right_inj]
  exact ((opensAt_append_left pending later cs).1 h).prefix_of_cut? hopen

theorem isChain_reference_cons {parts : List Part} (h : parts.IsChain Part.Precedes) (embed : Bool)
    (inner : List Char) : (.reference embed inner :: parts).IsChain Part.Precedes := by
  cases parts with
  | nil => exact .singleton _
  | cons next parts => exact .cons_cons trivial h

theorem isChain_textParts (cs : List Char) : (textParts cs).IsChain Part.Precedes := by
  unfold textParts
  split
  · exact .nil
  · exact .singleton _

theorem isChain_textParts_append {parts : List Part}
    (h : (.reference embed inner :: parts).IsChain Part.Precedes)
    (hcs : (Part.text cs).Precedes (.reference embed inner)) :
    (textParts cs ++ .reference embed inner :: parts).IsChain Part.Precedes := by
  unfold textParts
  split
  · exact h
  · exact .cons_cons hcs h

/-- A text without references has itself as its only part. -/
theorem exists_parts_of_not_hasLink (h : ¬HasLink cs) : ∃ parts : List Part,
    parts.flatMap Part.source = cs ∧ parts.map Part.node = textNode cs ∧
      (∀ part ∈ parts, part.IsProper) ∧ parts.IsChain Part.Precedes :=
  ⟨textParts cs, flatMap_source_textParts cs, map_node_textParts cs,
    fun _ => isProper_of_mem_textParts h, isChain_textParts cs⟩

/-- The parts of a text, of which a part without places and marks for references is known. -/
theorem exists_parts (hpending : ∀ place, OpensAt place (pending ++ cs) → pending <+: place)
    (hmark : pending.getLast? ≠ some '!') : ∃ parts : List Part,
    parts.flatMap Part.source = pending ++ cs ∧ parts.map Part.node = splitFrom pending cs ∧
      (∀ part ∈ parts, part.IsProper) ∧ parts.IsChain Part.Precedes := by
  fun_induction splitFrom pending cs with
  | case1 pending cs hopen =>
    apply exists_parts_of_not_hasLink
    exact not_hasLink_append hpending (not_hasLink_of_cut?_opening hopen)
  | case2 pending cs before rest hopen hclose =>
    apply exists_parts_of_not_hasLink
    apply not_hasLink_append hpending
    rw [hasLink_iff_of_cut? hopen fun _ _ hsome => by cases hclose.symm.trans hsome]
    exact not_hasLink_of_cut?_closing hclose
  | case3 pending cs before rest hopen inner after hclose hlength hlength' hskip ih =>
    have hcs : pending ++ before ++ opening ++ rest = pending ++ cs := by
      rw [eq_append_of_cut? hopen]
      simp only [List.append_assoc]
    rw [hcs] at ih
    apply ih
    · intro place hplace
      obtain ⟨later, rfl⟩ := hpending place hplace
      have hlater := (opensAt_append_left pending later cs).1 hplace
      obtain ⟨later', rfl, -⟩ := hlater.exists_append hopen fun inner' after' hclose' => by
        cases hclose.symm.trans hclose'
        simpa using hskip
      exact ⟨later', by simp only [List.append_assoc]⟩
    · simp [opening]
  | case4 pending cs before rest hopen inner after hclose hlength hlength' hlink embed lead ih =>
    have hlead : lead ++ embedMark embed = before := lead_append_embedMark before
    have hcs : pending ++ lead ++ embedMark embed ++ enclosed inner ++ after = pending ++ cs := by
      rw [eq_append_of_cut? hopen, eq_append_of_cut? hclose, ← hlead, enclosed]
      simp only [List.append_assoc]
    have hfirst : ∀ place, OpensAt place (pending ++ cs) →
        pending ++ lead ++ embedMark embed <+: place := by
      intro place hplace
      rw [List.append_assoc, hlead]
      exact prefix_of_cut?_append hpending hopen hplace
    obtain ⟨parts, hsource, hnode, hproper, hchain⟩ :=
      ih (fun _ _ => List.nil_prefix) (by simp)
    refine ⟨textParts (pending ++ lead) ++ .reference embed inner :: parts, ?_, ?_, ?_, ?_⟩
    · rw [List.flatMap_append, List.flatMap_cons, hsource, flatMap_source_textParts, ← hcs,
        Part.source]
      simp only [List.append_assoc, List.nil_append]
    · rw [List.map_append, List.map_cons, hnode, map_node_textParts]
      rfl
    · rw [List.forall_mem_append, List.forall_mem_cons]
      refine ⟨fun part => isProper_of_mem_textParts ?_, ?_, hproper⟩
      · apply not_hasLink_of_prefix (embedMark embed ++ enclosed inner ++ after)
        intro place hplace
        rw [← List.append_assoc, ← List.append_assoc, hcs] at hplace
        exact (List.prefix_append _ _).trans (hfirst place hplace)
      · have hinner : inner ≠ [] ∧ '\n' ∉ inner := by simpa using hlink
        exact ⟨hinner.1, hinner.2, not_closing_infix_of_cut? hclose⟩
    · apply isChain_textParts_append (isChain_reference_cons hchain embed inner)
      refine ⟨fun hembed => ?_, fun place hplace => hfirst place (hcs ▸ hplace.append_right after)⟩
      have hbefore : before.getLast? ≠ some '!' :=
        mt endsWith_single_iff.2 (Bool.eq_false_iff.1 hembed)
      rw [← hlead, hembed, embedMark, if_neg (by decide), List.append_nil] at hbefore
      rw [List.getLast?_append]
      cases hlast : lead.getLast? with
      | none => simpa using hmark
      | some c => rwa [hlast] at hbefore

theorem endsWith_append_embedMark (h : embed = false → lead.getLast? ≠ some '!') :
    Text.endsWith ['!'] (lead ++ embedMark embed) = embed := by
  cases embed with
  | false => exact Bool.eq_false_iff.2 (mt endsWith_single_iff.1 (by simpa [embedMark] using h))
  | true => exact endsWith_single_iff.2 List.getLast?_concat

/-- A mark does not begin before the brackets behind which it ends. -/
theorem exists_lead_of_append {later : List Char}
    (h : lead ++ embedMark embed = before ++ opening ++ later) :
    ∃ lead', lead = before ++ opening ++ lead' ∧ later = lead' ++ embedMark embed := by
  cases embed with
  | false => exact ⟨later, by simpa [embedMark] using h, by simp [embedMark]⟩
  | true =>
    rcases List.eq_nil_or_concat later with rfl | ⟨lead', c, rfl⟩
    · have hlast := congrArg List.getLast? h
      simp [embedMark, opening] at hlast
    · rw [List.concat_eq_append, ← List.append_assoc] at h
      obtain ⟨hlead, hc⟩ := List.append_inj' h rfl
      refine ⟨lead', hlead, ?_⟩
      rw [List.concat_eq_append, ← hc]

/-- Where the first reference opens, no earlier brackets open one that closes with it. -/
theorem eq_of_cut?_opening {marked : List Char}
    (hfirst : ∀ place, OpensAt place (marked ++ enclosed inner) → marked <+: place)
    (hopens : OpensAt marked (marked ++ enclosed inner ++ after))
    (hopen : cut? opening (marked ++ enclosed inner ++ after) = some (before, rest))
    (hbefore : OpensAt before (marked ++ enclosed inner ++ after)) : before = marked := by
  have hle : before <+: marked := hopens.prefix_of_cut? hopen
  have hbody : marked ++ enclosed inner ++ after =
      marked ++ opening ++ inner ++ closing ++ after := by
    rw [enclosed]
    simp only [List.append_assoc]
  have hshort : before ++ opening <+: marked ++ opening ++ inner := by
    apply List.prefix_of_prefix_length_le
    · exact ⟨rest, (eq_append_of_cut? hopen).symm⟩
    · exact ⟨closing ++ after, by rw [hbody, List.append_assoc _ closing]⟩
    · have hlength := hle.length_le
      simp only [List.length_append] at hlength ⊢
      omega
  have hwithin : OpensAt before (marked ++ enclosed inner) := by
    have hclosed := OpensAt.of_append (hbody ▸ hbefore) hshort
    rw [enclosed]
    simpa only [List.append_assoc] using hclosed
  exact hle.eq_of_length_le (hfirst before hwithin).length_le

/-- The first brackets that open a reference, and its own are the next that close. -/
theorem splitFrom_reference
    (hfirst : ∀ place, OpensAt place (lead ++ embedMark embed ++ enclosed inner) →
      lead ++ embedMark embed <+: place)
    (hmark : embed = false → lead.getLast? ≠ some '!') (hinner : inner ≠ [] ∧ '\n' ∉ inner)
    (hclosing : ¬closing <:+: inner ++ [']']) (pending after : List Char) :
    splitFrom pending (lead ++ embedMark embed ++ enclosed inner ++ after) =
      textNode (pending ++ lead) ++
        .crossRef (CrossRef.parseChars inner embed) :: splitFrom [] after := by
  generalize hcs : lead ++ embedMark embed ++ enclosed inner ++ after = cs
  have hclose : cut? closing (inner ++ closing ++ after) = some (inner, after) :=
    cut?_append (by decide) hclosing after
  have hopens : OpensAt (lead ++ embedMark embed) cs := by
    refine ⟨inner ++ closing ++ after, inner, after, ?_, hclose, hinner⟩
    rw [← hcs, enclosed]
    simp only [List.append_assoc]
  fun_induction splitFrom pending cs generalizing lead with
  | case1 pending cs hopen => exact absurd ⟨_, hopens⟩ (not_hasLink_of_cut?_opening hopen)
  | case2 pending cs before rest hopen hclose' =>
    have hrest := hopens.exists_append hopen fun _ _ hsome => by cases hclose'.symm.trans hsome
    obtain ⟨later, -, hlater⟩ := hrest
    exact absurd ⟨later, hlater⟩ (not_hasLink_of_cut?_closing hclose')
  | case3 pending cs before rest hopen inner' after' hclose' hlength hlength' hskip ih =>
    obtain ⟨later, hlater, hopens'⟩ := hopens.exists_append hopen fun inner₂ after₂ hclose₂ => by
      cases hclose'.symm.trans hclose₂
      simpa using hskip
    obtain ⟨lead₂, rfl, rfl⟩ := exists_lead_of_append hlater
    have htext : textNode (pending ++ before ++ opening ++ lead₂) =
        textNode (pending ++ (before ++ opening ++ lead₂)) := by
      simp only [List.append_assoc]
    rw [← htext]
    apply ih _ _ _ hopens'
    · intro place hplace
      have hbehind := (opensAt_append_left (before ++ opening) place _).2 hplace
      simp only [← List.append_assoc] at hbehind
      have hprefix := hfirst _ hbehind
      rwa [List.append_assoc (before ++ opening), List.prefix_append_right_inj] at hprefix
    · intro hembed hlast
      refine hmark hembed ?_
      rw [List.getLast?_append, hlast]
      rfl
    · rw [eq_append_of_cut? hopen] at hcs
      simp only [List.append_assoc] at hcs ⊢
      exact List.append_cancel_left (List.append_cancel_left hcs)
  | case4 pending cs before rest hopen inner' after' hclose' hlength hlength' hlink embed' lead' =>
    have hhere : OpensAt before cs :=
      ⟨rest, inner', after', eq_append_of_cut? hopen, hclose', by simpa using hlink⟩
    have hbefore : before = lead ++ embedMark embed := by
      subst hcs
      exact eq_of_cut?_opening hfirst hopens hopen hhere
    have hrest : rest = inner ++ closing ++ after := by
      have hwhole := eq_append_of_cut? hopen
      rw [← hcs, ← hbefore, enclosed] at hwhole
      simp only [List.append_assoc] at hwhole ⊢
      exact (List.append_cancel_left (List.append_cancel_left hwhole)).symm
    rw [hrest] at hclose'
    cases hclose.symm.trans hclose'
    have hembed : embed' = embed := by rw [← endsWith_append_embedMark hmark, ← hbefore]
    have hlead' : lead' = lead := by
      have hmarked : lead' ++ embedMark embed' = before := lead_append_embedMark before
      rw [hembed, hbefore] at hmarked
      exact List.append_cancel_right hmarked
    rw [hembed, hlead']

/-- No reference opens before its mark. -/
theorem embedMark_prefix (h : OpensAt place (embedMark embed ++ enclosed inner)) :
    embedMark embed <+: place := by
  obtain ⟨rest, inner', after, heq, -⟩ := h
  cases embed with
  | false => exact List.nil_prefix
  | true =>
    cases place with
    | nil => cases heq
    | cons c place => exact ⟨place, congrArg (· :: place) (List.cons.inj heq).1⟩

/-- Parts that fit together are found again in the text that they make up. -/
theorem splitFrom_flatMap_source : ∀ {parts : List Part}, (∀ part ∈ parts, part.IsProper) →
    parts.IsChain Part.Precedes → splitFrom [] (parts.flatMap Part.source) = parts.map Part.node
  | [], _, _ => splitFrom_of_not_hasLink (not_hasLink_of_cut?_opening rfl) []
  | [.text cs], hproper, _ => by
    obtain ⟨hne, hlink⟩ := hproper _ (List.mem_singleton_self _)
    rw [List.flatMap_singleton, Part.source, splitFrom_of_not_hasLink hlink, List.nil_append,
      textNode_of_ne_nil hne]
    rfl
  | .text _ :: .text _ :: _, _, hchain => absurd (List.isChain_cons_cons.1 hchain).1 id
  | .text cs :: .reference embed inner :: parts, hproper, hchain => by
    obtain ⟨⟨hne, -⟩, hrest⟩ := List.forall_mem_cons.1 hproper
    obtain ⟨⟨hinner, hline, hclosing, hlast⟩, hparts⟩ := List.forall_mem_cons.1 hrest
    obtain ⟨⟨hmark, hfirst⟩, htail⟩ := List.isChain_cons_cons.1 hchain
    have hclose := not_closing_infix_concat hclosing hlast
    have hsplit := splitFrom_reference hfirst hmark ⟨hinner, hline⟩ hclose []
      (parts.flatMap Part.source)
    rw [splitFrom_flatMap_source hparts htail.tail, List.nil_append, textNode_of_ne_nil hne]
      at hsplit
    rw [List.flatMap_cons, List.flatMap_cons, Part.source, Part.source, ← List.append_assoc,
      ← List.append_assoc, hsplit]
    rfl
  | .reference embed inner :: parts, hproper, hchain => by
    obtain ⟨⟨hinner, hline, hclosing, hlast⟩, hparts⟩ := List.forall_mem_cons.1 hproper
    have hclose := not_closing_infix_concat hclosing hlast
    have hfirst : ∀ place, OpensAt place ([] ++ embedMark embed ++ enclosed inner) →
        [] ++ embedMark embed <+: place := fun _ => embedMark_prefix
    have hsplit := splitFrom_reference hfirst (fun _ => nofun) ⟨hinner, hline⟩ hclose []
      (parts.flatMap Part.source)
    rw [splitFrom_flatMap_source hparts hchain.tail] at hsplit
    exact hsplit

/-- The nodes of a text are those of its parts. The parts are the text, a text part is not empty and
has no reference, the inner text of a reference stands on one line and ends at the next closing
brackets, and no two text parts are side by side; since the mark and the first brackets that open a
reference belong to it, no other parts are like this. -/
theorem split_eq_iff {s : String} {nodes : List Inline} :
    split s = nodes ↔ ∃ parts : List Part, s.toList = parts.flatMap Part.source ∧
      nodes = parts.map Part.node ∧ (∀ part ∈ parts, part.IsProper) ∧
      parts.IsChain Part.Precedes := by
  constructor
  · rintro rfl
    have hpending : ∀ place, OpensAt place ([] ++ s.toList) → [] <+: place :=
      fun _ _ => List.nil_prefix
    obtain ⟨parts, hsource, hnode, hproper, hchain⟩ := exists_parts hpending nofun
    exact ⟨parts, hsource.symm, hnode.symm, hproper, hchain⟩
  · rintro ⟨parts, hsource, rfl, hproper, hchain⟩
    rw [split, hsource, splitFrom_flatMap_source hproper hchain]

end NoteBridge.Markup.WikiLink
