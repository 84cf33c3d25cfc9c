import NoteBridge.Compose.Callout
import NoteBridge.Proofs.Text.Blank

/-!
The first line of a callout. A name stands in brackets behind an exclamation mark, and a sign for
folding, blanks and a title may follow. A line is taken apart into these parts exactly where it is
put together from them.
-/

namespace NoteBridge.Compose

open Markup (Inline)
open Text

variable {line name title shown : List Char} {fold : Option Char} {lead : List Inline}
  {marker : CalloutMarker}

/-! ### Names -/

def isNameChar (c : Char) : Bool := isWord c || c == '-'

/-- Whether a text names a callout: it begins with a word character and goes on with word characters
and hyphens. -/
def IsCalloutName (name : List Char) : Prop :=
  name.head?.any isWord = true ∧ ∀ c ∈ name, isNameChar c = true

instance : DecidablePred IsCalloutName := fun name =>
  decidable_of_iff (name.head?.any isWord = true ∧ name.all isNameChar = true) <| by
    rw [IsCalloutName, List.all_eq_true]

/-- The letters that have another case in ASCII are word characters in both. -/
theorem toLower_eq_or_isWord (c : Char) :
    c.toLower = c ∨ isWord c.toLower = true ∧ isWord c = true := by
  by_cases hupper : c.val ≥ 'A'.val ∧ c.val ≤ 'Z'.val
  · have hascii : ∀ n < 128, (Char.ofNat n).toLower = Char.ofNat n ∨
        isWord (Char.ofNat n).toLower = true ∧ isWord (Char.ofNat n) = true := by decide +kernel
    have hlt : c.toNat < 128 := Nat.lt_of_le_of_lt (UInt32.le_iff_toNat_le.1 hupper.2) (by decide)
    simpa using hascii c.toNat hlt
  · exact .inl (dif_neg hupper)

/-- What names a callout does so in any ASCII case. -/
theorem isCalloutName_toAsciiLower :
    IsCalloutName (toAsciiLower name) ↔ IsCalloutName name := by
  have hword : ∀ c : Char, isWord c.toLower = isWord c := by
    intro c
    rcases toLower_eq_or_isWord c with h | ⟨h, h'⟩
    · rw [h]
    · rw [h, h']
  have hname : ∀ c : Char, isNameChar c.toLower = isNameChar c := by
    intro c
    rcases toLower_eq_or_isWord c with h | ⟨h, h'⟩
    · rw [h]
    · simp [isNameChar, h, h']
  rw [IsCalloutName, IsCalloutName, toAsciiLower, List.head?_map, Option.any_map,
    List.forall_mem_map]
  simp only [hword, hname]

theorem lineFeed_not_mem_of_isCalloutName (h : IsCalloutName name) : '\n' ∉ name := fun hmem =>
  absurd (h.2 _ hmem) (by decide)

/-! ### Marker lines -/

def isFoldSign (c : Char) : Bool := c == '+' || c == '-'

/-- Whether a line consists of these parts: the name in brackets, the sign for folding, and the
title behind all blanks. There is no sign only where none stands. -/
structure IsMarkerLine (line name : List Char) (fold : Option Char) (title : List Char) : Prop where
  isName : IsCalloutName name
  isSign : ∀ sign ∈ fold, isFoldSign sign = true
  parts : ∃ blanks, line = '[' :: '!' :: (name ++ ']' :: (fold.toList ++ (blanks ++ title))) ∧
    (∀ c ∈ blanks, isBlank c = true) ∧
    (fold = none → ∀ c ∈ (blanks ++ title).head?, isFoldSign c = false)
  starts : ∀ c ∈ title.head?, isBlank c = false
  oneLine : '\n' ∉ title

theorem dropWhile_isNameChar (h : ∀ c ∈ name, isNameChar c = true) (rest : List Char) :
    (name ++ ']' :: rest).dropWhile isNameChar = ']' :: rest := by
  rw [List.dropWhile_append_of_pos h]
  exact List.dropWhile_cons_of_neg (by decide)

theorem takeWhile_isNameChar (h : ∀ c ∈ name, isNameChar c = true) (rest : List Char) :
    (name ++ ']' :: rest).takeWhile isNameChar = name := by
  rw [List.takeWhile_append_of_pos h, List.takeWhile_cons_of_neg (by decide), List.append_nil]

theorem trimStart_append {blanks : List Char} (hblanks : ∀ c ∈ blanks, isBlank c = true)
    (hstarts : ∀ c ∈ title.head?, isBlank c = false) : trimStart (blanks ++ title) = title := by
  rw [trimStart, List.dropWhile_append_of_pos hblanks]
  cases title with
  | nil => rfl
  | cons c title => exact List.dropWhile_cons_of_neg (by simp [hstarts c rfl])

/-- The parts that the characters of a line are taken as. -/
theorem isMarkerLine_of_dropWhile {c : Char} {cs rest : List Char} (hc : isWord c = true)
    (hbehind : cs.dropWhile isNameChar = ']' :: (fold.toList ++ rest))
    (hsign : ∀ sign ∈ fold, isFoldSign sign = true)
    (hnone : fold = none → ∀ c ∈ rest.head?, isFoldSign c = false)
    (hline : '\n' ∉ trimStart rest) :
    IsMarkerLine ('[' :: '!' :: c :: cs) (c :: cs.takeWhile isNameChar) fold (trimStart rest) where
  isName := by
    refine ⟨hc, List.forall_mem_cons.2 ⟨by simp [isNameChar, hc], fun d hd => ?_⟩⟩
    exact List.mem_takeWhile_imp hd
  isSign := hsign
  parts := by
    have hrest : rest.takeWhile isBlank ++ trimStart rest = rest :=
      List.takeWhile_append_dropWhile
    refine ⟨rest.takeWhile isBlank, ?_, fun c => List.mem_takeWhile_imp, ?_⟩
    · rw [hrest, ← hbehind, List.cons_append, List.takeWhile_append_dropWhile]
    · rwa [hrest]
  starts := fun c hc => by
    have hstop := List.head?_dropWhile_not isBlank rest
    rw [← trimStart, Option.mem_def.1 hc] at hstop
    simpa using hstop
  oneLine := hline

/-- A text that may begin with a sign for folding. -/
theorem exists_foldSign (cs : List Char) : ∃ (fold : Option Char) (rest : List Char),
    cs = fold.toList ++ rest ∧ (∀ sign ∈ fold, isFoldSign sign = true) ∧
    (fold = none → ∀ c ∈ rest.head?, isFoldSign c = false) := by
  cases cs with
  | nil => exact ⟨none, [], rfl, nofun, nofun⟩
  | cons c rest =>
    cases hsign : isFoldSign c with
    | true => exact ⟨some c, rest, rfl, by simpa using hsign, nofun⟩
    | false => exact ⟨none, c :: rest, rfl, nofun, by simpa using hsign⟩

/-- The sign for folding is passed. -/
theorem calloutLine?_cons {c : Char} {cs rest : List Char} (hc : isWord c = true)
    (hbehind : cs.dropWhile isNameChar = ']' :: (fold.toList ++ rest))
    (hsign : ∀ sign ∈ fold, isFoldSign sign = true)
    (hnone : fold = none → ∀ c ∈ rest.head?, isFoldSign c = false) :
    calloutLine? ('[' :: '!' :: c :: cs) =
      if (trimStart rest).contains '\n' then none
      else some (c :: cs.takeWhile isNameChar, trim (trimStart rest)) := by
  have hname : (fun c => isWord c || c == '-') = isNameChar := rfl
  simp only [calloutLine?, hc, if_true, hname, hbehind]
  cases fold with
  | some sign =>
    have hcases : sign = '+' ∨ sign = '-' := by simpa [isFoldSign] using hsign sign rfl
    rcases hcases with rfl | rfl <;> rfl
  | none =>
    cases rest with
    | nil => rfl
    | cons d rest =>
      have hd : d ≠ '+' ∧ d ≠ '-' := by simpa [isFoldSign] using hnone rfl d rfl
      simp [hd.1, hd.2]

/-- The reader of callouts finds the parts of every marker line, and of no other line. -/
theorem calloutLine?_eq_some_iff : calloutLine? line = some (name, shown) ↔
    ∃ fold title, IsMarkerLine line name fold title ∧ trim title = shown := by
  constructor
  · intro h
    have hread := h
    unfold calloutLine? at h
    split at h
    · next c cs =>
      split at h
      · next hc =>
        dsimp only at h
        split at h
        · next behind hbehind =>
          obtain ⟨fold, rest, rfl, hsign, hnone⟩ := exists_foldSign behind
          rw [calloutLine?_cons hc hbehind hsign hnone] at hread
          split at hread
          · cases hread
          · next hline =>
            cases hread
            exact ⟨fold, _, isMarkerLine_of_dropWhile hc hbehind hsign hnone (by simpa using hline),
              rfl⟩
        · cases h
      · cases h
    · cases h
  · rintro ⟨fold, title, hparts, rfl⟩
    obtain ⟨⟨hword, hname⟩, hsign, ⟨blanks, rfl, hblanks, hnone⟩, hstarts, hline⟩ := hparts
    cases name with
    | nil => cases hword
    | cons c name =>
      have hc : isWord c = true := by simpa using hword
      have hname' := (List.forall_mem_cons.1 hname).2
      rw [List.cons_append, calloutLine?_cons hc (dropWhile_isNameChar hname' _) hsign hnone,
        takeWhile_isNameChar hname', trimStart_append hblanks hstarts,
        if_neg (by simpa using hline)]

theorem foldSign_inj {fold' : Option Char} {rest rest' : List Char}
    (h : fold.toList ++ rest = fold'.toList ++ rest')
    (hsign : ∀ sign ∈ fold, isFoldSign sign = true)
    (hnone : fold = none → ∀ c ∈ rest.head?, isFoldSign c = false)
    (hsign' : ∀ sign ∈ fold', isFoldSign sign = true)
    (hnone' : fold' = none → ∀ c ∈ rest'.head?, isFoldSign c = false) :
    fold = fold' ∧ rest = rest' := by
  cases fold with
  | none =>
    cases fold' with
    | none => exact ⟨rfl, h⟩
    | some sign =>
      rw [Option.toList_none, List.nil_append] at h
      exact absurd (hsign' sign rfl) (by simp [hnone rfl sign (h ▸ rfl)])
  | some sign =>
    cases fold' with
    | none =>
      rw [Option.toList_none, List.nil_append] at h
      exact absurd (hsign sign rfl) (by simp [hnone' rfl sign (h ▸ rfl)])
    | some sign' =>
      obtain ⟨rfl, hrest⟩ := List.cons.inj h
      exact ⟨rfl, hrest⟩

/-- A line has no two readings as a marker. -/
theorem IsMarkerLine.unique {name' title' : List Char} {fold' : Option Char}
    (h : IsMarkerLine line name fold title) (h' : IsMarkerLine line name' fold' title') :
    name' = name ∧ fold' = fold ∧ title' = title := by
  obtain ⟨⟨-, hname⟩, hsign, ⟨blanks, rfl, hblanks, hnone⟩, hstarts, -⟩ := h
  obtain ⟨⟨-, hname'⟩, hsign', ⟨blanks', hparts, hblanks', hnone'⟩, hstarts', -⟩ := h'
  have hline := (List.cons.inj (List.cons.inj hparts).2).2
  have hsame : name' = name := by
    rw [← takeWhile_isNameChar hname' _, ← hline, takeWhile_isNameChar hname]
  have hbehind := congrArg (List.dropWhile isNameChar) hline.symm
  rw [dropWhile_isNameChar hname, dropWhile_isNameChar hname'] at hbehind
  obtain ⟨hfold, hrest⟩ := foldSign_inj (List.cons.inj hbehind).2 hsign' hnone' hsign hnone
  refine ⟨hsame, hfold, ?_⟩
  rw [← trimStart_append hblanks' hstarts', hrest, trimStart_append hblanks hstarts]

/-- The line of a callout with a name and a title. -/
def markerLine (name title : List Char) : List Char := '[' :: '!' :: (name ++ ']' :: ' ' :: title)

/-- A name in brackets and a title behind a space are read as they are. -/
theorem isMarkerLine_markerLine_iff (hname : IsCalloutName name) (htitle : Tight title)
    (hline : '\n' ∉ title) {name' title' : List Char} :
    IsMarkerLine (markerLine name title) name' fold title' ↔
      name' = name ∧ fold = none ∧ title' = title := by
  have hparts : IsMarkerLine (markerLine name title) name none title :=
    { isName := hname
      isSign := nofun
      parts := ⟨[' '], rfl, List.forall_mem_singleton.2 rfl, fun _ c hc => by cases hc; rfl⟩
      starts := fun c hc => by simpa using htitle.head? c hc
      oneLine := hline }
  constructor
  · exact hparts.unique
  · rintro ⟨rfl, rfl, rfl⟩
    exact hparts

theorem calloutLine?_markerLine (hname : IsCalloutName name) (htitle : Tight title)
    (hline : '\n' ∉ title) : calloutLine? (markerLine name title) = some (name, title) :=
  calloutLine?_eq_some_iff.2 ⟨none, title,
    (isMarkerLine_markerLine_iff hname htitle hline).2 ⟨rfl, rfl, rfl⟩, htitle.2⟩

/-! ### Markers -/

/-- The text of the first line of inline content, without the blanks around it. -/
def firstLine (inlines : List Inline) : List Char :=
  trim (Inline.plainCharsAll (inlines.takeWhile (!·.isBreak)))

theorem calloutMarker?_eq_some_iff : calloutMarker? lead = some marker ↔
    calloutLine? (firstLine lead) = some (marker.name, marker.title) ∧
      (lead.dropWhile (!·.isBreak)).drop 1 = marker.body := by
  obtain ⟨name, title, body⟩ := marker
  simp [calloutMarker?, firstLine, Option.map_eq_some_iff]

/-- The title of a callout is one line without blanks around it. -/
theorem title_of_calloutMarker? (h : calloutMarker? lead = some marker) :
    trim marker.title = marker.title ∧ '\n' ∉ marker.title := by
  obtain ⟨fold, title, hparts, htitle⟩ :=
    calloutLine?_eq_some_iff.1 (calloutMarker?_eq_some_iff.1 h).1
  rw [← htitle]
  exact ⟨trim_trim title, fun hmem => hparts.oneLine (mem_of_mem_trim hmem)⟩

end NoteBridge.Compose
