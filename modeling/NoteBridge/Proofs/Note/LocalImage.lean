import NoteBridge.Proofs.Markup.CrossRef
import NoteBridge.Proofs.Note.Literal
import NoteBridge.Proofs.Render.Depth

/-!
Local images on their way to a page and back. Any image that cannot be fetched becomes a callout
with its path, and any such callout is written as an embedded reference. The reference is an image
again only if its path is that of an image file by its ending, and has no mark in it that ends the
target of a reference.
-/

namespace NoteBridge

open Compose (imageBlock localImageIcon localImageNotice loneImage? paragraphBlock)
open Markup (CrossRef Inline)
open Page (Block)
open Text (trim)

variable {inlines : List Inline} {ref : CrossRef} {path alt : String}

/-- The callout that stands for an image at a path that cannot be fetched. -/
def localImage (path : String) : Block :=
  .leaf (.callout [.text localImageNotice, .text path { code := true }] localImageIcon
    (.background .gray))

namespace Compose

theorem imageBlock_of_local (hlocal : Url.isRemote path = false) (alt : String) :
    imageBlock path alt = localImage path := by
  rw [imageBlock, hlocal]
  rfl

theorem imageBlock_eq_localImage {url : String} (h : imageBlock url alt = localImage path) :
    url = path := by
  rw [imageBlock] at h
  split at h
  · cases h
  · cases h
    rfl

/-- A paragraph of which nothing but one image, or reference to one, is visible is no formula. -/
theorem displayMath?_of_visible {inline : Inline} (h : visible inlines = [inline])
    (hmath : ∀ literal, inline ≠ .math true literal) (htext : isTextOrBreak inline = false) :
    displayMath? inlines = none := by
  have hmem : inline ∈ inlines := List.mem_of_mem_filter (h ▸ List.mem_singleton_self inline)
  have hall : inlines.all isTextOrBreak ≠ true := by
    intro hall
    rw [List.all_eq_true.1 hall inline hmem] at htext
    cases htext
  rw [displayMath?, h]
  split
  · next literal hsame =>
    cases hsame
    exact absurd rfl (hmath literal)
  · exact if_neg hall

theorem paragraphBlock_of_loneImage? (h : loneImage? inlines = some (path, alt))
    (context : Context) : paragraphBlock context inlines = imageBlock path alt := by
  have hmath : displayMath? inlines = none := by
    have hlone := h
    unfold loneImage? at hlone
    split at hlone
    · next hvisible => exact displayMath?_of_visible hvisible nofun rfl
    · next hvisible => exact displayMath?_of_visible hvisible nofun rfl
    · cases hlone
  rw [paragraphBlock, hmath, h]

/-- An embedded reference becomes the callout of a local image just when it leads to that image. -/
theorem paragraphBlock_crossRef_iff (hembed : ref.embed = true)
    (hlocal : Url.isRemote path = false) (context : Context) :
    paragraphBlock context [.crossRef ref] = localImage path ↔
      CrossRef.isImageTarget ref.target = true ∧ ref.target = path := by
  have hlone : loneImage? [.crossRef ref] =
      if CrossRef.isImageTarget ref.target then some (ref.target, ref.label.getD "") else none := by
    rw [loneImage?, visible, List.filter_cons_of_pos rfl, List.filter_nil]
    simp only [hembed, Bool.true_and]
  constructor
  · intro h
    by_cases himage : CrossRef.isImageTarget ref.target = true
    · rw [if_pos himage] at hlone
      rw [paragraphBlock_of_loneImage? hlone] at h
      exact ⟨himage, imageBlock_eq_localImage h⟩
    · rw [if_neg himage] at hlone
      have hvisible : visible [.crossRef ref] = [.crossRef ref] := rfl
      have hmath : displayMath? [.crossRef ref] = none :=
        displayMath?_of_visible hvisible (fun literal h => by cases h) rfl
      rw [paragraphBlock, hmath, hlone] at h
      cases h
  · rintro ⟨himage, rfl⟩
    rw [if_pos himage] at hlone
    rw [paragraphBlock_of_loneImage? hlone, imageBlock_of_local hlocal]

end Compose

/-- The callout is written as an embedded reference whatever the options say, since a query stands
in a callout of another color. -/
theorem render_localImage (context : Render.Context) (path : String) :
    Render.render context [localImage path] =
      .ok ("![[".toList ++ path.toList ++ "]]".toList ++ ['\n']) := by
  refine Render.render_leaf rfl rfl (by simp) fun number => ?_
  have hquery : ∀ runs, Render.queryFence? context runs localImageIcon (.background .gray) = none :=
    fun runs => if_neg fun h => nomatch h.2
  have hpath : Render.localImagePath? [.text localImageNotice, .text path { code := true }]
      localImageIcon = some path.toList := rfl
  rw [Block.leaf, Render.renderBlock, hquery, hpath]

/-- An image that cannot be fetched becomes a callout with its path, which is written as an embedded
reference. The reference becomes the callout again if and only if the path ends as an image file
does, is trimmed, and has no bar and no number sign. -/
theorem localImage_reread_iff (hlone : loneImage? inlines = some (path, alt))
    (hlocal : Url.isRemote path = false) (origin : Compose.Context) (target : Render.Context) :
    Compose.documentBlocks origin [.paragraph inlines] = .ok [localImage path] ∧
      Render.render target [localImage path] =
        .ok ("![[".toList ++ path.toList ++ "]]".toList ++ ['\n']) ∧
      (Compose.documentBlocks origin [.paragraph [.crossRef (CrossRef.parse path true)]] =
          .ok [localImage path] ↔
        CrossRef.isImageTarget path = true ∧ trim path.toList = path.toList ∧
          '|' ∉ path.toList ∧ '#' ∉ path.toList) := by
  refine ⟨?_, render_localImage target path, ?_⟩
  · rw [documentBlocks_paragraph, Compose.paragraphBlock_of_loneImage? hlone,
      Compose.imageBlock_of_local hlocal]
  · have htarget := Markup.CrossRef.target_parseChars_eq_iff path.toList true
    rw [String.ofList_toList] at htarget
    rw [documentBlocks_paragraph, Except.ok.injEq, List.cons.injEq, eq_self, and_true,
      Compose.paragraphBlock_crossRef_iff rfl hlocal, CrossRef.parse, ← htarget]
    constructor
    · rintro ⟨himage, hsame⟩
      rw [hsame] at himage
      exact ⟨himage, hsame⟩
    · rintro ⟨himage, hsame⟩
      rw [hsame]
      exact ⟨himage, rfl⟩

/-- A photograph comes back if its name ends as that of an image does, another file does not, and
neither does one with a number sign in its name. -/
theorem photo_reread_others_differ :
    Compose.documentBlocks ⟨{}, .empty⟩ [.paragraph [.crossRef (CrossRef.parse "photo.png" true)]] =
        .ok [localImage "photo.png"] ∧
      Compose.documentBlocks ⟨{}, .empty⟩
          [.paragraph [.crossRef (CrossRef.parse "photo.tiff" true)]] ≠
        .ok [localImage "photo.tiff"] ∧
      Compose.documentBlocks ⟨{}, .empty⟩ [.paragraph [.crossRef (CrossRef.parse "a#b.png" true)]] ≠
        .ok [localImage "a#b.png"] := by
  have hlone : ∀ url, loneImage? [.image url "x" none] = some (url, "x") := fun _ => rfl
  refine ⟨?_, fun h => ?_, fun h => ?_⟩
  · exact (localImage_reread_iff (hlone "photo.png") (by decide) ⟨{}, .empty⟩ ⟨{}, .empty⟩).2.2.2
      ⟨by decide, by decide, by decide, by decide⟩
  · have himage := ((localImage_reread_iff (hlone "photo.tiff") (by decide) ⟨{}, .empty⟩
      ⟨{}, .empty⟩).2.2.1 h).1
    exact absurd himage (by decide)
  · have hsign := ((localImage_reread_iff (hlone "a#b.png") (by decide) ⟨{}, .empty⟩
      ⟨{}, .empty⟩).2.2.1 h).2.2.2
    exact absurd hsign (by decide)

end NoteBridge
