import NoteBridge.Compose.Inline
import NoteBridge.Page.Block

/-!
Paragraphs on a page. A paragraph of nothing but a displayed formula is an equation, one of nothing
but an image is an image, and an image that cannot be fetched is a callout with its path.
-/

namespace NoteBridge.Compose

open Markup (Inline CrossRef)
open Page (Block BlockKind)
open Text

def visible (inlines : List Inline) : List Inline := inlines.filter (!·.isBlank)

def isTextOrBreak : Inline → Bool
  | .text _ | .softBreak | .lineBreak => true
  | _ => false

/-- The formula between two pairs of dollar signs that enclose the whole text. -/
def dollarMath? (cs : List Char) : Option String :=
  match (after? ['$', '$'] (trim cs)).bind (before? ['$', '$']) with
  | some inner => if (trim inner).isEmpty then none else some (String.ofList (trim inner))
  | none => none

def displayMath? (inlines : List Inline) : Option String :=
  match visible inlines with
  | [.math true literal] => some (onString trim literal)
  | _ =>
    if inlines.all isTextOrBreak then dollarMath? (Inline.plainCharsAll inlines) else none

/-- The address and text of the image that a paragraph consists of. -/
def loneImage? (inlines : List Inline) : Option (String × String) :=
  match visible inlines with
  | [.image url alt _] => some (url, alt)
  | [.crossRef ref] =>
    if ref.embed && CrossRef.isImageTarget ref.target then some (ref.target, ref.label.getD "")
    else none
  | _ => none

def localImageIcon : String := "🖼️"

def localImageNotice : String := "Local image not embedded: "

def imageBlock (url alt : String) : Block :=
  if Url.isRemote url then
    .leaf (.media .image url (if alt.isEmpty then [] else [.text alt]))
  else
    .leaf (.callout [.text localImageNotice, .text url { code := true }] localImageIcon
      (.background .gray))

def paragraphBlock (context : Context) (inlines : List Inline) : Block :=
  match displayMath? inlines with
  | some expression => .leaf (.equation expression)
  | none =>
    match loneImage? inlines with
    | some (url, alt) => imageBlock url alt
    | none => .paragraph (compose context inlines)

end NoteBridge.Compose
