import NoteBridge.Page.Run

/-!
Blocks, the units of a page. A page is a forest of blocks; which kinds may carry children, and
where table rows may stand, is what `check` verifies. Kinds of one shape share a constructor:
eight hold a colored text, six refer to a resource.
-/

namespace NoteBridge.Page

inductive TextForm
  | paragraph
  | heading1
  | heading2
  | heading3
  | bulletedItem
  | numberedItem
  | toggle
  | quote
deriving DecidableEq, Repr

inductive MediaForm
  | image
  | video
  | file
  | pdf
  | bookmark
  | embed
deriving DecidableEq, Repr

inductive BlockKind
  | text (form : TextForm) (runs : List Run) (color : Color := .default)
  | toDo (runs : List Run) (checked : Bool)
  | callout (runs : List Run) (icon : String) (color : Color)
  | code (runs : List Run) (language : String) (caption : List Run)
  | divider
  | equation (expression : String)
  | media (form : MediaForm) (url : String) (caption : List Run)
  | table (width : Nat) (columnHeader rowHeader : Bool)
  | tableRow (cells : List (List Run))
  | columnList
  | column
  | syncedBlock
  | childPage (title : String)
  | unsupported (name : String)
deriving DecidableEq, Repr

structure Block where
  id : Option String := none
  kind : BlockKind
  children : List Block := []

/-- The language of code that has none. -/
def plainLanguage : String := "plain text"

def TextForm.name : TextForm → String
  | paragraph => "paragraph"
  | heading1 => "heading_1"
  | heading2 => "heading_2"
  | heading3 => "heading_3"
  | bulletedItem => "bulleted_list_item"
  | numberedItem => "numbered_list_item"
  | toggle => "toggle"
  | quote => "quote"

def MediaForm.name : MediaForm → String
  | image => "image"
  | video => "video"
  | file => "file"
  | pdf => "pdf"
  | bookmark => "bookmark"
  | embed => "embed"

namespace BlockKind

/-- The name of the kind in the page's JSON. -/
def name : BlockKind → String
  | text form _ _ => form.name
  | toDo .. => "to_do"
  | callout .. => "callout"
  | code .. => "code"
  | divider => "divider"
  | equation _ => "equation"
  | media form _ _ => form.name
  | table .. => "table"
  | tableRow _ => "table_row"
  | columnList => "column_list"
  | column => "column"
  | syncedBlock => "synced_block"
  | childPage _ => "child_page"
  | unsupported name => name

def bearsChildren : BlockKind → Bool
  | text form _ _ =>
    match form with
    | .heading1 | .heading2 | .heading3 => false
    | _ => true
  | toDo .. | callout .. | table .. | columnList | column | syncedBlock => true
  | code .. | divider | equation _ | media .. | tableRow _ | childPage _ | unsupported _ => false

def isTable : BlockKind → Bool
  | table .. => true
  | _ => false

def isTableRow : BlockKind → Bool
  | tableRow _ => true
  | _ => false

/-- Kinds that only group their children and show nothing themselves. -/
def isTransparent : BlockKind → Bool
  | columnList | column | syncedBlock => true
  | _ => false

def isListItem : BlockKind → Bool
  | text .bulletedItem .. | text .numberedItem .. | text .toggle .. | toDo .. => true
  | _ => false

def isNumbered : BlockKind → Bool
  | text .numberedItem .. => true
  | _ => false

end BlockKind

namespace Block

def leaf (kind : BlockKind) : Block := { kind }

def paragraph (runs : List Run) : Block := leaf (.text .paragraph runs)

end Block

mutual

def Block.decEq : (a b : Block) → Decidable (a = b)
  | ⟨i, k, cs⟩, ⟨i', k', cs'⟩ =>
    if hi : i = i' then
      if hk : k = k' then
        match Block.listDecEq cs cs' with
        | isTrue h => isTrue (by rw [hi, hk, h])
        | isFalse h => isFalse (by simp [h])
      else isFalse (by simp [hk])
    else isFalse (by simp [hi])

def Block.listDecEq : (as bs : List Block) → Decidable (as = bs)
  | [], [] => isTrue rfl
  | [], _ :: _ => isFalse (by simp)
  | _ :: _, [] => isFalse (by simp)
  | a :: as, b :: bs =>
    match Block.decEq a b with
    | isTrue ha =>
      match Block.listDecEq as bs with
      | isTrue h => isTrue (by rw [ha, h])
      | isFalse h => isFalse (by simp [h])
    | isFalse ha => isFalse (by simp [ha])

end

instance : DecidableEq Block := Block.decEq

end NoteBridge.Page
