import NoteBridge.Markup.CrossRef

/-!
The document tree of a note: inline content, and the nodes that hold it.
-/

namespace NoteBridge.Markup

inductive Inline
  | text (content : String)
  | emphasis (strong : Bool) (children : List Inline)
  | strikethrough (children : List Inline)
  | code (content : String)
  | link (url : String) (title : Option String) (children : List Inline)
  | autolink (url : String)
  | image (url alt : String) (title : Option String)
  | raw (content : String)
  | crossRef (ref : CrossRef)
  | math (display : Bool) (literal : String)
  | checkbox (checked : Bool)
  | softBreak
  | lineBreak

instance : Inhabited Inline := ⟨.softBreak⟩

abbrev Cell := List Inline

abbrev Row := List Cell

/-- A node; the items of a list are the nodes that each of them holds. -/
inductive Node
  | heading (level : Nat) (content : List Inline)
  | paragraph (content : List Inline)
  | list (ordered : Bool) (start : Nat) (items : List (List Node))
  | quote (children : List Node)
  | fencedCode (language : Option String) (literal : String)
  | thematicBreak
  | table (header : Option Row) (rows : List Row)
  | html (content : String)

instance : Inhabited Node := ⟨.thematicBreak⟩

abbrev Document := List Node

def Inline.isBreak : Inline → Bool
  | softBreak | lineBreak => true
  | _ => false

/-- Inline content that shows nothing: a break, or text of blanks. -/
def Inline.isBlank : Inline → Bool
  | text content => Text.allBlank content.toList
  | softBreak | lineBreak => true
  | _ => false

mutual

/-- The text of inline content, without what styles it. -/
def Inline.plainChars : Inline → List Char
  | text content | raw content | autolink content | code content => content.toList
  | emphasis _ children | strikethrough children | link _ _ children => plainCharsAll children
  | image _ alt _ => alt.toList
  | crossRef ref => ref.shown.toList
  | math _ literal => literal.toList
  | softBreak | lineBreak => ['\n']
  | checkbox _ => []

def Inline.plainCharsAll : List Inline → List Char
  | [] => []
  | inline :: inlines => inline.plainChars ++ plainCharsAll inlines

end

end NoteBridge.Markup
