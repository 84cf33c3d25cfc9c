import NoteBridge.Compose.Document
import NoteBridge.Markdown.Document
import NoteBridge.Properties
import NoteBridge.Render.Block
import NoteBridge.Sync.Run
import NoteBridge.Yaml.Record
import NoteBridge.Yaml.Writer

/-!
Notes, and both ways between notes and pages. A note has a title, a front matter record, tags and a
document. What comes back from a page has its body as markup.
-/

namespace NoteBridge

open Page (Block Fault)
open Sync (TargetPage)

structure Note where
  title : String
  record : Record
  tags : List String
  document : Markup.Document

namespace Note

/-- The note that a text holds: its front matter, its body, and the tags of both, those of the front
matter first. -/
def read (source title : String) : Note :=
  let (matter, body) := FrontMatter.splitChars source.toList
  let record := (matter.map Yaml.recordOf).getD {}
  let reading := Markdown.read (String.ofList body)
  { title, record
    tags := (FrontMatter.tags record ++ reading.tags).eraseDups
    document := reading.document }

end Note

/-- A note that was read from a page. -/
structure PulledNote where
  title : Option String
  record : Record
  tags : List String
  body : String

/-- The text of a note: its front matter and its body. -/
def PulledNote.toMarkup (note : PulledNote) : String :=
  String.ofList (FrontMatter.render note.record note.body.toList)

/-- The options and names under which notes become pages and pages become notes. -/
structure Bridge where
  options : Options := {}
  resolver : Resolver := .empty

namespace Bridge

def toBlocks (bridge : Bridge) (document : Markup.Document) : Except Fault (List Block) :=
  Compose.documentBlocks ⟨bridge.options, bridge.resolver⟩ document

def toPage (bridge : Bridge) (note : Note) : Except Fault TargetPage := do
  let properties := Properties.ofRecord bridge.options note.record note.tags note.title
  let children ← bridge.toBlocks note.document
  pure { properties, children }

def toMarkup (bridge : Bridge) (blocks : List Block) : Except Fault String := do
  let text ← Render.render ⟨bridge.options, bridge.resolver⟩ blocks
  pure (.ofList text)

def toNote (bridge : Bridge) (page : TargetPage) : Except Fault PulledNote := do
  let parts := Properties.toParts bridge.options page.properties
  let body ← bridge.toMarkup page.children
  pure { title := parts.title, record := parts.record, tags := parts.tags, body }

end Bridge
end NoteBridge
