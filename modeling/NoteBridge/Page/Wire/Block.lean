import NoteBridge.Page.Block
import NoteBridge.Page.Wire.Run

/-!
The JSON form of blocks. A block is an object with its type's name, and under that name a body
that also holds the children. Reading is lenient: what is missing in a body has a default, and a
type that is not known keeps its name.
-/

namespace NoteBridge.Page

open Json (object)

def BlockKind.body : BlockKind → List (String × Json)
  | .text _ runs color => [("rich_text", runsToJson runs), ("color", .str color.name)]
  | .toDo runs checked => [("rich_text", runsToJson runs), ("checked", .bool checked)]
  | .callout runs icon color =>
    [("rich_text", runsToJson runs),
      ("icon", object [("type", .str "emoji"), ("emoji", .str icon)]),
      ("color", .str color.name)]
  | .code runs language caption =>
    [("rich_text", runsToJson runs), ("language", .str language), ("caption", runsToJson caption)]
  | .divider | .columnList | .column | .unsupported _ => []
  | .syncedBlock => [("synced_from", .null)]
  | .equation expression => [("expression", .str expression)]
  | .media form url caption =>
    match form with
    | .bookmark | .embed => [("url", .str url), ("caption", runsToJson caption)]
    | _ =>
      [("type", .str "external"), ("external", object [("url", .str url)]),
        ("caption", runsToJson caption)]
  | .table width columnHeader rowHeader =>
    [("table_width", .int width), ("has_column_header", .bool columnHeader),
      ("has_row_header", .bool rowHeader)]
  | .tableRow cells => [("cells", .arr (cells.map runsToJson))]
  | .childPage title => [("title", .str title)]

mutual

/-- The fields are written in order, so that a type whose name is that of an earlier field takes
its place. -/
def Block.toJson : Block → Json
  | ⟨id, kind, children⟩ =>
    let nested := if children.isEmpty then [] else [("children", .arr (listToJson children))]
    let ids := match id with
      | some id => [("id", .str id)]
      | none => []
    object
      ([("object", .str "block")] ++ ids ++
        [("type", .str kind.name), (kind.name, object (kind.body ++ nested))])

def Block.listToJson : List Block → List Json
  | [] => []
  | block :: blocks => block.toJson :: listToJson blocks

end

/-- The address of a resource: that of the source which the body names, or the body's own. -/
def mediaUrl (body : Json) : String :=
  let hosted := (body.stringField? "type").getD "external"
  ((body.field? hosted).bind (Json.stringField? "url") <|> body.stringField? "url").getD ""

def flagField (body : Json) (key : String) : Bool := ((body.field? key).bind Json.bool?).getD false

def TextForm.all : List TextForm :=
  [paragraph, heading1, heading2, heading3, bulletedItem, numberedItem, toggle, quote]

def MediaForm.all : List MediaForm := [image, video, file, pdf, bookmark, embed]

def TextForm.ofName? (s : String) : Option TextForm := all.find? fun form => form.name == s

def MediaForm.ofName? (s : String) : Option MediaForm := all.find? fun form => form.name == s

/-- The kind with the given type name, from its body. -/
def BlockKind.ofBody (name : String) (body : Json) : Except WireFault BlockKind := do
  let runs := runsOfJson (body.field? "rich_text")
  match TextForm.ofName? name, MediaForm.ofName? name with
  | some form, _ => pure (.text form (← runs) (bodyColor body))
  | _, some form => pure (.media form (mediaUrl body) (← runsOfJson (body.field? "caption")))
  | none, none =>
    match name with
    | "to_do" => pure (.toDo (← runs) (flagField body "checked"))
    | "callout" =>
      let icon := ((body.field? "icon").bind (Json.stringField? "emoji")).getD ""
      pure (.callout (← runs) icon (bodyColor body))
    | "code" =>
      let language := (body.stringField? "language").getD plainLanguage
      pure (.code (← runs) language (← runsOfJson (body.field? "caption")))
    | "divider" => pure .divider
    | "equation" => pure (.equation ((body.stringField? "expression").getD ""))
    | "table" =>
      let width := ((body.field? "table_width").bind Json.natural?).getD 1
      pure (.table width (flagField body "has_column_header") (flagField body "has_row_header"))
    | "table_row" =>
      match body.field? "cells" with
      | some (.arr cells) => pure (.tableRow (← cells.mapM fun cell => runsOfJson (some cell)))
      | _ => pure (.tableRow [])
    | "column_list" => pure .columnList
    | "column" => pure .column
    | "synced_block" => pure .syncedBlock
    | "child_page" => pure (.childPage ((body.stringField? "title").getD ""))
    | other => pure (.unsupported other)

/-- The body of a block, which is empty when the field of its type is missing. -/
def bodyOf (name : String) (j : Json) : Json := (j.field? name).getD (.obj [])

mutual

def Block.ofJson (j : Json) : Except WireFault Block :=
  match j.stringField? "type" with
  | none => .error .blockWithoutType
  | some name => do
    let kind ← BlockKind.ofBody name (bodyOf name j)
    let children ←
      match _hb : j.field? name with
      | none => pure []
      | some body =>
        match _hc : body.field? "children" with
        | some (.arr items) => Block.listOfJson items
        | _ => pure []
    pure { id := j.stringField? "id", kind, children }
termination_by sizeOf j
decreasing_by
  have h₁ := Json.sizeOf_field? _hb
  have h₂ := Json.sizeOf_field? _hc
  simp at h₂
  omega

def Block.listOfJson : List Json → Except WireFault (List Block)
  | [] => .ok []
  | item :: items => do
    let block ← Block.ofJson item
    let blocks ← Block.listOfJson items
    pure (block :: blocks)
termination_by items => sizeOf items

end

/-- A block as a listing shows it: its own content, and whether it has children that are listed
apart. -/
structure ListedBlock where
  block : Block
  hasChildren : Bool

def ListedBlock.ofJson (j : Json) : Except WireFault ListedBlock := do
  pure ⟨← Block.ofJson j, flagField j "has_children"⟩

end NoteBridge.Page
