import NoteBridge.Json.Record
import NoteBridge.Page.Fault
import NoteBridge.Page.Run

/-!
The JSON form of runs. What is written carries all of a run; what is read may also be a response
with more fields, with a text in place of a body, or with a mention that names no page and reads as
a text.
-/

namespace NoteBridge.Page

open Json (object)

def Color.ofJson? (j : Json) : Option Color := j.caseName?.bind Color.ofName?

/-- The color of a body; one that is missing or unknown is the default. -/
def bodyColor (body : Json) : Color := ((body.field? "color").bind Color.ofJson?).getD .default

namespace Style

def fieldNames : List String :=
  ["bold", "italic", "strikethrough", "underline", "code", "color"]

def toJson (style : Style) : Json :=
  object
    [("bold", .bool style.bold), ("italic", .bool style.italic),
      ("strikethrough", .bool style.strikethrough), ("underline", .bool style.underline),
      ("code", .bool style.code), ("color", .str style.color.name)]

/-- Every field may be missing; one of the wrong type makes the whole style unreadable. -/
def ofJson? (j : Json) : Option Style := do
  match ← j.record? fieldNames with
  | [bold, italic, strikethrough, underline, code, color] =>
    let flag := Json.optional Json.bool? false
    some
      { bold := ← flag bold
        italic := ← flag italic
        strikethrough := ← flag strikethrough
        underline := ← flag underline
        code := ← flag code
        color := ← Json.optional Color.ofJson? .default color }
  | _ => none

end Style

namespace Run

def toJson (run : Run) : Json :=
  let style := ("annotations", run.style.toJson)
  match run.kind with
  | .text link =>
    object
      [("type", .str "text"),
        ("text", object
          [("content", .str run.content),
            ("link", Json.ofOption (fun url => object [("url", .str url)]) link)]),
        style]
  | .mention page =>
    object
      [("type", .str "mention"),
        ("mention", object [("type", .str "page"), ("page", object [("id", .str page)])]),
        style, ("plain_text", .str run.content)]
  | .equation =>
    object
      [("type", .str "equation"), ("equation", object [("expression", .str run.content)]), style]

/-- The page or database that a mention names. -/
def mentioned? (mention : Json) : Option String :=
  let type := (mention.stringField? "type").getD ""
  if type = "page" ∨ type = "database" then (mention.field? type).bind (Json.stringField? "id")
  else none

def ofJson (j : Json) : Except WireFault Run := do
  let style ←
    match j.field? "annotations" with
    | none => pure {}
    | some raw =>
      match Style.ofJson? raw with
      | some style => pure style
      | none => throw .badStyle
  let plain := j.stringField? "plain_text"
  match (j.stringField? "type").getD "text" with
  | "text" =>
    match j.field? "text" with
    | none => throw .textWithoutBody
    | some body =>
      let content := (body.stringField? "content" <|> plain).getD ""
      let link := (body.field? "link").bind (Json.stringField? "url")
      pure { content, style, kind := .text link }
  | "mention" =>
    match j.field? "mention" with
    | none => throw .mentionWithoutBody
    | some body =>
      match mentioned? body with
      | some id => pure { content := plain.getD id, style, kind := .mention id }
      | none => pure { content := plain.getD "", style, kind := .text (j.stringField? "href") }
  | "equation" =>
    match (j.field? "equation").bind (Json.stringField? "expression") with
    | none => throw .equationWithoutExpression
    | some expression => pure { content := expression, style, kind := .equation }
  | other => throw (.unknownRun other)

end Run

def runsToJson (runs : List Run) : Json := .arr (runs.map Run.toJson)

/-- The runs of a field; a missing or null one has none. -/
def runsOfJson : Option Json → Except WireFault (List Run)
  | none | some .null => .ok []
  | some (.arr items) => items.mapM Run.ofJson
  | some other => .error (.notRuns other)

end NoteBridge.Page
