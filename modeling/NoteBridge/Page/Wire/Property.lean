import NoteBridge.Page.Property
import NoteBridge.Page.Wire.Run

/-!
The JSON form of properties. What is written has no type beside its value, so reading takes the
type from the first known field unless one is given.
-/

namespace NoteBridge.Page

open Json (object)

namespace DateSpan

/-- A finish that is absent is left out. -/
def toJson (span : DateSpan) : Json :=
  let finish := match span.finish with
    | some finish => [("end", .str finish)]
    | none => []
  object (("start", .str span.start) :: finish)

def ofJson? (j : Json) : Option DateSpan := do
  match ← j.record? ["start", "end"] with
  | [start, finish] =>
    some
      { start := ← Json.required Json.string? start
        finish := ← Json.optional (Json.nullable? Json.string?) none finish }
  | _ => none

end DateSpan

namespace PropertyValue

def named (name : String) : Json := object [("name", .str name)]

def toJson : PropertyValue → Json
  | title runs => object [("title", runsToJson runs)]
  | richText runs => object [("rich_text", runsToJson runs)]
  | number value =>
    object [("number", Json.ofOption (fun x => if x.isFinite then .real x else .null) value)]
  | select name => object [("select", Json.ofOption named name)]
  | multiSelect names => object [("multi_select", .arr (names.map named))]
  | date span => object [("date", Json.ofOption DateSpan.toJson span)]
  | checkbox checked => object [("checkbox", .bool checked)]
  | url text => object [("url", Json.ofOption .str text)]
  | email text => object [("email", Json.ofOption .str text)]
  | phoneNumber text => object [("phone_number", Json.ofOption .str text)]
  | unsupported name => object [("type", .str name)]

/-- The value of a known type, from its body. -/
def ofBody (type : PropertyType) (body : Json) : Except WireFault PropertyValue :=
  match type with
  | .title => return .title (← runsOfJson (some body))
  | .richText => return .richText (← runsOfJson (some body))
  | .number => return .number body.double?
  | .select => return .select (body.stringField? "name")
  | .multiSelect =>
    match body with
    | .arr options => return .multiSelect (options.filterMap (Json.stringField? "name"))
    | _ => return .multiSelect []
  | .date =>
    if body.isNull then return .date none
    else
      match DateSpan.ofJson? body with
      | some span => return .date (some span)
      | none => throw .badDate
  | .checkbox => return .checkbox (body.bool?.getD false)
  | .url => return .url body.string?
  | .email => return .email body.string?
  | .phoneNumber => return .phoneNumber body.string?

def ofJson (j : Json) : Except WireFault PropertyValue :=
  let known := (PropertyType.all.map PropertyType.name).find? fun key => (j.field? key).isSome
  match j.stringField? "type" <|> known with
  | none => throw .propertyWithoutType
  | some name =>
    match PropertyType.ofName? name with
    | some type => ofBody type ((j.field? name).getD .null)
    | none => return .unsupported name

end PropertyValue

namespace PropertySet

def toJson (properties : PropertySet) : Json :=
  object (properties.entries.map fun (name, value) => (name, value.toJson))

def readEntries : List (String × Json) → Except WireFault (List (String × PropertyValue))
  | [] => .ok []
  | (name, raw) :: fields => do
    let value ← PropertyValue.ofJson raw
    let rest ← readEntries fields
    pure ((name, value) :: rest)

def ofJson : Json → Except WireFault PropertySet
  | .obj fields => return Dict.ofList (← readEntries fields)
  | _ => throw .propertiesNotObject

end PropertySet
end NoteBridge.Page
