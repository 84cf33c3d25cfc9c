import NoteBridge.Date.Normal
import NoteBridge.FrontMatter
import NoteBridge.Number.Word
import NoteBridge.Options
import NoteBridge.Page.Property
import NoteBridge.Text.Small

/-!
Between front matter records and property sets. A value is coerced to the type that its mapping
asks for, and one that cannot be coerced is left out. The tags fill in a property that no mapping has
produced. The title is written when no mapping has produced a title; a mapped property of another
type that has the name of the title property is replaced by it.
-/

namespace NoteBridge

open Page (PropertyType PropertyValue PropertySet Run)
open Text

namespace Coerce

/-- The text of a scalar; an empty text and what is no scalar have none. -/
def scalar? : Json → Option (List Char)
  | .str s => if s.isEmpty then none else some s.toList
  | .int n => some (Json.numberText (.int n)).toList
  | .real x => some (Json.numberText (.real x)).toList
  | .bool b => some (toString b).toList
  | _ => none

def textRuns (cs : List Char) : List Run := Page.boundRuns [.text (String.ofList cs)]

/-- The runs of a text, or of the scalars in a list. -/
def runs? : Json → Option (List Run)
  | .arr items => some (textRuns (join [',', ' '] (items.filterMap scalar?)))
  | j => (scalar? j).map textRuns

def number? : Json → Option Double
  | .str s => Number.double? (trim s.toList)
  | j => j.double?

def checked? : Json → Option Bool
  | .bool b => some b
  | .str s =>
    let word := toAsciiLower (trim s.toList)
    some (word == "true".toList || word == "1".toList || word == "yes".toList)
  | j => j.double?.map (!·.isZero)

def commaParts (cs : List Char) : List (List Char) :=
  ((splitWhere (· == ',') cs).map trim).filter (!·.isEmpty)

def names? : Json → Option (List (List Char))
  | .arr items => some (((items.filterMap scalar?).map trim).filter (!·.isEmpty))
  | .str s => some (commaParts s.toList)
  | j => (scalar? j).map ([·])

/-- A text that is not blank, trimmed. -/
def trimmed? (j : Json) : Option String :=
  match j.string? with
  | some s => if allBlank s.toList then none else some (onString trim s)
  | none => none

end Coerce

open Coerce in
/-- A value as a property of the given type; null is never one. -/
def coerce? (type : PropertyType) (value : Json) : Option PropertyValue :=
  match type with
  | .title => (runs? value).map .title
  | .richText => (runs? value).map .richText
  | .number => (number? value).map fun x => .number (some x)
  | .checkbox => (checked? value).map .checkbox
  | .select => (scalar? value).map fun cs => .select (some (String.ofList cs))
  | .multiSelect => (names? value).map fun names => .multiSelect (names.map String.ofList)
  | .date => (value.string?.bind Date.normalize?).map fun start => .date (some { start })
  | .url => (trimmed? value).map fun s => .url (some s)
  | .email => (trimmed? value).map fun s => .email (some s)
  | .phoneNumber => (trimmed? value).map fun s => .phoneNumber (some s)

/-- A number in front matter: an integer if it is one and its magnitude is below 2^63. -/
def numberJson (x : Double) : Json :=
  match x.toInt? with
  | some n => if n.natAbs < Number.wordSize 63 then .int n else .real x
  | none => if x.isFinite then .real x else .null

namespace Page.PropertyValue

/-- The front matter value of a property; one without a value has none. -/
def toFrontMatter? : PropertyValue → Option Json
  | title runs | richText runs => some (.str (plainText runs))
  | number value => value.map numberJson
  | select name => name.map .str
  | multiSelect names => some (.arr (names.map .str))
  | date span => span.map fun span => .str span.start
  | checkbox checked => some (.bool checked)
  | url text | email text | phoneNumber text => text.map .str
  | unsupported _ => none

end Page.PropertyValue

namespace Properties

/-- The value of a field: under the very name, or else the first whose name differs in case. -/
def lookup? (record : Record) (field : String) : Option Json :=
  match record.find? field with
  | some value => some value
  | none => (record.entries.find? fun entry => eqIgnoringAsciiCase entry.1 field).map Prod.snd

/-- Adds the property of a mapping, unless it is there or cannot be had. -/
def addMapped (record : Record) (properties : PropertySet) (mapping : Mapping) : PropertySet :=
  if properties.contains mapping.property then properties
  else
    match (lookup? record mapping.field).bind (coerce? mapping.type) with
    | some value => properties.insert mapping.property value
    | none => properties

def addTags (options : Options) (tags : List String) (properties : PropertySet) : PropertySet :=
  if !tags.isEmpty && !properties.contains options.tagsProperty then
    properties.insert options.tagsProperty (.multiSelect tags)
  else properties

def addTitle (options : Options) (title : String) (properties : PropertySet) : PropertySet :=
  if properties.title?.isNone && !title.isEmpty then
    properties.insert options.titleProperty (.title (Coerce.textRuns title.toList))
  else properties

/-- The properties of a note. -/
def ofRecord (options : Options) (record : Record) (tags : List String) (title : String) :
    PropertySet :=
  addTitle options title (addTags options tags (options.mappings.foldl (addMapped record) ∅))

/-- What property sets hold of a note. -/
structure Parts where
  title : Option String := none
  record : Record := ∅
  tags : List String := []

/-- Adds a field, unless the record has it or the property holds no value. -/
def addField (record : Record) (field : String) (value : PropertyValue) : Record :=
  if record.contains field then record
  else
    match value.toFrontMatter? with
    | some json => record.insert field json
    | none => record

def addMappedField (properties : PropertySet) (record : Record) (mapping : Mapping) : Record :=
  match properties.find? mapping.property with
  | some value => addField record mapping.field value
  | none => record

/-- The tags of the tags property, if it holds any kind of selection. -/
def tagList? (options : Options) (properties : PropertySet) : Option (List String) :=
  match properties.find? options.tagsProperty with
  | some (.multiSelect tags) => some tags
  | _ => none

/-- Whether a property has its place in the record already: by a mapping, as the tags or as the
title. -/
def isConsumed (options : Options) (properties : PropertySet) (name : String)
    (value : PropertyValue) : Bool :=
  value.isTitle || options.mappings.any (·.property == name) ||
    ((tagList? options properties).isSome && name == options.tagsProperty)

/-- The values of an entry as a list. -/
def listOf : Option Json → List Json
  | some (.arr items) => items
  | some (.str s) => (Coerce.commaParts s.toList).map fun part => .str (String.ofList part)
  | some .null | none => []
  | some other => [other]

def addTag (items : List Json) (tag : String) : List Json :=
  if items.any (·.isText tag) then items else items ++ [.str tag]

def tagsField : String := "tags"

/-- Adds each tag to the entry for tags that is not there yet. -/
def mergeTags (record : Record) (tags : List String) : Record :=
  if tags.isEmpty then record
  else record.insert tagsField (.arr (tags.foldl addTag (listOf (record.find? tagsField))))

/-- The record, tags and title of a property set. -/
def toParts (options : Options) (properties : PropertySet) : Parts :=
  let mapped := options.mappings.foldl (addMappedField properties) ∅
  let others := properties.entries.filter fun entry =>
    !isConsumed options properties entry.1 entry.2
  let record := others.foldl (fun r entry => addField r (toSmallString entry.1) entry.2) mapped
  let tags := (tagList? options properties).getD []
  { title := properties.title?.bind fun entry => entry.2.plainText?
    record := mergeTags record tags
    tags }

end Properties
end NoteBridge
