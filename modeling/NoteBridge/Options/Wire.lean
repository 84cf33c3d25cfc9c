import NoteBridge.Json.Record
import NoteBridge.Options
import NoteBridge.Page.Wire.Run

/-!
The JSON form of options. Every option may be missing and then has its default; what is inside one
is either complete or makes all options unreadable.
-/

namespace NoteBridge

open Json (object required optional)
open Page (Color PropertyType)

namespace UnresolvedStyle

def name : UnresolvedStyle → String
  | placeholder => "placeholder"
  | text => "text"
  | skip => "skip"

def ofName? (s : String) : Option UnresolvedStyle :=
  [placeholder, text, skip].find? fun style => style.name == s

end UnresolvedStyle

namespace CalloutGroup

def toJson (group : CalloutGroup) : Json :=
  object [("names", .arr (group.names.map .str)), ("icon", .str group.icon)]

def ofJson? (j : Json) : Option CalloutGroup := do
  match ← j.record? ["names", "icon"] with
  | [names, icon] =>
    some
      { names := ← required (Json.listOf? Json.string?) names
        icon := ← required Json.string? icon }
  | _ => none

end CalloutGroup

namespace CalloutIcons

def toJson (icons : CalloutIcons) : Json :=
  object
    [("fallback_icon", .str icons.fallback), ("dataview_icon", .str icons.query),
      ("types", .arr (icons.groups.map CalloutGroup.toJson))]

def ofJson? (j : Json) : Option CalloutIcons := do
  match ← j.record? ["fallback_icon", "dataview_icon", "types"] with
  | [fallback, query, groups] =>
    some
      { fallback := ← required Json.string? fallback
        query := ← required Json.string? query
        groups := ← required (Json.listOf? CalloutGroup.ofJson?) groups }
  | _ => none

end CalloutIcons

namespace Mapping

def toJson (mapping : Mapping) : Json :=
  object
    [("field", .str mapping.field), ("property", .str mapping.property),
      ("type", .str mapping.type.name)]

def ofJson? (j : Json) : Option Mapping := do
  match ← j.record? ["field", "property", "type"] with
  | [field, property, type] =>
    some
      { field := ← required Json.string? field
        property := ← required Json.string? property
        type := ← required (fun j => j.caseName?.bind PropertyType.ofName?) type }
  | _ => none

end Mapping

namespace Options

def fieldNames : List String :=
  ["unresolved_links", "max_depth", "highlight_color", "callouts", "title_property",
    "tags_property", "mappings"]

def toJson (o : Options) : Json :=
  object
    [("unresolved_links", .str o.unresolved.name), ("max_depth", .int o.maxDepth),
      ("highlight_color", .str o.highlight.name), ("callouts", o.callouts.toJson),
      ("title_property", .str o.titleProperty), ("tags_property", .str o.tagsProperty),
      ("mappings", .arr (o.mappings.map Mapping.toJson))]

def ofJson? (j : Json) : Option Options := do
  match ← j.record? fieldNames with
  | [unresolved, maxDepth, highlight, callouts, titleProperty, tagsProperty, mappings] =>
    let d : Options := {}
    some
      { unresolved :=
          ← optional (fun j => j.caseName?.bind UnresolvedStyle.ofName?) d.unresolved unresolved
        maxDepth := ← optional Json.natural? d.maxDepth maxDepth
        highlight := ← optional Color.ofJson? d.highlight highlight
        callouts := ← optional CalloutIcons.ofJson? d.callouts callouts
        titleProperty := ← optional Json.string? d.titleProperty titleProperty
        tagsProperty := ← optional Json.string? d.tagsProperty tagsProperty
        mappings := ← optional (Json.listOf? Mapping.ofJson?) d.mappings mappings }
  | _ => none

end Options
end NoteBridge
