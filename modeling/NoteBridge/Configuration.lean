import NoteBridge.Configuration.Path
import NoteBridge.Configuration.Setting
import NoteBridge.Options.Wire
import NoteBridge.Sync.Run
import NoteBridge.Toml.Document

/-!
Configurations: the options of both directions and how many blocks a request carries. A
configuration is loaded in layers. Files are merged over the defaults in their order, and after all
of them single settings take the place of what the files say.
-/

namespace NoteBridge

open Page (Color PropertyType)

structure Configuration where
  options : Options
  batchSize : Nat
deriving DecidableEq

namespace Configuration

inductive Layer
  | file (required : Bool) (content : Option String)
  | setting (path : String) (value : Json)

/-! ### Settings by their groups -/

def unresolvedStyle : Setting UnresolvedStyle :=
  oneOf ([.placeholder, .text, .skip].map fun style => (style.name, style))

def color : Setting Color := oneOf (Color.all.map fun color => (color.name, color))

def propertyType : Setting PropertyType :=
  oneOf (PropertyType.all.map fun type => (type.name, type))

def calloutGroup : Setting CalloutGroup := fun value => do
  match ← group ["names", "icon"] value with
  | [names, icon] =>
    let names ← given (listOf text) names
    let icon ← given text icon
    return { names := ← needed names, icon := ← needed icon }
  | _ => throw .wrongShape

def callouts : Setting CalloutIcons := fun value => do
  match ← group ["fallback_icon", "dataview_icon", "types"] value with
  | [fallback, query, groups] =>
    let fallback ← given text fallback
    let query ← given text query
    let groups ← given (listOf calloutGroup) groups
    return { fallback := ← needed fallback, query := ← needed query, groups := ← needed groups }
  | _ => throw .wrongShape

def mapping : Setting Mapping := fun value => do
  match ← group ["field", "property", "type"] value with
  | [field, property, type] =>
    let field ← given text field
    let property ← given text property
    let type ← given propertyType type
    return { field := ← needed field, property := ← needed property, type := ← needed type }
  | _ => throw .wrongShape

/-- Adds the settings of transforms to options. -/
def transform (options : Options) : Setting Options := fun value => do
  match ← group ["unresolved_links", "max_depth", "highlight_color"] value with
  | [unresolved, maxDepth, highlight] =>
    let unresolved ← given unresolvedStyle unresolved
    let maxDepth ← given natural maxDepth
    let highlight ← given color highlight
    return { options with
      unresolved := ← needed unresolved
      maxDepth := ← needed maxDepth
      highlight := ← needed highlight }
  | _ => throw .wrongShape

/-- Adds the settings of properties to options; without mappings there are none. -/
def properties (options : Options) : Setting Options := fun value => do
  match ← group ["title_property", "tags_property", "mappings"] value with
  | [title, tags, mappings] =>
    let title ← given text title
    let tags ← given text tags
    let mappings ← given (listOf mapping) mappings
    return { options with
      titleProperty := ← needed title
      tagsProperty := ← needed tags
      mappings := mappings.getD [] }
  | _ => throw .wrongShape

/-- The blocks of a request, which carries at least one. -/
def client : Setting Nat := fun value => do
  match ← group ["batch_size"] value with
  | [batchSize] =>
    let batchSize ← given natural batchSize
    return max (← needed batchSize) 1
  | _ => throw .wrongShape

def ofJson : Setting Configuration := fun value => do
  match ← group ["transform", "callouts", "properties", "client"] value with
  | [transformGroup, calloutGroups, propertyGroup, clientGroup] =>
    let options ← given (transform {}) transformGroup
    let icons ← given callouts calloutGroups
    let options ← given (properties (options.getD {})) propertyGroup
    let batchSize ← given client clientGroup
    return {
      options := { (← needed options) with callouts := ← needed icons }
      batchSize := ← needed batchSize }
  | _ => throw .wrongShape

/-- How the configuration cuts synchronisation runs. -/
def syncSettings (configuration : Configuration) : Sync.Settings :=
  { batchSize := configuration.batchSize, maxDepth := configuration.options.maxDepth }

/-! ### Loading -/

def standard : Configuration := { options := {}, batchSize := 100 }

/-- The settings that are there before any layer. -/
def toJson (configuration : Configuration) : Json :=
  let options := configuration.options
  .object
    [("transform", .object
        [("unresolved_links", .str options.unresolved.name), ("max_depth", .int options.maxDepth),
          ("highlight_color", .str options.highlight.name)]),
      ("callouts", options.callouts.toJson),
      ("properties", .object
        [("title_property", .str options.titleProperty),
          ("tags_property", .str options.tagsProperty)]),
      ("client", .object [("batch_size", .int configuration.batchSize)])]

/-- Merges an entry at the top of a file. A key that reads as a path is one. -/
def addTopEntry (root : Json) (entry : String × Json) : Json :=
  match Path.read? entry.1.toList with
  | some path => path.set entry.2 root
  | none => put entry.1 root entry.2

def addFile (required : Bool) (content : Option String) (root : Json) : Except Fault Json :=
  match content with
  | none => if required then throw .missingFile else return root
  | some source =>
    match Toml.read? source.toList with
    | some record => return record.entries.foldl addTopEntry root
    | none => throw .unreadableText

/-- The paths of all single settings. They are read before any file is. -/
def settings : List Layer → Except Fault (List (Path × Json))
  | [] => return []
  | .file .. :: layers => settings layers
  | .setting path value :: layers =>
    match Path.read? path.toList with
    | some path => return (path, value) :: (← settings layers)
    | none => throw .malformedPath

def addFiles (root : Json) : List Layer → Except Fault Json
  | [] => return root
  | .file required content :: layers => do addFiles (← addFile required content root) layers
  | .setting .. :: layers => addFiles root layers

/-- Loads the layers over the defaults. -/
def load (layers : List Layer) : Except Fault Configuration := do
  let overriding ← settings layers
  let root ← addFiles standard.toJson layers
  ofJson (overriding.foldl (fun root (path, value) => path.set value root) root)

end Configuration
end NoteBridge
