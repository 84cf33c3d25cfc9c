import NoteBridge.Json.Printer

/-!
What can be wrong with a page. Faults of the JSON form have their own type, since they arise only
in decoding; each cause is a constructor and the wording stands in one place.
-/

namespace NoteBridge.Page

/-- Why a JSON value is no run, block or property. -/
inductive WireFault
  | badStyle
  | badDate
  | textWithoutBody
  | mentionWithoutBody
  | equationWithoutExpression
  | unknownRun (type : String)
  | notRuns (value : Json)
  | blockWithoutType
  | propertyWithoutType
  | propertiesNotObject

namespace WireFault

def message : WireFault → String
  | badStyle => "bad annotations:"
  | badDate => "bad date:"
  | textWithoutBody => "text run without 'text' body"
  | mentionWithoutBody => "mention run without 'mention' body"
  | equationWithoutExpression => "equation run without expression"
  | unknownRun type => "unknown rich text type '" ++ type ++ "'"
  | notRuns value => "expected rich text array, got " ++ value.print
  | blockWithoutType => "block without type"
  | propertyWithoutType => "property without a recognisable type"
  | propertiesNotObject => "properties must be an object"

end WireFault

inductive Fault
  | childrenNotAllowed (kind : String)
  | misplacedTableRow
  | tableChildNotRow (kind : String)
  | depthExceeded (limit : Nat)
  | multipleTitles (count : Nat)
  | invalidWire (cause : WireFault)

namespace Fault

def message : Fault → String
  | childrenNotAllowed kind => "block kind '" ++ kind ++ "' cannot carry children"
  | misplacedTableRow => "table_row block found outside of a table"
  | tableChildNotRow kind => "table child of kind '" ++ kind ++ "' is not a table_row"
  | depthExceeded limit => "nesting depth exceeds the limit of " ++ toString limit
  | multipleTitles count =>
    "property set contains " ++ toString count ++ " title properties, expected at most one"
  | invalidWire cause => "invalid wire value: " ++ cause.message

end Fault
end NoteBridge.Page
