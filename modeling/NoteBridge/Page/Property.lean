import NoteBridge.Dict
import NoteBridge.Number.Double
import NoteBridge.Page.Run

/-!
Typed properties of a page. A property set is a dictionary from names to values; a page that lies
under another page keeps nothing of it but its title.
-/

namespace NoteBridge.Page

inductive PropertyType
  | title
  | richText
  | number
  | select
  | multiSelect
  | date
  | checkbox
  | url
  | email
  | phoneNumber
deriving DecidableEq, Repr

namespace PropertyType

def name : PropertyType → String
  | title => "title"
  | richText => "rich_text"
  | number => "number"
  | select => "select"
  | multiSelect => "multi_select"
  | date => "date"
  | checkbox => "checkbox"
  | url => "url"
  | email => "email"
  | phoneNumber => "phone_number"

/-- All types, in the order in which an untyped value is searched for them. -/
def all : List PropertyType :=
  [title, richText, number, select, multiSelect, date, checkbox, url, email, phoneNumber]

def ofName? (s : String) : Option PropertyType := all.find? fun type => type.name == s

end PropertyType

structure DateSpan where
  start : String
  finish : Option String := none
deriving DecidableEq, Repr

inductive PropertyValue
  | title (runs : List Run)
  | richText (runs : List Run)
  | number (value : Option Double)
  | select (name : Option String)
  | multiSelect (names : List String)
  | date (span : Option DateSpan)
  | checkbox (checked : Bool)
  | url (text : Option String)
  | email (text : Option String)
  | phoneNumber (text : Option String)
  | unsupported (name : String)
deriving DecidableEq

namespace PropertyValue

def type? : PropertyValue → Option PropertyType
  | title _ => some .title
  | richText _ => some .richText
  | number _ => some .number
  | select _ => some .select
  | multiSelect _ => some .multiSelect
  | date _ => some .date
  | checkbox _ => some .checkbox
  | url _ => some .url
  | email _ => some .email
  | phoneNumber _ => some .phoneNumber
  | unsupported _ => none

def typeName (value : PropertyValue) : String :=
  match value with
  | unsupported name => name
  | _ => (value.type?.map PropertyType.name).getD ""

def isTitle : PropertyValue → Bool
  | title _ => true
  | _ => false

def plainText? : PropertyValue → Option String
  | title runs | richText runs => some (plainText runs)
  | _ => none

end PropertyValue

abbrev PropertySet := Dict PropertyValue

namespace PropertySet

/-- The first title in the order of names. -/
def title? (properties : PropertySet) : Option (String × PropertyValue) :=
  properties.entries.find? fun entry => entry.2.isTitle

def titles (properties : PropertySet) : List PropertyValue :=
  (properties.entries.map Prod.snd).filter PropertyValue.isTitle

end PropertySet

/-- The name of the title of a page that lies under another page. -/
def parentTitle : String := "title"

end NoteBridge.Page
