import NoteBridge.Dict
import NoteBridge.Text.Search
import NoteBridge.Text.Small

/-!
Resolvers lead from the names in cross-references to pages, and from pages back to names. The name
index is the resolver built from a table of names: it finds a name in any case, and a note in a
folder or with its file ending by its bare name.
-/

namespace NoteBridge

structure Resolver where
  page? : String → Option String
  name? : String → Option String

namespace Resolver

/-- Knows no page. -/
def empty : Resolver := ⟨fun _ => none, fun _ => none⟩

end Resolver

/-- Pages by the small letters of their names, and names by page. -/
structure NameIndex where
  pages : Dict String := ∅
  names : Dict String := ∅

namespace NameIndex

open Text

def insert (index : NameIndex) (name page : String) : NameIndex :=
  ⟨index.pages.insert (toSmallString name) page, index.names.insert page name⟩

def ofList (entries : List (String × String)) : NameIndex :=
  entries.foldl (fun index (name, page) => index.insert name page) {}

def size (index : NameIndex) : Nat := index.pages.size

/-- The last part of a path, without the ending of a note. -/
def bareName (path : List Char) : List Char :=
  let part := takeEndWhile (· != '/') path
  (before? ['.', 'm', 'd'] part).getD part

def page? (index : NameIndex) (target : String) : Option String :=
  let key := toSmall (trim target.toList)
  match index.pages.find? (String.ofList key) with
  | some page => some page
  | none => index.pages.find? (String.ofList (bareName key))

def name? (index : NameIndex) (page : String) : Option String := index.names.find? page

def resolver (index : NameIndex) : Resolver := ⟨index.page?, index.name?⟩

end NameIndex
end NoteBridge
