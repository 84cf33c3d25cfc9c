import NoteBridge.Page.Wire.Property
import NoteBridge.Sync.Client

/-!
A service in memory. It keeps the properties of pages and, for each parent, the list of its blocks
as a listing shows them: without children, with an id and with the word whether there are some.
-/

namespace NoteBridge.Sync

open Page (Block BlockKind ListedBlock PropertySet)

structure Workspace where
  pageSize : Nat := 2
  properties : Dict PropertySet := ∅
  children : Dict (List Json) := ∅
  pages : Nat := 0
  blocks : Nat := 0

namespace Workspace

def listOf (w : Workspace) (parent : String) : List Json := (w.children.find? parent).getD []

/-- The JSON of a block in a listing. -/
def listedJson (id : String) (kind : BlockKind) (hasChildren : Bool) : Json :=
  match (Block.leaf kind).toJson with
  | .obj fields =>
    .obj (Entries.insert "has_children" (.bool hasChildren) (Entries.insert "id" (.str id) fields))
  | j => j

mutual

/-- Stores a block at the end of its parent's list, and its children under it. -/
def store (parent : String) (w : Workspace) : Block → Workspace
  | ⟨_, kind, children⟩ =>
    let id := "blk-" ++ toString (w.blocks + 1)
    let entry := listedJson id kind (!children.isEmpty)
    storeAll id
      { w with
        blocks := w.blocks + 1
        children := w.children.insert parent (w.listOf parent ++ [entry]) }
      children

def storeAll (parent : String) (w : Workspace) : List Block → Workspace
  | [] => w
  | block :: blocks => storeAll parent (store parent w block) blocks

end

def create (_ : Parent) (properties : PropertySet) (blocks : List Block) :
    Request Workspace String := do
  let w ← get
  let id := "new-" ++ toString (w.pages + 1)
  set (storeAll id
    { w with pages := w.pages + 1, properties := w.properties.insert id properties } blocks)
  pure id

def update (id : String) (properties : PropertySet) : Request Workspace Unit :=
  modify fun w => { w with properties := w.properties.insert id properties }

def append (parent : String) (blocks : List Block) : Request Workspace Unit :=
  modify fun w => storeAll parent w blocks

def remove (id : String) (items : List Json) : List Json :=
  items.filter fun item => item.stringField? "id" != some id

def delete (id : String) : Request Workspace Unit :=
  modify fun w => { w with children := w.children.map (remove id) }

/-- Entries from a start index on, as many as fit a page. -/
def list (parent : String) (cursor : Option String) : Request Workspace Listing := do
  let w ← get
  let items := w.listOf parent
  let start := (cursor.bind String.toNat?).getD 0
  let page := (items.drop start).take w.pageSize
  match page.mapM ListedBlock.ofJson with
  | .error cause => throw (Page.Fault.invalidWire cause).message
  | .ok results =>
    let reached := start + page.length
    pure { results, next := if reached < items.length then some (toString reached) else none }

def client : Client Workspace := { create, update, append, delete, list }

end Workspace
end NoteBridge.Sync
