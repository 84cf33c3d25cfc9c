import NoteBridge.Page.Validity
import NoteBridge.Page.Wire.Block

/-!
The service that holds pages, as seen by synchronisation: a state machine with five requests, each
of which answers or fails with a message. Children are listed page by page; the cursor of a page is
passed on to ask for the next one.
-/

namespace NoteBridge.Sync

open Page (Block Fault ListedBlock PropertySet)

/-- Where a new page is created. -/
inductive Parent
  | page (id : String)
  | database (id : String)
deriving DecidableEq, Repr

/-- One page of a listing, and the cursor of the next one if there is more. -/
structure Listing where
  results : List ListedBlock
  next : Option String

/-- A request to the service; a failing one may still change its state. -/
abbrev Request (σ α : Type) := EStateM String σ α

structure Client (σ : Type) where
  create : Parent → PropertySet → List Block → Request σ String
  update : String → PropertySet → Request σ Unit
  append : String → List Block → Request σ Unit
  delete : String → Request σ Unit
  list : String → Option String → Request σ Listing

/-- The part of a run that a failure interrupts. -/
inductive Stage
  | create
  | updateProperties
  | listChildren
  | deleteChildren
  | appendChildren
deriving DecidableEq, Repr

def Stage.name : Stage → String
  | create => "create page"
  | updateProperties => "update properties"
  | listChildren => "list children"
  | deleteChildren => "delete children"
  | appendChildren => "append children"

/-- Why a run stopped. -/
inductive SyncError
  | client (message : String)
  | stopped (stage : Stage) (completed : Nat) (message : String)
  | transform (fault : Fault)

def SyncError.message : SyncError → String
  | client message => "client request failed: " ++ message
  | stopped stage completed _ =>
    "sync stopped during " ++ stage.name ++ " after " ++ toString completed ++ " item(s)"
  | transform fault => fault.message

end NoteBridge.Sync
