import NoteBridge.Sync.Client

/-!
Synchronisation runs. Creating a page sends its first blocks along and the others in batches;
replacing one updates its properties, deletes what it held and appends the new blocks; pulling one
reads it level by level. Nothing is requested after a failure, and a failure in the middle says how
much was done. A listing is followed for as long as the service names a further page, so a run over
a service that always names one does not end.
-/

namespace NoteBridge.Sync

open Page (Block Fault ListedBlock PropertySet)

/-- A page to be written. -/
structure TargetPage where
  properties : PropertySet
  children : List Block

/-- How runs are cut: blocks in one request, and levels below the first. -/
structure Settings where
  batchSize : Nat := 100
  maxDepth : Nat := 16

/-- From the state of the service to the result and the state it is left in; a run that does not
end has neither. -/
abbrev Run (σ α : Type) := ExceptT SyncError (StateT σ Option) α

variable {σ : Type}

/-- Requests once, and turns a failure into the error of the run. -/
def request (onFailure : String → SyncError) (r : Request σ α) : Run σ α := fun s =>
  match r s with
  | .ok a s => some (.ok a, s)
  | .error message s => some (.error (onFailure message), s)

def checked (result : Except Fault α) : Run σ α :=
  match result with
  | .ok a => pure a
  | .error fault => throw (.transform fault)

/-- What a listing shows from a cursor on, page after page. -/
def Client.listFrom (client : Client σ) (onFailure : String → SyncError) (parent : String)
    (cursor : Option String) (s : σ) : Option (Except SyncError (List ListedBlock) × σ) :=
  match client.list parent cursor s with
  | .error message s => some (.error (onFailure message), s)
  | .ok ⟨results, none⟩ s => some (.ok results, s)
  | .ok ⟨results, some next⟩ s => do
    let (rest, s) ← client |>.listFrom onFailure parent (some next) s
    some (rest.map (results ++ ·), s)
partial_fixpoint

/-- All that is listed under a parent. -/
def listAll (client : Client σ) (onFailure : String → SyncError) (parent : String) :
    Run σ (List ListedBlock) :=
  client.listFrom onFailure parent none

/-- Deletes the blocks that have an id. -/
def deleteAll (client : Client σ) (completed : Nat) : List ListedBlock → Run σ Unit
  | [] => pure ()
  | listed :: rest =>
    match listed.block.id with
    | none => deleteAll client completed rest
    | some id => do
      request (.stopped .deleteChildren completed) (client.delete id)
      deleteAll client (completed + 1) rest

/-- Consecutive batches of `size + 1` blocks, the last of which may be smaller. -/
def batches (size : Nat) (blocks : List Block) : List (List Block) :=
  match blocks with
  | [] => []
  | block :: rest =>
    (block :: rest.take size) :: batches size (rest.drop size)
termination_by blocks.length
decreasing_by
  simp only [List.length_drop, List.length_cons]
  omega

def appendAll (client : Client σ) (parent : String) (completed : Nat) :
    List (List Block) → Run σ Unit
  | [] => pure ()
  | batch :: rest => do
    request (.stopped .appendChildren completed) (client.append parent batch)
    appendAll client parent (completed + batch.length) rest

namespace Settings

/-- The size of a batch, which is never zero. -/
def batch (settings : Settings) : Nat := max settings.batchSize 1

def batchesOf (settings : Settings) (blocks : List Block) : List (List Block) :=
  batches (settings.batch - 1) blocks

end Settings

/-- Creates the page and answers its id. Under another page it keeps only its title. -/
def create (settings : Settings) (client : Client σ) (parent : Parent) (page : TargetPage) :
    Run σ String := do
  checked (Page.check page.children)
  let properties ←
    match parent with
    | .page _ => checked page.properties.forSubpage
    | .database _ => pure page.properties
  let first := page.children.take settings.batch
  let id ← request .client (client.create parent properties first)
  appendAll client id first.length (settings.batchesOf (page.children.drop settings.batch))
  pure id

/-- Replaces properties and content of a page. -/
def replace (settings : Settings) (client : Client σ) (id : String) (page : TargetPage) :
    Run σ Unit := do
  checked (Page.check page.children)
  request .client (client.update id page.properties)
  let old ← listAll client (.stopped .listChildren 0) id
  deleteAll client 0 old
  appendAll client id 0 (settings.batchesOf page.children)

/-- The blocks of a parent down to a number of levels. Children come with the listing or are listed
themselves; kinds that bear none lose them. -/
def pullLevel (settings : Settings) (client : Client σ) : Nat → String → Run σ (List Block)
  | 0, _ => throw (.transform (.depthExceeded settings.maxDepth))
  | levels + 1, parent => do
    let listed ← listAll client .client parent
    listed.mapM fun remote =>
      let block := remote.block
      if !block.kind.bearsChildren then pure { block with children := [] }
      else if remote.hasChildren && block.children.isEmpty then
        match block.id with
        | none => pure block
        | some id => do
          let children ← pullLevel settings client levels id
          pure { block with children }
      else pure block

/-- The whole content of a page. -/
def pull (settings : Settings) (client : Client σ) (id : String) : Run σ (List Block) :=
  pullLevel settings client (settings.maxDepth + 1) id

end NoteBridge.Sync
