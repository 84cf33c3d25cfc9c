import NoteBridge.Sync.Client

/-!
A client that keeps a record of its requests and fails where a plan says so. A request is recorded
first; one that the plan names fails with the plan's message and does nothing else.
-/

namespace NoteBridge.Sync

open Page (Block PropertySet)

inductive Call
  | create (parent : Parent) (properties : PropertySet) (blocks : List Block)
  | update (id : String) (properties : PropertySet)
  | append (id : String) (blocks : List Block)
  | delete (id : String)
  | list (id : String) (cursor : Option String)

inductive Method
  | create
  | update
  | append
  | delete
  | list
deriving DecidableEq, Repr

def Call.method : Call → Method
  | create .. => .create
  | update .. => .update
  | append .. => .append
  | delete _ => .delete
  | list .. => .list

/-- The request of a method, counted from zero, that is to fail. -/
structure PlannedFailure where
  method : Method
  index : Nat
  message : String

/-- A client's state with the requests made so far, in order. -/
structure Recorded (σ : Type) where
  state : σ
  calls : List Call := []

namespace Recorded

variable {σ : Type}

def plannedFailure? (plan : List PlannedFailure) (calls : List Call) (call : Call) :
    Option String :=
  let index := (calls.filter fun earlier => earlier.method == call.method).length
  (plan.find? fun failure => failure.method == call.method && failure.index == index).map
    PlannedFailure.message

def record (plan : List PlannedFailure) (call : Call) (r : Request σ α) :
    Request (Recorded σ) α := fun s =>
  let calls := s.calls ++ [call]
  match plannedFailure? plan s.calls call with
  | some message => .error message { s with calls }
  | none =>
    match r s.state with
    | .ok a state => .ok a { state, calls }
    | .error message state => .error message { state, calls }

def client (plan : List PlannedFailure) (c : Client σ) : Client (Recorded σ) where
  create parent properties blocks :=
    record plan (.create parent properties blocks) (c.create parent properties blocks)
  update id properties := record plan (.update id properties) (c.update id properties)
  append id blocks := record plan (.append id blocks) (c.append id blocks)
  delete id := record plan (.delete id) (c.delete id)
  list id cursor := record plan (.list id cursor) (c.list id cursor)

end Recorded
end NoteBridge.Sync
