import NoteBridge.Sync.Recorder
import NoteBridge.Sync.Run

/-!
What a run asks of its client and what it hears. An exchange is a call with its outcome, and a
logged client keeps the exchanges made so far beside its state. Keeping the log changes nothing: a
run over the logged client ends as the run over the client does, in the same state. A run answers
for its log when only the last exchange of a failed run has failed, and the error says which.
-/

namespace NoteBridge.Sync

open Page (Block ListedBlock PropertySet)

/-- What a call answers when it succeeds. -/
abbrev Call.Answer : Call → Type
  | .create .. => String
  | .list .. => Listing
  | .update .. | .append .. | .delete .. => Unit

structure Exchange where
  call : Call
  outcome : Except String call.Answer

namespace Exchange

def Succeeded (e : Exchange) : Prop := ∃ answer, e.outcome = .ok answer

/-- The page of a listing that the exchange brought. -/
def listing? : Exchange → Option Listing
  | ⟨.list .., .ok page⟩ => some page
  | _ => none

/-- The blocks that the service has taken in. -/
def blocks : Exchange → List Block
  | ⟨.create _ _ blocks, .ok _⟩ | ⟨.append _ blocks, .ok _⟩ => blocks
  | _ => []

/-- The block that the service has deleted. -/
def deleted : Exchange → List String
  | ⟨.delete id, .ok _⟩ => [id]
  | _ => []

end Exchange

abbrev Log := List Exchange

namespace Log

def AllSucceeded (log : Log) : Prop := ∀ e ∈ log, e.Succeeded

def calls (log : Log) : List Call := log.map Exchange.call

/-- The blocks that the service has taken in, in order. -/
def blocks (log : Log) : List Block := log.flatMap Exchange.blocks

def deleted (log : Log) : List String := log.flatMap Exchange.deleted

/-- The error of a run that stops at a failed call, after the exchanges of the log. -/
def errorAt (log : Log) (message : String) : Call → SyncError
  | .create .. | .update .. => .client message
  | .list .. => .stopped .listChildren 0 message
  | .delete _ => .stopped .deleteChildren log.deleted.length message
  | .append .. => .stopped .appendChildren log.blocks.length message

/-- How the result of a run answers for its calls: either all of them have succeeded, or the last
one has failed, the only one to do so, and the error is the error at that call. -/
def Answers {α : Type} (log : Log) : Except SyncError α → Prop
  | .ok _ => log.AllSucceeded
  | .error error => ∃ (before : Log) (call : Call) (message : String),
      log = before ++ [⟨call, .error message⟩] ∧ before.AllSucceeded ∧
        error = before.errorAt message call

theorem AllSucceeded.append {log : Log} {e : Exchange} (h : log.AllSucceeded)
    (he : e.Succeeded) : AllSucceeded (log ++ [e]) := by
  intro e' he'
  rcases List.mem_append.1 he' with he' | he'
  · exact h e' he'
  · rw [List.mem_singleton.1 he']
    exact he

/-- A run ends well exactly when every call has succeeded. -/
theorem Answers.isOk_iff {α : Type} {log : Log} {result : Except SyncError α}
    (h : log.Answers result) : (∃ a, result = .ok a) ↔ log.AllSucceeded := by
  cases result with
  | ok a => exact ⟨fun _ => h, fun _ => ⟨a, rfl⟩⟩
  | error error =>
    obtain ⟨before, call, message, rfl, _, _⟩ := h
    constructor
    · rintro ⟨a, ha⟩
      cases ha
    · intro hall
      obtain ⟨answer, ha⟩ := hall ⟨call, .error message⟩ (by simp)
      cases ha

end Log

/-! ### Keeping a log -/

/-- A client's state with the exchanges made so far, in order. -/
structure Logged (σ : Type) where
  state : σ
  log : Log := []

variable {σ α β : Type}

namespace Logged

def observe (call : Call) (r : Request σ call.Answer) : Request (Logged σ) call.Answer := fun s =>
  match r s.state with
  | .ok answer state => .ok answer ⟨state, s.log ++ [⟨call, .ok answer⟩]⟩
  | .error message state => .error message ⟨state, s.log ++ [⟨call, .error message⟩]⟩

end Logged

def Client.logged (client : Client σ) : Client (Logged σ) where
  create parent properties blocks :=
    Logged.observe (.create parent properties blocks) (client.create parent properties blocks)
  update id properties := Logged.observe (.update id properties) (client.update id properties)
  append id blocks := Logged.observe (.append id blocks) (client.append id blocks)
  delete id := Logged.observe (.delete id) (client.delete id)
  list id cursor := Logged.observe (.list id cursor) (client.list id cursor)

theorem Logged.observe_eq_ok {call : Call} {r : Request σ call.Answer} {s s' : Logged σ}
    {answer : call.Answer} (h : Logged.observe call r s = .ok answer s') :
    r s.state = .ok answer s'.state ∧ s'.log = s.log ++ [⟨call, .ok answer⟩] := by
  unfold Logged.observe at h
  split at h <;> cases h
  next hr => exact ⟨hr, rfl⟩

theorem Logged.observe_eq_error {call : Call} {r : Request σ call.Answer} {s s' : Logged σ}
    {message : String} (h : Logged.observe call r s = .error message s') :
    r s.state = .error message s'.state ∧ s'.log = s.log ++ [⟨call, .error message⟩] := by
  unfold Logged.observe at h
  split at h <;> cases h
  next hr => exact ⟨hr, rfl⟩

/-- An observed request adds its exchange to the log, and ends as the exchange did. -/
theorem request_observe (onFailure : String → SyncError) (call : Call)
    (r : Request σ call.Answer) (s : Logged σ) :
    (∃ answer state, r s.state = .ok answer state ∧
      request onFailure (Logged.observe call r) s =
        some (.ok answer, ⟨state, s.log ++ [⟨call, .ok answer⟩]⟩)) ∨
    (∃ message state, r s.state = .error message state ∧
      request onFailure (Logged.observe call r) s =
        some (.error (onFailure message), ⟨state, s.log ++ [⟨call, .error message⟩]⟩)) := by
  unfold request Logged.observe
  cases r s.state with
  | ok answer state => exact .inl ⟨answer, state, rfl, rfl⟩
  | error message state => exact .inr ⟨message, state, rfl, rfl⟩

/-! ### Running one after the other -/

theorem bind_of_ok {x : Run σ α} {f : α → Run σ β} {s s' : σ} {a : α}
    (h : x s = some (.ok a, s')) : (x >>= f) s = f a s' := by
  change (x s >>= _) = _
  rw [h]
  rfl

theorem bind_of_error {x : Run σ α} {f : α → Run σ β} {s s' : σ} {error : SyncError}
    (h : x s = some (.error error, s')) : (x >>= f) s = some (.error error, s') := by
  change (x s >>= _) = _
  rw [h]
  rfl

theorem bind_of_none {x : Run σ α} {f : α → Run σ β} {s : σ} (h : x s = none) :
    (x >>= f) s = none := by
  change (x s >>= _) = _
  rw [h]
  rfl

/-! ### The log changes nothing -/

/-- The run with a log ends as the other run does, in the same state. -/
def Erases (x : Run (Logged σ) α) (y : Run σ α) : Prop :=
  ∀ s, (x s).map (Prod.map id Logged.state) = y s.state

theorem erases_pure (a : α) : Erases (pure a : Run (Logged σ) α) (pure a) := fun _ => rfl

theorem erases_checked (result : Except Page.Fault α) :
    Erases (checked result : Run (Logged σ) α) (checked result) := by
  cases result <;> exact fun _ => rfl

theorem erases_observe (onFailure : String → SyncError) (call : Call)
    (r : Request σ call.Answer) :
    Erases (request onFailure (Logged.observe call r)) (request onFailure r) := by
  intro s
  unfold request Logged.observe
  cases r s.state <;> rfl

theorem Erases.bind {x : Run (Logged σ) α} {y : Run σ α} {f : α → Run (Logged σ) β}
    {g : α → Run σ β} (h : Erases x y) (hf : ∀ a, Erases (f a) (g a)) :
    Erases (x >>= f) (y >>= g) := by
  intro s
  have hs := h s
  rcases hx : x s with _ | ⟨error | a, s'⟩
  · rw [bind_of_none hx, bind_of_none (by rw [← hs, hx]; rfl)]
    rfl
  · rw [bind_of_error hx, bind_of_error (by rw [← hs, hx]; rfl)]
    rfl
  · rw [bind_of_ok hx, bind_of_ok (by rw [← hs, hx]; rfl)]
    exact hf a s'

end NoteBridge.Sync
