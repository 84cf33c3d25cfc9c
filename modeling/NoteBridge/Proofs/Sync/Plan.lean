import NoteBridge.Proofs.Sync.Exchange

/-!
Rows of calls that are planned ahead: deleting listed blocks, and appending blocks in batches. Such
a run makes the calls of its plan in order, up to the first that fails. The batches are not empty,
none is larger than the settings allow, and together they are the blocks.
-/

namespace NoteBridge.Sync

open Page (Block ListedBlock)

variable {σ α : Type} {client : Client σ}

/-! ### Batches -/

/-- Batches that hold the blocks in order, none of them empty or too large. -/
structure Settings.Batching (settings : Settings) (blocks : List Block)
    (batches : List (List Block)) : Prop where
  flatten_eq : batches.flatten = blocks
  ne_nil : ∀ batch ∈ batches, batch ≠ []
  length_le : ∀ batch ∈ batches, batch.length ≤ settings.batch

theorem flatten_batches (size : Nat) (blocks : List Block) :
    (batches size blocks).flatten = blocks := by
  fun_induction batches size blocks with
  | case1 => rfl
  | case2 block rest ih =>
    rw [List.flatten_cons, ih]
    exact congrArg (block :: ·) (List.take_append_drop size rest)

theorem of_mem_batches {size : Nat} {blocks batch : List Block} (h : batch ∈ batches size blocks) :
    batch ≠ [] ∧ batch.length ≤ size + 1 := by
  fun_induction batches size blocks with
  | case1 => cases h
  | case2 block rest ih =>
    rcases List.mem_cons.1 h with rfl | h
    · refine ⟨List.cons_ne_nil _ _, ?_⟩
      simp only [List.length_cons, List.length_take]
      omega
    · exact ih h

theorem Settings.one_le_batch (settings : Settings) : 1 ≤ settings.batch := Nat.le_max_right _ _

theorem Settings.batching_batchesOf (settings : Settings) (blocks : List Block) :
    settings.Batching blocks (settings.batchesOf blocks) where
  flatten_eq := flatten_batches _ _
  ne_nil batch h := (of_mem_batches h).1
  length_le batch h := by
    have := (of_mem_batches h).2
    have := settings.one_le_batch
    omega

/-! ### Carrying out a plan -/

/-- Over a log of successes, the run makes the calls of the plan in order, up to the first that
fails, and answers for the log. -/
def CarriesOut (run : Run (Logged σ) Unit) (s : Logged σ) (plan : List Call) : Prop :=
  ∃ result state log, run s = some (result, ⟨state, s.log ++ log⟩) ∧
    Log.Answers (s.log ++ log) result ∧ log.calls <+: plan ∧
    (result = .ok () → log.calls = plan)

theorem carriesOut_pure {s : Logged σ} (hs : s.log.AllSucceeded) :
    CarriesOut (pure () : Run (Logged σ) Unit) s [] := by
  refine ⟨.ok (), s.state, [], ?_, ?_, List.prefix_rfl, fun _ => rfl⟩
  · rw [List.append_nil]
    rfl
  · rw [List.append_nil]
    exact hs

/-- The first call of a plan either fails, and its error is that of the run, or the rest of the
plan is carried out. -/
theorem carriesOut_cons {onFailure : String → SyncError} {call : Call}
    {r : Request σ call.Answer} {rest : call.Answer → Run (Logged σ) Unit} {s : Logged σ}
    {plan : List Call} (hs : s.log.AllSucceeded)
    (hf : ∀ message, onFailure message = s.log.errorAt message call)
    (hrest : ∀ answer state, Log.AllSucceeded (s.log ++ [⟨call, .ok answer⟩]) →
      CarriesOut (rest answer) ⟨state, s.log ++ [⟨call, .ok answer⟩]⟩ plan) :
    CarriesOut (request onFailure (Logged.observe call r) >>= rest) s (call :: plan) := by
  rcases request_observe onFailure call r s with ⟨answer, state, -, hr⟩ | ⟨message, state, -, hr⟩
  · obtain ⟨result, state', log, hrun, hans, hpre, hok⟩ :=
      hrest answer state (hs.append ⟨answer, rfl⟩)
    rw [List.append_assoc] at hrun hans
    refine ⟨result, state', ⟨call, .ok answer⟩ :: log, ?_, hans, ?_, fun h => ?_⟩
    · rw [bind_of_ok hr, hrun]
      rfl
    · exact List.prefix_cons_inj _ |>.2 hpre
    · exact congrArg (call :: ·) (hok h)
  · refine ⟨_, state, [⟨call, .error message⟩], bind_of_error hr, ?_, ?_, nofun⟩
    · exact ⟨s.log, call, message, rfl, hs, hf message⟩
    · exact ⟨plan, rfl⟩

/-! ### Deleting and appending -/

/-- The ids of listed blocks, where they have one. -/
def idsOf (listed : List ListedBlock) : List String :=
  listed.filterMap fun remote => remote.block.id

theorem deleteAll_carriesOut (client : Client σ) (listed : List ListedBlock) :
    ∀ (completed : Nat) (s : Logged σ), s.log.AllSucceeded → s.log.deleted.length = completed →
      CarriesOut (deleteAll client.logged completed listed) s ((idsOf listed).map .delete) := by
  induction listed with
  | nil => intro completed s hs _; exact carriesOut_pure hs
  | cons remote rest ih =>
    intro completed s hs hc
    cases hid : remote.block.id with
    | none =>
      have hids : idsOf (remote :: rest) = idsOf rest := List.filterMap_cons_none hid
      rw [deleteAll, hid, hids]
      exact ih completed s hs hc
    | some id =>
      have hids : idsOf (remote :: rest) = id :: idsOf rest := List.filterMap_cons_some hid
      rw [deleteAll, hid, hids]
      refine carriesOut_cons hs (fun message => ?_) fun answer state hall => ?_
      · rw [Log.errorAt, hc]
      · refine ih (completed + 1) _ hall ?_
        rw [Log.deleted, List.flatMap_append, List.length_append, ← hc, List.flatMap_singleton]
        rfl

theorem appendAll_carriesOut (client : Client σ) (parent : String) (batches : List (List Block)) :
    ∀ (completed : Nat) (s : Logged σ), s.log.AllSucceeded → s.log.blocks.length = completed →
      CarriesOut (appendAll client.logged parent completed batches) s
        (batches.map (.append parent)) := by
  induction batches with
  | nil => intro completed s hs _; exact carriesOut_pure hs
  | cons batch rest ih =>
    intro completed s hs hc
    rw [appendAll]
    refine carriesOut_cons hs (fun message => ?_) fun answer state hall => ?_
    · rw [Log.errorAt, hc]
    · refine ih (completed + batch.length) _ hall ?_
      rw [Log.blocks, List.flatMap_append, List.length_append, ← hc, List.flatMap_singleton]
      rfl

theorem deleteAll_erases (listed : List ListedBlock) : ∀ completed : Nat,
    Erases (deleteAll client.logged completed listed) (deleteAll client completed listed) := by
  induction listed with
  | nil => exact fun _ => erases_pure ()
  | cons remote rest ih =>
    intro completed
    cases hid : remote.block.id with
    | none =>
      simp only [deleteAll, hid]
      exact ih completed
    | some id =>
      simp only [deleteAll, hid]
      exact (erases_observe _ _ _).bind fun _ => ih (completed + 1)

theorem appendAll_erases (parent : String) (batches : List (List Block)) : ∀ completed : Nat,
    Erases (appendAll client.logged parent completed batches)
      (appendAll client parent completed batches) := by
  induction batches with
  | nil => exact fun _ => erases_pure ()
  | cons batch rest ih =>
    intro completed
    exact (erases_observe _ _ _).bind fun _ => ih (completed + batch.length)

/-! ### What a carried out plan has done -/

/-- What successful calls of a plan contribute to a log, when each call's part in it is known. -/
theorem flatMap_eq_of_calls_eq {β γ : Type} {f : Exchange → List β} {g : γ → List β}
    {make : γ → Call} (hf : ∀ c answer, f ⟨make c, .ok answer⟩ = g c) {log : Log} {plan : List γ}
    (hall : log.AllSucceeded) (h : log.calls = plan.map make) :
    log.flatMap f = plan.flatMap g := by
  induction log generalizing plan with
  | nil =>
    cases plan with
    | nil => rfl
    | cons c plan => cases h
  | cons e log ih =>
    cases plan with
    | nil => cases h
    | cons c plan =>
      obtain ⟨call, outcome⟩ := e
      obtain ⟨rfl, hrest⟩ := List.cons.inj h
      obtain ⟨⟨answer, ha⟩, hlog⟩ := List.forall_mem_cons.1 hall
      cases outcome with
      | error message => cases ha
      | ok answer => rw [List.flatMap_cons, List.flatMap_cons, hf, ih hlog hrest]

theorem deleted_eq {log : Log} {ids : List String} (hall : log.AllSucceeded)
    (h : log.calls = ids.map .delete) : log.deleted = ids :=
  (flatMap_eq_of_calls_eq (fun _ _ => rfl) hall h).trans (List.flatMap_singleton' ids)

theorem blocks_eq {log : Log} {parent : String} {batches : List (List Block)}
    (hall : log.AllSucceeded) (h : log.calls = batches.map (.append parent)) :
    log.blocks = batches.flatten :=
  (flatMap_eq_of_calls_eq (fun _ _ => rfl) hall h).trans List.flatMap_id

end NoteBridge.Sync
