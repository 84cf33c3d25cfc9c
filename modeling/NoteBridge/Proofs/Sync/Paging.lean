import NoteBridge.Proofs.Sync.Listing
import NoteBridge.Proofs.Sync.Store

/-!
Services that show what they store page by page. A page may be of any size that is not zero, pages
follow one another without a gap, and a request that fails changes nothing. A listing over such a
service ends: with the whole row, or with the failure of a request.
-/

namespace NoteBridge.Sync

open Page (Block ListedBlock)

/-- A client that lists the rows of its store in consecutive pages. -/
structure Paging {σ : Type} (client : Client σ) (store : σ → Store) where
  /-- In a state, the cursor stands in front of the block of that number in the parent's row. -/
  At : σ → String → Option String → Nat → Prop
  start : ∀ s parent, At s parent none 0
  page : ∀ {s s' parent cursor n page}, At s parent cursor n →
    client.list parent cursor s = .ok page s' → store s' = store s ∧ ∃ size, 1 ≤ size ∧
      page.results = (((store s).listing parent).drop n).take size ∧
      match page.next with
      | none => ((store s).listing parent).length ≤ n + size
      | some next =>
        n + size < ((store s).listing parent).length ∧ At s' parent (some next) (n + size)
  failed : ∀ {s s' parent cursor message}, client.list parent cursor s = .error message s' →
    store s' = store s

variable {σ : Type} {client : Client σ} {store : σ → Store}

/-! ### Runs that read -/

/-- A run that reads: it leaves the store as it is, and all it calls for is the rows of some ids. -/
def Reads (store : σ → Store) (run : Run (Logged σ) α) (s : Logged σ) (ids : String → Prop)
    (ends : Log → Except SyncError α → Prop) : Prop :=
  ∃ result s' log, run s = some (result, ⟨s', s.log ++ log⟩) ∧ store s' = store s.state ∧
    (∀ e ∈ log, ∃ parent cursor, e.call = .list parent cursor ∧ ids parent) ∧ ends log result

variable {α β : Type} {s : Logged σ} {ids ids' : String → Prop}
  {ends ends' : Log → Except SyncError α → Prop}

theorem reads_pure {a : α} (h : ends [] (.ok a)) : Reads store (pure a) s ids ends := by
  refine ⟨.ok a, s.state, [], ?_, rfl, List.forall_mem_nil _, h⟩
  rw [List.append_nil]
  rfl

theorem Reads.widen {run : Run (Logged σ) α} (h : Reads store run s ids ends)
    (hids : ∀ id, ids id → ids' id) : Reads store run s ids' ends := by
  obtain ⟨result, s', log, hrun, hstore, hcalls, hend⟩ := h
  refine ⟨result, s', log, hrun, hstore, fun e he => ?_, hend⟩
  obtain ⟨parent, cursor, hcall, hid⟩ := hcalls e he
  exact ⟨parent, cursor, hcall, hids parent hid⟩

theorem Reads.mono {run : Run (Logged σ) α} (h : Reads store run s ids ends)
    (hends : ∀ log result, ends log result → ends' log result) : Reads store run s ids ends' := by
  obtain ⟨result, s', log, hrun, hstore, hcalls, hend⟩ := h
  exact ⟨result, s', log, hrun, hstore, hcalls, hends log result hend⟩

theorem Reads.bind {x : Run (Logged σ) α} {f : α → Run (Logged σ) β}
    {endsBoth : Log → Except SyncError β → Prop} (h : Reads store x s ids ends)
    (hok : ∀ a s' log, store s' = store s.state → ends log (.ok a) →
      Reads store (f a) ⟨s', s.log ++ log⟩ ids fun log' => endsBoth (log ++ log'))
    (herror : ∀ error log, ends log (.error error) → endsBoth log (.error error)) :
    Reads store (x >>= f) s ids endsBoth := by
  obtain ⟨result, s', log, hrun, hstore, hcalls, hend⟩ := h
  cases result with
  | error error =>
    exact ⟨_, s', log, bind_of_error hrun, hstore, hcalls, herror error log hend⟩
  | ok a =>
    obtain ⟨result, s₂, log', hrun', hstore', hcalls', hend'⟩ := hok a s' log hstore hend
    refine ⟨result, s₂, log ++ log', ?_, hstore'.trans hstore, ?_, hend'⟩
    · rw [bind_of_ok hrun, hrun', List.append_assoc]
    · exact List.forall_mem_append.2 ⟨hcalls, hcalls'⟩

/-! ### Listings -/

namespace Paging

/-- A request for a page that there is may fail. -/
def Fails (paging : Paging client store) : Prop :=
  ∃ s parent cursor n message s', paging.At s parent cursor n ∧
    client.list parent cursor s = .error message s'

/-- A listing is followed to its end from wherever a cursor stands. -/
theorem listFrom (paging : Paging client store) (onFailure : String → SyncError)
    {parent : String} {row : List ListedBlock} :
    ∀ (left : Nat) (s : σ) (cursor : Option String) (n : Nat), row.length - n ≤ left →
      (store s).listing parent = row → paging.At s parent cursor n →
      ∃ result s', client.listFrom onFailure parent cursor s = some (result, s') ∧
        store s' = store s ∧
        (result = .ok (row.drop n) ∨ ∃ message, result = .error (onFailure message) ∧
          paging.Fails) := by
  intro left
  -- A page takes at least one block, so fewer are left behind the next cursor.
  induction left using Nat.strongRecOn with
  | ind left ih =>
    intro s cursor n hleft hrow hat
    rcases h : client.list parent cursor s with ⟨page, s'⟩ | ⟨message, s'⟩
    · obtain ⟨hstore, size, hsize, hresults, hnext⟩ := paging.page hat h
      rw [hrow] at hresults hnext
      rcases hn : page.next with _ | next
      · rw [hn] at hnext
        refine ⟨_, s', listFrom_of_last h hn, hstore, .inl ?_⟩
        rw [hresults, List.take_of_length_le (by rw [List.length_drop]; omega)]
      · rw [hn] at hnext
        obtain ⟨hlt, hat'⟩ := hnext
        obtain ⟨result, s₂, hrun, hstore₂, hresult⟩ :=
          ih (row.length - (n + size)) (by omega) s' (some next) (n + size) (Nat.le_refl _)
            (by rw [hstore, hrow]) hat'
        refine ⟨result.map (page.results ++ ·), s₂, ?_, hstore₂.trans hstore, ?_⟩
        · rw [listFrom_of_next h hn, hrun]
          rfl
        · rcases hresult with rfl | ⟨message, rfl, hfails⟩
          · refine .inl (congrArg Except.ok ?_)
            rw [hresults, ← List.drop_drop]
            exact List.take_append_drop _ _
          · exact .inr ⟨message, rfl, hfails⟩
    · exact ⟨_, s', listFrom_of_error h, paging.failed h,
        .inr ⟨message, rfl, s, parent, cursor, n, message, s', hat, h⟩⟩

theorem listAll (paging : Paging client store) (onFailure : String → SyncError) (parent : String)
    (s : σ) :
    ∃ result s', listAll client onFailure parent s = some (result, s') ∧ store s' = store s ∧
      (result = .ok ((store s).listing parent) ∨ ∃ message, result = .error (onFailure message) ∧
        paging.Fails) :=
  paging.listFrom onFailure _ s none 0 (Nat.le_refl _) rfl (paging.start s parent)

/-- A listing over the logged client: all its calls are for the parent, and either all of them have
succeeded or the listing has failed. -/
theorem listAll_reads (paging : Paging client store) (onFailure : String → SyncError)
    (parent : String) (s : Logged σ) :
    Reads store (Sync.listAll client.logged onFailure parent) s (· = parent) fun log result =>
      (log.AllSucceeded ∧ result = .ok ((store s.state).listing parent)) ∨
        (¬log.AllSucceeded ∧ ∃ message, result = .error (onFailure message) ∧ paging.Fails) := by
  obtain ⟨result, s', hrun, hstore, hresult⟩ := paging.listAll onFailure parent s.state
  have herases : Erases (Sync.listAll client.logged onFailure parent)
    (Sync.listAll client onFailure parent) := listAll_erases
  specialize herases s
  rw [hrun] at herases
  obtain ⟨⟨result', t⟩, hlogged, hpair⟩ := Option.map_eq_some_iff.1 herases
  cases hpair
  change result' = _ ∨ _ at hresult
  obtain ⟨log, hlog, hlists⟩ := listFrom_logged none s _ t hlogged
  refine ⟨result', t.state, log, ?_, hstore, ?_, ?_⟩
  · rw [hlogged, ← hlog]
  · intro e he
    have hfollows : FollowsCursors parent none log := by
      rcases hresult with rfl | ⟨message, rfl, -⟩
      · exact hlists.1
      · exact hlists.1
    obtain ⟨reached, hcall⟩ := hfollows.call_eq e he
    exact ⟨parent, reached, hcall, rfl⟩
  · rcases hresult with rfl | ⟨message, rfl, hfails⟩
    · exact .inl ⟨hlists.2.1, rfl⟩
    · refine .inr ⟨?_, message, rfl, hfails⟩
      obtain ⟨-, before, reached, reason, rfl, -, -⟩ := hlists
      intro hall
      obtain ⟨answer, h⟩ := hall ⟨.list parent reached, .error reason⟩ (by simp)
      cases h

end Paging
end NoteBridge.Sync
