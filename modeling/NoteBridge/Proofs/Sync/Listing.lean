import NoteBridge.Proofs.Sync.Exchange
import Mathlib.Logic.Function.Iterate

/-!
Listings, which are followed from page to page. What holds of a single page, and is passed on from
the pages behind to the page before, holds of every listing that ends; a listing does not end
exactly when the service names a further page for ever. Each page is asked for with the cursor that
the page before it has named.
-/

namespace NoteBridge.Sync

open Page (ListedBlock)

variable {σ : Type} {client : Client σ} {onFailure : String → SyncError} {parent : String}
  {cursor : Option String} {s s' : σ}

/-! ### From page to page -/

theorem listFrom_of_error {message : String} (h : client.list parent cursor s = .error message s') :
    client.listFrom onFailure parent cursor s = some (.error (onFailure message), s') := by
  rw [Client.listFrom, h]

theorem listFrom_of_last {page : Listing} (h : client.list parent cursor s = .ok page s')
    (hn : page.next = none) :
    client.listFrom onFailure parent cursor s = some (.ok page.results, s') := by
  obtain ⟨results, next⟩ := page
  cases hn
  rw [Client.listFrom, h]

theorem listFrom_of_next {page : Listing} {next : String}
    (h : client.list parent cursor s = .ok page s') (hn : page.next = some next) :
    client.listFrom onFailure parent cursor s =
      (client.listFrom onFailure parent (some next) s').map
        fun r => (r.1.map (page.results ++ ·), r.2) := by
  obtain ⟨results, _⟩ := page
  cases hn
  rw [Client.listFrom, h]
  simp only
  cases client.listFrom onFailure parent (some next) s' <;> rfl

/-- Induction over the pages of a listing that ends. -/
theorem listFrom_induct {P : Option String → σ → Except SyncError (List ListedBlock) → σ → Prop}
    (failed : ∀ cursor s message s', client.list parent cursor s = .error message s' →
      P cursor s (.error (onFailure message)) s')
    (last : ∀ cursor s page s', client.list parent cursor s = .ok page s' → page.next = none →
      P cursor s (.ok page.results) s')
    (next : ∀ cursor s page s₁ next result s', client.list parent cursor s = .ok page s₁ →
      page.next = some next → P (some next) s₁ result s' →
      P cursor s (result.map (page.results ++ ·)) s') :
    ∀ cursor s result s', client.listFrom onFailure parent cursor s = some (result, s') →
      P cursor s result s' := by
  intro cursor s result s' h
  refine Client.listFrom.partial_correctness client onFailure parent
    (fun cursor s r => P cursor s r.1 r.2) ?_ cursor s (result, s') h
  intro further ih cursor s r h
  rcases hp : client.list parent cursor s with ⟨⟨results, _ | cursor'⟩, s₁⟩ | ⟨message, s₁⟩
  · simp only [hp] at h
    cases h
    exact last _ _ _ _ hp rfl
  · simp only [hp] at h
    obtain ⟨⟨rest, s₂⟩, hr, hrest⟩ := Option.bind_eq_some_iff.1 h
    cases hrest
    exact next _ _ _ _ _ _ _ hp rfl (ih _ _ _ hr)
  · simp only [hp] at h
    cases h
    exact failed _ _ _ _ hp

/-! ### Listings without an end -/

/-- The service names a further page for ever, as it is asked for one after the other. -/
def Client.EndlessListing (client : Client σ) (parent : String) (cursor : Option String) (s : σ) :
    Prop :=
  ∃ path : Nat → Option String × σ, path 0 = (cursor, s) ∧
    ∀ n, ∃ results next, (path (n + 1)).1 = some next ∧
      client.list parent (path n).1 (path n).2 = .ok ⟨results, some next⟩ (path (n + 1)).2

/-- The cursor and state after the page at a cursor; the end of a listing stays where it is. -/
def Client.turn (client : Client σ) (parent : String) (place : Option String × σ) :
    Option String × σ :=
  match client.list parent place.1 place.2 with
  | .ok ⟨_, some next⟩ s => (some next, s)
  | _ => place

theorem endless_of_next {page : Listing} {next : String}
    (h : client.list parent cursor s = .ok page s') (hn : page.next = some next)
    (he : client.EndlessListing parent cursor s) :
    client.EndlessListing parent (some next) s' := by
  obtain ⟨path, h0, hstep⟩ := he
  refine ⟨fun n => path (n + 1), ?_, fun n => hstep (n + 1)⟩
  obtain ⟨results, further, hc, hl⟩ := hstep 0
  rw [h0, h] at hl
  injection hl with hpage hs
  rw [hpage] at hn
  cases hn
  exact Prod.ext hc hs.symm

/-- A page behind which the listing does not end has a further page. -/
theorem exists_next_of_eq_none (h : client.listFrom onFailure parent cursor s = none) :
    ∃ results next s', client.list parent cursor s = .ok ⟨results, some next⟩ s' ∧
      client.listFrom onFailure parent (some next) s' = none := by
  rcases hp : client.list parent cursor s with ⟨⟨results, _ | next⟩, s'⟩ | ⟨message, s'⟩
  · rw [listFrom_of_last hp rfl] at h
    cases h
  · refine ⟨results, next, s', rfl, ?_⟩
    rw [listFrom_of_next hp rfl] at h
    exact Option.map_eq_none_iff.1 h
  · rw [listFrom_of_error hp] at h
    cases h

theorem listFrom_eq_none_iff :
    client.listFrom onFailure parent cursor s = none ↔
      client.EndlessListing parent cursor s := by
  constructor
  · intro h
    have hall : ∀ n, client.listFrom onFailure parent ((client.turn parent)^[n] (cursor, s)).1
        ((client.turn parent)^[n] (cursor, s)).2 = none := by
      intro n
      induction n with
      | zero => exact h
      | succ n ih =>
        obtain ⟨results, next, s', hl, hr⟩ := exists_next_of_eq_none ih
        rw [Function.iterate_succ_apply', Client.turn, hl]
        exact hr
    refine ⟨fun n => (client.turn parent)^[n] (cursor, s), rfl, fun n => ?_⟩
    obtain ⟨results, next, s', hl, hr⟩ := exists_next_of_eq_none (hall n)
    refine ⟨results, next, ?_, ?_⟩ <;>
      simp only [Function.iterate_succ_apply', Client.turn, hl]
  · intro he
    rcases hr : client.listFrom onFailure parent cursor s with _ | ⟨result, s'⟩
    · rfl
    · refine absurd he (listFrom_induct (P := fun cursor s _ _ =>
        ¬client.EndlessListing parent cursor s) ?_ ?_ ?_ cursor s result s' hr)
      · rintro cursor s message s' hp ⟨path, h0, hstep⟩
        obtain ⟨results, next, _, hl⟩ := hstep 0
        rw [h0, hp] at hl
        cases hl
      · rintro cursor s page s' hp hn ⟨path, h0, hstep⟩
        obtain ⟨results, next, _, hl⟩ := hstep 0
        rw [h0, hp] at hl
        cases hl
        cases hn
      · intro cursor s page s₁ next result s' hp hn ih he
        exact ih (endless_of_next hp hn he)

/-! ### Listings in a log -/

/-- Each call lists the parent from the cursor that the page before it has named. -/
def FollowsCursors (parent : String) : Option String → Log → Prop
  | _, [] => True
  | cursor, e :: rest =>
    e.call = .list parent cursor ∧
      (rest ≠ [] → ∃ page next, e.listing? = some page ∧ page.next = some next ∧
        FollowsCursors parent (some next) rest)

theorem FollowsCursors.call_eq {log : Log} (h : FollowsCursors parent cursor log) :
    ∀ e ∈ log, ∃ reached, e.call = .list parent reached := by
  induction log generalizing cursor with
  | nil => exact List.forall_mem_nil _
  | cons e rest ih =>
    refine List.forall_mem_cons.2 ⟨⟨cursor, h.1⟩, ?_⟩
    by_cases hrest : rest = []
    · rw [hrest]
      exact List.forall_mem_nil _
    · obtain ⟨_, next, _, _, hnext⟩ := h.2 hrest
      exact ih hnext

/-- Listing takes nothing in and deletes nothing. -/
theorem FollowsCursors.flatMap_eq_nil {log : Log} {β : Type} {f : Exchange → List β}
    (hf : ∀ reached outcome, f ⟨.list parent reached, outcome⟩ = [])
    (h : FollowsCursors parent cursor log) : log.flatMap f = [] := by
  rw [List.flatMap_eq_nil_iff]
  rintro ⟨call, outcome⟩ he
  obtain ⟨reached, rfl⟩ := h.call_eq _ he
  exact hf reached outcome

namespace Log

/-- The blocks that the listings of a log have shown, in order. -/
def shown (log : Log) : List ListedBlock :=
  log.flatMap fun e => (e.listing?.map Listing.results).getD []

/-- The last exchange is a page that names no further one. -/
def EndsListing (log : Log) : Prop :=
  ∃ e page, log.getLast? = some e ∧ e.listing? = some page ∧ page.next = none

/-- What a listing leaves in the log: all of its pages, or those before the one that failed. -/
def Lists (onFailure : String → SyncError) (parent : String) (cursor : Option String) (log : Log) :
    Except SyncError (List ListedBlock) → Prop
  | .ok blocks => FollowsCursors parent cursor log ∧ log.AllSucceeded ∧ log.EndsListing ∧
      log.shown = blocks
  | .error error => FollowsCursors parent cursor log ∧ ∃ (before : Log) (reached : Option String)
      (message : String), log = before ++ [⟨.list parent reached, .error message⟩] ∧
        before.AllSucceeded ∧ error = onFailure message

end Log

theorem Log.Lists.cons {page : Listing} {next : String} {log : Log}
    {result : Except SyncError (List ListedBlock)} (hn : page.next = some next)
    (h : log.Lists onFailure parent (some next) result) :
    Log.Lists onFailure parent cursor (⟨.list parent cursor, .ok page⟩ :: log)
      (result.map (page.results ++ ·)) := by
  have hpage : Exchange.Succeeded ⟨.list parent cursor, .ok page⟩ := ⟨page, rfl⟩
  cases result with
  | ok blocks =>
    obtain ⟨hf, hall, ⟨e, last, hl, he, hlast⟩, rfl⟩ := h
    refine ⟨⟨rfl, fun _ => ⟨page, next, rfl, hn, hf⟩⟩, ?_, ⟨e, last, ?_, he, hlast⟩, rfl⟩
    · exact List.forall_mem_cons.2 ⟨hpage, hall⟩
    · rw [List.getLast?_cons, hl]
      rfl
  | error error =>
    obtain ⟨hf, before, reached, message, rfl, hall, rfl⟩ := h
    refine ⟨⟨rfl, fun _ => ⟨page, next, rfl, hn, hf⟩⟩, _ :: before, reached, message, rfl, ?_, rfl⟩
    exact List.forall_mem_cons.2 ⟨hpage, hall⟩

theorem listFrom_logged : ∀ (cursor : Option String) (s : Logged σ) result s',
    client.logged.listFrom onFailure parent cursor s = some (result, s') →
      ∃ log : Log, s'.log = s.log ++ log ∧ log.Lists onFailure parent cursor result := by
  apply listFrom_induct
  · intro cursor s message s' hp
    obtain ⟨_, hlog⟩ := Logged.observe_eq_error hp
    refine ⟨_, hlog, ⟨rfl, fun h => absurd rfl h⟩, [], cursor, message, rfl, ?_, rfl⟩
    exact List.forall_mem_nil _
  · intro cursor s page s' hp hn
    obtain ⟨_, hlog⟩ := Logged.observe_eq_ok hp
    refine ⟨_, hlog, ⟨rfl, fun h => absurd rfl h⟩, ?_, ⟨_, page, rfl, rfl, hn⟩, ?_⟩
    · exact List.forall_mem_singleton.2 ⟨page, rfl⟩
    · exact List.append_nil _
  · rintro cursor s page s₁ next result s' hp hn ⟨log, hlog, hl⟩
    obtain ⟨_, hlog₁⟩ := Logged.observe_eq_ok hp
    refine ⟨_, ?_, hl.cons hn⟩
    rw [hlog, hlog₁, List.append_assoc]
    rfl

theorem endless_of_logged {s : Logged σ} (h : client.logged.EndlessListing parent cursor s) :
    client.EndlessListing parent cursor s.state := by
  obtain ⟨path, h0, hstep⟩ := h
  refine ⟨fun n => ((path n).1, (path n).2.state), by simp only [h0], fun n => ?_⟩
  obtain ⟨results, next, hc, hl⟩ := hstep n
  exact ⟨results, next, hc, (Logged.observe_eq_ok hl).1⟩

theorem listAll_erases :
    Erases (listAll client.logged onFailure parent) (listAll client onFailure parent) := by
  intro s
  change (client.logged.listFrom onFailure parent none s).map _ =
    client.listFrom onFailure parent none s.state
  rcases h : client.logged.listFrom onFailure parent none s with _ | ⟨result, s'⟩
  · exact (listFrom_eq_none_iff.2 (endless_of_logged (listFrom_eq_none_iff.1 h))).symm
  · refine Eq.symm (listFrom_induct (P := fun cursor s result s' =>
      client.listFrom onFailure parent cursor s.state = some (result, s'.state)) ?_ ?_ ?_
      none s result s' h)
    · intro cursor s message s' hp
      exact listFrom_of_error (Logged.observe_eq_error hp).1
    · intro cursor s page s' hp hn
      exact listFrom_of_last (Logged.observe_eq_ok hp).1 hn
    · intro cursor s page s₁ next result s' hp hn ih
      rw [listFrom_of_next (Logged.observe_eq_ok hp).1 hn, ih]
      rfl

theorem not_endless_of_listAll {s : Logged σ} {r : Except SyncError (List ListedBlock) × Logged σ}
    (h : listAll client.logged onFailure parent s = some r) :
    ¬client.EndlessListing parent none s.state := by
  intro he
  have hs : _ = client.listFrom onFailure parent none s.state := listAll_erases s
  rw [h, listFrom_eq_none_iff.2 he] at hs
  cases hs

end NoteBridge.Sync
