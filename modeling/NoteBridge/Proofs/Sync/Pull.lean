import NoteBridge.Proofs.Sync.Shelf

/-!
Pulling a page. The run lists the page and descends into the blocks that bear children and have
some, so it unfolds what the service stores under the page. It ends even where the store leads back
to itself, since it gives up below the last level that the settings allow. What it gives depends on
the store alone, not on how its pages are cut.
-/

namespace NoteBridge.Sync

open Page (Block ListedBlock levels)

variable {σ : Type} {settings : Settings} {client : Client σ} {store : σ → Store} {s : Logged σ}

/-- A block of a listing with the children that are pulled for it. -/
def pullListed (settings : Settings) (client : Client σ) (levels : Nat) (remote : ListedBlock) :
    Run σ Block :=
  if !remote.block.kind.bearsChildren then pure { remote.block with children := [] }
  else if remote.hasChildren && remote.block.children.isEmpty then
    match remote.block.id with
    | none => pure remote.block
    | some id => do
      let children ← pullLevel settings client levels id
      pure { remote.block with children }
  else pure remote.block

theorem pullLevel_succ (levels : Nat) (parent : String) :
    pullLevel settings client (levels + 1) parent = (do
      let listed ← listAll client .client parent
      listed.mapM (pullListed settings client levels)) :=
  rfl

/-- How pulling a row can end when so many levels are allowed, by the exchanges it made. -/
inductive Pulled (store : Store) (limit levels : Nat) (fails : Prop) (entries : List Entry)
    (log : Log) : Except SyncError (List Block) → Prop
  | whole {blocks : List Block} : log.AllSucceeded → store.Unfolds entries blocks →
      (∀ depth e, store.Lies entries depth e → depth < levels) →
      Pulled store limit levels fails entries log (.ok blocks)
  | tooDeep {e : Entry} : log.AllSucceeded → store.Lies entries levels e →
      Pulled store limit levels fails entries log (.error (.transform (.depthExceeded limit)))
  | failed {message : String} : ¬log.AllSucceeded → fails →
      Pulled store limit levels fails entries log (.error (.client message))

section Rows

variable {row : Store} {limit levels : Nat} {fails : Prop} {entries : List Entry} {e : Entry}

theorem Pulled.cons {first rest : Log} {block : Block} {result : Except SyncError (List Block)}
    (h : Pulled row limit (levels + 1) fails [e] first (.ok [block]))
    (h' : Pulled row limit (levels + 1) fails entries rest result) :
    Pulled row limit (levels + 1) fails (e :: entries) (first ++ rest)
      (result.map (block :: ·)) := by
  cases h with
  | whole hall hunfolds hdepth =>
    cases h' with
    | whole hall' hunfolds' hdepth' =>
      refine .whole (List.forall_mem_append.2 ⟨hall, hall'⟩) (hunfolds.cons hunfolds') ?_
      intro depth f hlies
      rcases Store.lies_cons_iff.1 hlies with ⟨rfl, rfl⟩ | ⟨above, rfl, hbears, hlies⟩ | hlies
      · exact Nat.succ_pos levels
      · exact hdepth _ f (.deeper (List.mem_singleton_self e) hbears hlies)
      · exact hdepth' depth f hlies
    | tooDeep hall' hlies =>
      exact .tooDeep (List.forall_mem_append.2 ⟨hall, hall'⟩)
        (hlies.of_subset (List.subset_cons_self _ _))
    | failed hall' hfails =>
      exact .failed (fun h => hall' (List.forall_mem_append.1 h).2) hfails

theorem Pulled.after {before log : Log} {result : Except SyncError (List Block)}
    (h : Pulled row limit levels fails entries log result) (hall : before.AllSucceeded) :
    Pulled row limit levels fails entries (before ++ log) result := by
  cases h with
  | whole hall' hunfolds hdepth =>
    exact .whole (List.forall_mem_append.2 ⟨hall, hall'⟩) hunfolds hdepth
  | tooDeep hall' hlies => exact .tooDeep (List.forall_mem_append.2 ⟨hall, hall'⟩) hlies
  | failed hall' hfails => exact .failed (fun h => hall' (List.forall_mem_append.1 h).2) hfails

theorem Pulled.cons_of_error {log : Log} {error : SyncError}
    (h : Pulled row limit levels fails [e] log (.error error)) :
    Pulled row limit levels fails (e :: entries) log (.error error) := by
  cases h with
  | tooDeep hall hlies => exact .tooDeep hall (hlies.of_subset (by simp))
  | failed hall hfails => exact .failed hall hfails

/-- A block without children to be pulled. -/
theorem pulled_leaf (h : e.kind.bearsChildren = true → row.under e.id = []) :
    Pulled row limit (levels + 1) fails [e] [] (.ok [e.block []]) := by
  refine .whole (List.forall_mem_nil _) ?_ ?_
  · cases hbears : e.kind.bearsChildren with
    | true =>
      refine .bearing hbears ?_ .nil
      rw [h hbears]
      exact .nil
    | false => exact .leaf hbears .nil
  · intro depth f hlies
    rcases Store.lies_cons_iff.1 hlies with ⟨rfl, rfl⟩ | ⟨above, rfl, hbears, hlies⟩ | hlies
    · exact Nat.succ_pos levels
    · rw [h hbears] at hlies
      exact absurd hlies Store.not_lies_nil
    · exact absurd hlies Store.not_lies_nil

/-- A block with the children that have been pulled for it. -/
theorem Pulled.block {log : Log} {result : Except SyncError (List Block)}
    (hbears : e.kind.bearsChildren = true)
    (h : Pulled row limit levels fails (row.under e.id) log result) :
    Pulled row limit (levels + 1) fails [e] log
      (result.map fun children => [e.block children]) := by
  cases h with
  | whole hall hunfolds hdepth =>
    refine .whole hall (.bearing hbears hunfolds .nil) ?_
    intro depth f hlies
    rcases Store.lies_cons_iff.1 hlies with ⟨rfl, rfl⟩ | ⟨above, rfl, -, hlies⟩ | hlies
    · exact Nat.succ_pos levels
    · exact Nat.succ_lt_succ (hdepth above f hlies)
    · exact absurd hlies Store.not_lies_nil
  | tooDeep hall hlies =>
    exact .tooDeep hall (.deeper (List.mem_singleton_self e) hbears hlies)
  | failed hall hfails => exact .failed hall hfails

end Rows

section Runs

variable {paging : Paging client store} {row : Store} {limit levels : Nat}

/-- Pulling the row of an id ends as the store has it. -/
def PullsRow (settings : Settings) (paging : Paging client store) (row : Store) (levels : Nat)
    (id : String) : Prop :=
  ∀ s : Logged σ, store s.state = row →
    Reads store (pullLevel settings client.logged levels id) s
      (fun parent => parent = id ∨ row.Opens (row.under id) parent)
      (Pulled row settings.maxDepth levels paging.Fails (row.under id))

theorem pullListed_reads (hrow : ∀ id, row.under id ≠ [] → PullsRow settings paging row levels id)
    (e : Entry) (hs : store s.state = row) :
    Reads store (pullListed settings client.logged levels (row.listed e)) s (row.Opens [e])
      fun log result =>
        Pulled row settings.maxDepth (levels + 1) paging.Fails [e] log (result.map ([·])) := by
  cases hbears : e.kind.bearsChildren with
  | false =>
    have hleaf : pullListed settings client.logged levels (row.listed e) = pure (e.block []) := by
      simp [pullListed, Store.listed, Entry.block, hbears]
    rw [hleaf]
    exact reads_pure (pulled_leaf (by simp [hbears]))
  | true =>
    by_cases hempty : row.under e.id = []
    · have hleaf : pullListed settings client.logged levels (row.listed e) = pure (e.block []) := by
        simp [pullListed, Store.listed, Entry.block, hbears, hempty]
      rw [hleaf]
      exact reads_pure (pulled_leaf fun _ => hempty)
    · have hnode : pullListed settings client.logged levels (row.listed e) =
          (pullLevel settings client.logged levels e.id >>= fun children =>
            pure (e.block children)) := by
        simp [pullListed, Store.listed, Entry.block, hbears, hempty]
      rw [hnode]
      have hchildren := (hrow e.id hempty s hs).widen fun id h =>
        (Store.opens_of_bears (List.mem_singleton_self e) hbears hempty h : row.Opens [e] id)
      refine hchildren.bind (fun children s' log _ h => reads_pure ?_) fun error log h => ?_
      · rw [List.append_nil]
        exact h.block hbears
      · exact h.block hbears

theorem mapM_pullListed_reads
    (hrow : ∀ id, row.under id ≠ [] → PullsRow settings paging row levels id)
    (entries : List Entry) : ∀ s : Logged σ, store s.state = row →
      Reads store ((entries.map row.listed).mapM (pullListed settings client.logged levels)) s
        (row.Opens entries)
        (Pulled row settings.maxDepth (levels + 1) paging.Fails entries) := by
  induction entries with
  | nil =>
    intro s hs
    exact reads_pure (.whole (List.forall_mem_nil _) .nil fun _ _ h => absurd h Store.not_lies_nil)
  | cons e entries ih =>
    intro s hs
    rw [List.map_cons, List.mapM_cons]
    have hfirst := (pullListed_reads hrow e hs).widen fun id h =>
      (h.of_subset (by simp) : row.Opens (e :: entries) id)
    refine hfirst.bind (fun block s' log hs' h => ?_) fun error log h => h.cons_of_error
    have hrest := (ih ⟨s', s.log ++ log⟩ (hs'.trans hs)).widen fun id h =>
      (h.of_subset (List.subset_cons_self _ _) : row.Opens (e :: entries) id)
    refine hrest.bind (fun blocks s' log' _ h' => reads_pure ?_) fun error log' h' => h.cons h'
    rw [List.append_nil]
    exact h.cons h'

theorem pullLevel_reads (paging : Paging client store) (row : Store) (levels : Nat) :
    ∀ id, (levels = 0 → row.under id ≠ []) → PullsRow settings paging row levels id := by
  induction levels with
  | zero =>
    intro id hrow s hs
    -- No level is left for a row that is not empty: its first block lies too deep.
    obtain ⟨e, entries, he⟩ := List.exists_cons_of_ne_nil (hrow rfl)
    refine ⟨_, s.state, [], ?_, rfl, List.forall_mem_nil _, .tooDeep (List.forall_mem_nil _)
      (.here (e := e) (by rw [he]; exact List.mem_cons_self ..))⟩
    rw [List.append_nil]
    rfl
  | succ levels ih =>
    intro id _ s hs
    rw [pullLevel_succ]
    have hlist := (paging.listAll_reads .client id s).widen fun parent h =>
      (.inl h : parent = id ∨ row.Opens (row.under id) parent)
    refine hlist.bind (fun listed s' log hs' h => ?_) fun error log h => ?_
    · rcases h with ⟨hall, h⟩ | ⟨_, _, h, _⟩
      · cases h
        rw [hs]
        exact ((mapM_pullListed_reads (fun id hrow => ih id fun _ => hrow) (row.under id)
          ⟨s', s.log ++ log⟩ (hs'.trans hs)).widen fun _ => .inr).mono fun log' _ h => h.after hall
      · cases h
    · rcases h with ⟨_, h⟩ | ⟨hall, message, h, hfails⟩
      · cases h
      · cases h
        exact .failed hall hfails

end Runs

/-! ### Pulling with and without a log -/

theorem mapM_erases {α β : Type} {f : α → Run (Logged σ) β} {g : α → Run σ β}
    (h : ∀ a, Erases (f a) (g a)) (l : List α) : Erases (l.mapM f) (l.mapM g) := by
  induction l with
  | nil => exact erases_pure []
  | cons a l ih =>
    rw [List.mapM_cons, List.mapM_cons]
    exact (h a).bind fun b => ih.bind fun bs => erases_pure (b :: bs)

theorem pullLevel_erases (levels : Nat) : ∀ id,
    Erases (pullLevel settings client.logged levels id) (pullLevel settings client levels id) := by
  induction levels with
  | zero => exact fun _ _ => rfl
  | succ levels ih =>
    intro id
    refine listAll_erases.bind fun listed => mapM_erases (fun remote => ?_) listed
    change Erases (pullListed settings client.logged levels remote)
      (pullListed settings client levels remote)
    unfold pullListed
    split
    · exact erases_pure _
    · split
      · split
        · exact erases_pure _
        · next id _ => exact (ih id).bind fun children => erases_pure _
      · exact erases_pure _

theorem pull_erases (settings : Settings) (client : Client σ) (page : String) :
    Erases (pull settings client.logged page) (pull settings client page) :=
  pullLevel_erases _ page

/-! ### What a pull gives -/

/-- A pull ends as the store has it, with or without a log, and asks for nothing but the rows it
unfolds. -/
theorem pull_ends (settings : Settings) (paging : Paging client store) (page : String) (s : σ) :
    ∃ result s' log, pull settings client page s = some (result, s') ∧
      pull settings client.logged page ⟨s, []⟩ = some (result, ⟨s', log⟩) ∧
      (∀ exchange ∈ log, ∃ parent cursor, exchange.call = .list parent cursor ∧
        (parent = page ∨ (store s).Opens ((store s).under page) parent)) ∧
      Pulled (store s) settings.maxDepth (settings.maxDepth + 1) paging.Fails
        ((store s).under page) log result := by
  obtain ⟨result, s', log, hrun, -, hcalls, hend⟩ :=
    pullLevel_reads paging (store s) (settings.maxDepth + 1) page nofun ⟨s, []⟩ rfl
  change pull settings client.logged page ⟨s, []⟩ = _ at hrun
  have hplain := pull_erases settings client page ⟨s, []⟩
  rw [hrun] at hplain
  exact ⟨result, s', log, hplain.symm, hrun, hcalls, hend⟩

/-- Where the page's row unfolds, a pull without a failing request gives the blocks, if their levels
fit the limit. -/
theorem pull_of_unfolds (settings : Settings) (paging : Paging client store) (page : String) {s : σ}
    {blocks : List Block} (h : (store s).Unfolds ((store s).under page) blocks) :
    ∃ result s' log, pull settings client page s = some (result, s') ∧
      pull settings client.logged page ⟨s, []⟩ = some (result, ⟨s', log⟩) ∧
      ((log.AllSucceeded ∧ result =
          if levels blocks ≤ settings.maxDepth + 1 then .ok blocks
          else .error (.transform (.depthExceeded settings.maxDepth))) ∨
        (¬log.AllSucceeded ∧ paging.Fails ∧ ∃ message, result = .error (.client message))) := by
  obtain ⟨result, s', log, hrun, hlogged, -, hend⟩ := pull_ends settings paging page s
  refine ⟨result, s', log, hrun, hlogged, ?_⟩
  cases hend with
  | whole hall hunfolds hdepth =>
    refine .inl ⟨hall, ?_⟩
    split_ifs with hfits
    · rw [hunfolds.unique h]
    · obtain ⟨e, hlies⟩ := h.exists_lies_iff.2 (Nat.lt_of_not_le hfits)
      exact absurd (hdepth _ e hlies) (Nat.lt_irrefl _)
  | @tooDeep e hall hlies =>
    have hlt : settings.maxDepth + 1 < levels blocks := h.exists_lies_iff.1 ⟨e, hlies⟩
    exact .inl ⟨hall, by rw [if_neg (Nat.not_le_of_lt hlt)]⟩
  | @failed message hsome hfails => exact .inr ⟨hsome, hfails, message, rfl⟩

/-- Over a service that does not fail, the store alone decides how a pull ends. -/
theorem Pulled.unique {row : Store} {limit levels : Nat} {fails fails' : Prop}
    {entries : List Entry} {log log' : Log} {result result' : Except SyncError (List Block)}
    (h : Pulled row limit levels fails entries log result)
    (h' : Pulled row limit levels fails' entries log' result') (hf : ¬fails) (hf' : ¬fails') :
    result = result' := by
  cases h with
  | whole _ hunfolds hdepth =>
    cases h' with
    | whole _ hunfolds' _ => rw [hunfolds.unique hunfolds']
    | tooDeep _ hlies => exact absurd (hdepth _ _ hlies) (Nat.lt_irrefl _)
    | failed _ h => exact absurd h hf'
  | tooDeep _ hlies =>
    cases h' with
    | whole _ _ hdepth => exact absurd (hdepth _ _ hlies) (Nat.lt_irrefl _)
    | tooDeep _ _ => rfl
    | failed _ h => exact absurd h hf'
  | failed _ h => exact absurd h hf

/-- Over a service that does not fail, a pull ends with the blocks that the store unfolds to, where
none of them lies deeper than the settings allow, and says that they do otherwise. It asks for the
page and for the rows of blocks that bear children and have some, and for nothing else, and no
other service with the same store gives anything else, however it cuts its pages. -/
theorem pull_unfolds (settings : Settings) (paging : Paging client store)
    (reliable : ¬paging.Fails) (page : String) (s : σ) :
    ∃ result s' log, pull settings client page s = some (result, s') ∧
      pull settings client.logged page ⟨s, []⟩ = some (result, ⟨s', log⟩) ∧
      ((∀ depth e, (store s).Lies ((store s).under page) depth e → depth ≤ settings.maxDepth) →
        ∃ blocks, result = .ok blocks ∧ (store s).Unfolds ((store s).under page) blocks) ∧
      ((∃ depth e, (store s).Lies ((store s).under page) depth e ∧ settings.maxDepth < depth) →
        result = .error (.transform (.depthExceeded settings.maxDepth))) ∧
      (∀ exchange ∈ log, ∃ parent cursor, exchange.call = .list parent cursor ∧
        (parent = page ∨ (store s).Opens ((store s).under page) parent)) ∧
      ∀ (τ : Type) (other : Client τ) (store' : τ → Store) (paging' : Paging other store') (t : τ),
        ¬paging'.Fails → store' t = store s →
          ∃ t', pull settings other page t = some (result, t') := by
  obtain ⟨result, s', log, hrun, hlogged, hcalls, hend⟩ := pull_ends settings paging page s
  refine ⟨result, s', log, hrun, hlogged, fun hdepth => ?_, ?_, hcalls, ?_⟩
  · cases hend with
    | whole _ hunfolds _ => exact ⟨_, rfl, hunfolds⟩
    | tooDeep _ hlies => exact absurd (hdepth _ _ hlies) (Nat.not_succ_le_self _)
    | failed _ h => exact absurd h reliable
  · rintro ⟨depth, e, hlies, hlt⟩
    cases hend with
    | whole _ _ hdepth =>
      have := hdepth depth e hlies
      omega
    | tooDeep _ _ => rfl
    | failed _ h => exact absurd h reliable
  · intro τ other store' paging' t hreliable hstore
    obtain ⟨result', t', log', hrun', -, -, hend'⟩ := pull_ends settings paging' page t
    rw [hstore] at hend'
    rw [hend.unique hend' reliable hreliable]
    exact ⟨t', hrun'⟩

/-- A quote below itself, and beside it a page whose only list has an item and whose child page has
a divider. -/
def quotedShelf : Shelf := .ofRows 0
  [("quote", [⟨"quote", .text .quote []⟩]),
    ("page", [⟨"below", .childPage "Below"⟩, ⟨"list", .text .bulletedItem []⟩]),
    ("below", [⟨"divider", .divider⟩]), ("list", [⟨"item", .text .bulletedItem []⟩])]

theorem pull_quotedShelf :
    ¬(Shelf.paging fun _ => false).Fails ∧
    (∃ s, pull { maxDepth := 2 } (Shelf.client fun _ => false) "quote" quotedShelf =
      some (.error (.transform (.depthExceeded 2)), s)) ∧
    ∃ s, pull { maxDepth := 2 } (Shelf.client fun _ => false) "page" quotedShelf =
      some (.ok [⟨some "below", .childPage "Below", []⟩, ⟨some "list", .text .bulletedItem [],
        [⟨some "item", .text .bulletedItem [], []⟩]⟩], s) := by
  refine ⟨Shelf.paging_not_fails, ?_, ?_⟩
  · obtain ⟨result, s, log, hrun, -, -, hdeep, -⟩ := pull_unfolds { maxDepth := 2 }
      (Shelf.paging fun _ => false) Shelf.paging_not_fails "quote" quotedShelf
    have hself {depth : Nat} {e : Entry}
        (h : quotedShelf.store.Lies (quotedShelf.store.under "quote") depth e) :
        quotedShelf.store.Lies (quotedShelf.store.under "quote") (depth + 1) e :=
      .deeper (f := ⟨"quote", .text .quote []⟩) (List.mem_singleton_self _) rfl h
    have hlies := hself (hself (hself (.here (e := ⟨"quote", .text .quote []⟩)
      (List.mem_singleton_self _))))
    rw [hdeep ⟨3, _, hlies, by decide⟩] at hrun
    exact ⟨s, hrun⟩
  · obtain ⟨result, s, log, hrun, -, hwhole, -⟩ := pull_unfolds { maxDepth := 2 }
      (Shelf.paging fun _ => false) Shelf.paging_not_fails "page" quotedShelf
    have hpage : quotedShelf.store.Unfolds (quotedShelf.store.under "page")
        [⟨some "below", .childPage "Below", []⟩, ⟨some "list", .text .bulletedItem [],
          [⟨some "item", .text .bulletedItem [], []⟩]⟩] :=
      .leaf rfl (.bearing rfl (.bearing rfl .nil .nil) .nil)
    obtain ⟨blocks, rfl, hblocks⟩ := hwhole fun depth e hlies =>
      Nat.le_of_lt (hpage.exists_lies_iff.1 ⟨e, hlies⟩)
    rw [hblocks.unique hpage] at hrun
    exact ⟨s, hrun⟩

end NoteBridge.Sync
