import NoteBridge.Proofs.Sync.Listing
import NoteBridge.Proofs.Sync.Plan

/-!
The order of a run's calls, and what its result says about them. Replacing a page updates its
properties, lists what it holds, deletes that and appends the new blocks; creating one sends the
first blocks along and appends the others. Both stop at the first call that fails, and the error
counts what was done until then. This holds over every client, whichever of its calls fail.
-/

namespace NoteBridge.Sync

open Page (Block Fault ListedBlock PropertySet PropertyValue)

variable {σ : Type} {settings : Settings} {client : Client σ} {id : String} {parent : Parent}
  {page : TargetPage}

/-! ### Replacing -/

/-- The calls of `replace`, as far as they came: the update, the pages of the listing, one deletion
for each listed block with an id, and the appended batches. -/
structure ReplacePhases (settings : Settings) (id : String) (page : TargetPage)
    (update : Exchange) (listings deletions appends : Log) (result : Except SyncError Unit) :
    Prop where
  update_call : update.call = .update id page.properties
  listings_calls : FollowsCursors id none listings
  deletions_calls : deletions.calls <+: (idsOf listings.shown).map .delete
  appends_calls : ∃ batches, settings.Batching page.children batches ∧
    appends.calls <+: batches.map (.append id)
  endsListing : deletions ≠ [] ∨ appends ≠ [] ∨ result = .ok () → listings.EndsListing
  deleted_eq : appends ≠ [] ∨ result = .ok () → deletions.deleted = idsOf listings.shown
  blocks_eq : result = .ok () → appends.blocks = page.children

def ReplaceLog (settings : Settings) (id : String) (page : TargetPage) (log : Log)
    (result : Except SyncError Unit) : Prop :=
  log.Answers result ∧ ∃ update listings deletions appends,
    log = update :: (listings ++ deletions ++ appends) ∧
      ReplacePhases settings id page update listings deletions appends result

theorem replace_erases :
    Erases (replace settings client.logged id page) (replace settings client id page) :=
  (erases_checked _).bind fun _ => (erases_observe _ _ _).bind fun _ =>
    listAll_erases.bind fun old => (deleteAll_erases old 0).bind fun _ =>
      appendAll_erases id _ 0

theorem replace_of_invalid {fault : Fault} (h : Page.check page.children = .error fault) (s : σ) :
    replace settings client id page s = some (.error (.transform fault), s) := by
  unfold replace
  rw [h]
  rfl

/-- What follows the update. -/
def refill (settings : Settings) (client : Client σ) (id : String) (blocks : List Block) :
    Run σ Unit := do
  let old ← listAll client (.stopped .listChildren 0) id
  deleteAll client 0 old
  appendAll client id 0 (settings.batchesOf blocks)

theorem replace_of_valid (h : Page.check page.children = .ok ()) (s : σ) :
    replace settings client id page s =
      (request .client (client.update id page.properties) >>= fun _ =>
        refill settings client id page.children : Run σ Unit) s := by
  unfold replace
  rw [h]
  rfl

/-- Deletions, and once all of them have succeeded the appended batches. -/
theorem exchange_logged (client : Client σ) (id : String) (old : List ListedBlock)
    (batches : List (List Block)) {s : Logged σ} (hs : s.log.AllSucceeded) (hd : s.log.deleted = [])
    (hb : s.log.blocks = []) :
    ∃ result state, ∃ deletions appends : Log,
      (deleteAll client.logged 0 old >>= fun _ => appendAll client.logged id 0 batches) s =
        some (result, ⟨state, s.log ++ (deletions ++ appends)⟩) ∧
      Log.Answers (s.log ++ (deletions ++ appends)) result ∧
      deletions.calls <+: (idsOf old).map .delete ∧ appends.calls <+: batches.map (.append id) ∧
      (appends ≠ [] ∨ result = .ok () → deletions.deleted = idsOf old) ∧
      (result = .ok () → appends.blocks = batches.flatten) := by
  obtain ⟨result, state, deletions, hrun, hans, hpre, hok⟩ :=
    deleteAll_carriesOut client old 0 s hs (by rw [hd]; rfl)
  cases result with
  | error error =>
    refine ⟨.error error, state, deletions, [], ?_, ?_, hpre, List.nil_prefix, ?_, nofun⟩
    · rw [List.append_nil]
      exact bind_of_error hrun
    · rw [List.append_nil]
      exact hans
    · rintro (h | h) <;> contradiction
  | ok =>
    have hdel : deletions.AllSucceeded := fun e he => hans e (List.mem_append_right _ he)
    have hnone : Log.blocks (s.log ++ deletions) = [] := by
      rw [Log.blocks, List.flatMap_append,
        flatMap_eq_of_calls_eq (g := fun _ => []) (fun _ _ => rfl) hdel (hok rfl)]
      rw [Log.blocks] at hb
      rw [hb, List.nil_append, List.flatMap_eq_nil_iff]
      exact fun _ _ => rfl
    obtain ⟨result, state', appends, hrun', hans', hpre', hok'⟩ :=
      appendAll_carriesOut client id batches 0 ⟨state, s.log ++ deletions⟩ hans
        (by rw [hnone]; rfl)
    refine ⟨result, state', deletions, appends, ?_, ?_, hpre, hpre', ?_, ?_⟩
    · rw [bind_of_ok hrun, hrun', List.append_assoc]
    · rw [← List.append_assoc]
      exact hans'
    · exact fun _ => deleted_eq hdel (hok rfl)
    · rintro rfl
      exact blocks_eq (fun e he => hans' e (List.mem_append_right _ he)) (hok' rfl)

/-- A run that fails before anything is deleted. -/
theorem ReplacePhases.of_error {update : Exchange} {listings : Log} {error : SyncError}
    (hu : update.call = .update id page.properties) (hl : FollowsCursors id none listings) :
    ReplacePhases settings id page update listings [] [] (.error error) where
  update_call := hu
  listings_calls := hl
  deletions_calls := List.nil_prefix
  appends_calls := ⟨_, settings.batching_batchesOf page.children, List.nil_prefix⟩
  endsListing := by rintro (h | h | h) <;> contradiction
  deleted_eq := by rintro (h | h) <;> contradiction
  blocks_eq := nofun

/-- The update of a page, when it has succeeded. -/
def updated (id : String) (page : TargetPage) : Exchange := ⟨.update id page.properties, .ok ()⟩

theorem updated_succeeded (id : String) (page : TargetPage) : (updated id page).Succeeded :=
  ⟨(), rfl⟩

theorem refill_of_failed {s : σ} {error : SyncError} {final : Logged σ}
    (h : listAll client.logged (.stopped .listChildren 0) id ⟨s, [updated id page]⟩ =
      some (.error error, final)) :
    refill settings client.logged id page.children ⟨s, [updated id page]⟩ =
        some (.error error, final) ∧
      ReplaceLog settings id page final.log (.error error) := by
  obtain ⟨listings, hlog, hfollows, before, reached, message, hlistings, hall, rfl⟩ :=
    listFrom_logged _ _ _ _ h
  refine ⟨bind_of_error h, ?_, updated id page, listings, [], [], ?_, .of_error rfl hfollows⟩
  · refine ⟨updated id page :: before, .list id reached, message, ?_,
      List.forall_mem_cons.2 ⟨updated_succeeded id page, hall⟩, rfl⟩
    rw [hlog, hlistings]
    rfl
  · rw [hlog, List.append_nil, List.append_nil]
    rfl

theorem refill_of_listed {s : σ} {old : List ListedBlock} {listed : Logged σ}
    (h : listAll client.logged (.stopped .listChildren 0) id ⟨s, [updated id page]⟩ =
      some (.ok old, listed)) :
    ∃ result final, refill settings client.logged id page.children ⟨s, [updated id page]⟩ =
        some (result, final) ∧
      ReplaceLog settings id page final.log result := by
  obtain ⟨listings, hlog, hfollows, hall, hend, rfl⟩ := listFrom_logged _ _ _ _ h
  have hbatches := settings.batching_batchesOf page.children
  have hlisted : listed.log = updated id page :: listings := hlog
  have hsucceeded : listed.log.AllSucceeded := by
    rw [hlisted]
    exact List.forall_mem_cons.2 ⟨updated_succeeded id page, hall⟩
  have hdeleted : listed.log.deleted = [] := by
    have hnone : listings.deleted = [] := hfollows.flatMap_eq_nil fun _ _ => rfl
    rw [hlisted]
    exact hnone
  have hblocks : listed.log.blocks = [] := by
    have hnone : listings.blocks = [] := hfollows.flatMap_eq_nil fun _ _ => rfl
    rw [hlisted]
    exact hnone
  obtain ⟨result, state, deletions, appends, hrun, hans, hd, ha, hdel, happ⟩ :=
    exchange_logged client id listings.shown (settings.batchesOf page.children) hsucceeded
      hdeleted hblocks
  refine ⟨result, ⟨state, listed.log ++ (deletions ++ appends)⟩, (bind_of_ok h).trans hrun, hans,
    updated id page, listings, deletions, appends, ?_, ?_⟩
  · rw [hlisted, List.append_assoc]
    rfl
  · exact
      { update_call := rfl
        listings_calls := hfollows
        deletions_calls := hd
        appends_calls := ⟨_, hbatches, ha⟩
        endsListing := fun _ => hend
        deleted_eq := hdel
        blocks_eq := fun h => (happ h).trans hbatches.flatten_eq }

/-- After the update comes a listing that either has no end, or ends and lets the deletions follow,
and the appended batches after them. -/
theorem refill_logged (settings : Settings) (client : Client σ) (id : String) (page : TargetPage)
    (s : σ) :
    (client.EndlessListing id none s ∧
      refill settings client.logged id page.children ⟨s, [updated id page]⟩ = none) ∨
    (¬client.EndlessListing id none s ∧ ∃ result final,
      refill settings client.logged id page.children ⟨s, [updated id page]⟩ =
        some (result, final) ∧
      ReplaceLog settings id page final.log result) := by
  rcases h : listAll client.logged (.stopped .listChildren 0) id ⟨s, [updated id page]⟩ with
    _ | ⟨error | old, final⟩
  · exact .inl ⟨endless_of_logged (listFrom_eq_none_iff.1 h), bind_of_none h⟩
  · exact .inr ⟨not_endless_of_listAll h, .error error, final, refill_of_failed h⟩
  · exact .inr ⟨not_endless_of_listAll h, refill_of_listed h⟩

theorem replace_logged (h : Page.check page.children = .ok ()) (s : σ) :
    ((∃ s', client.update id page.properties s = .ok () s' ∧ client.EndlessListing id none s') ∧
      replace settings client.logged id page ⟨s, []⟩ = none) ∨
    ((¬∃ s', client.update id page.properties s = .ok () s' ∧
        client.EndlessListing id none s') ∧
      ∃ result final, replace settings client.logged id page ⟨s, []⟩ = some (result, final) ∧
        ReplaceLog settings id page final.log result) := by
  rw [replace_of_valid h]
  rcases request_observe .client (.update id page.properties) (client.update id page.properties)
    ⟨s, []⟩ with ⟨answer, s', hs', hu⟩ | ⟨message, s', hs', hu⟩
  · rw [bind_of_ok (x := request .client (client.logged.update id page.properties)) hu]
    rcases refill_logged settings client id page s' with ⟨hend, hrun⟩ | ⟨hend, hrun⟩
    · exact .inl ⟨⟨s', hs', hend⟩, hrun⟩
    · refine .inr ⟨?_, hrun⟩
      rintro ⟨s₂, hs₂, he⟩
      rw [hs'] at hs₂
      cases hs₂
      exact hend he
  · refine .inr ⟨?_, _, _, bind_of_error hu, ?_⟩
    · rintro ⟨s₂, hs₂, _⟩
      rw [hs'] at hs₂
      cases hs₂
    · exact ⟨⟨[], _, message, rfl, List.forall_mem_nil _, rfl⟩, _, [], [], [], rfl,
        .of_error rfl trivial⟩

/-- Replacing a page. Invalid blocks are reported before any call. Otherwise the run fails to end
only where the service never ends a listing, and a run that ends makes its calls in order: what
update, listing, deletions and appended batches came to stands in the log, only the last call can
have failed, and the result says which one and how far the run came. -/
theorem replace_log (settings : Settings) (client : Client σ) (id : String) (page : TargetPage)
    (s : σ) :
    Erases (replace settings client.logged id page) (replace settings client id page) ∧
    (∀ fault, Page.check page.children = .error fault →
      replace settings client.logged id page ⟨s, []⟩ =
        some (.error (.transform fault), ⟨s, []⟩)) ∧
    (Page.check page.children = .ok () →
      (replace settings client.logged id page ⟨s, []⟩ = none ↔
        ∃ s', client.update id page.properties s = .ok () s' ∧
          client.EndlessListing id none s') ∧
      ∀ result final, replace settings client.logged id page ⟨s, []⟩ = some (result, final) →
        (result = .ok () ↔ final.log.AllSucceeded) ∧
          ReplaceLog settings id page final.log result) := by
  refine ⟨replace_erases, fun fault h => replace_of_invalid h _, fun h => ?_⟩
  rcases replace_logged h s with ⟨hend, hrun⟩ | ⟨hend, result, final, hrun, hlog⟩
  · refine ⟨⟨fun _ => hend, fun _ => hrun⟩, fun result final h => ?_⟩
    rw [hrun] at h
    cases h
  · refine ⟨⟨fun h => ?_, fun h => absurd h hend⟩, fun result' final' h => ?_⟩
    · rw [hrun] at h
      cases h
    · rw [hrun] at h
      cases h
      refine ⟨?_, hlog⟩
      rw [← hlog.1.isOk_iff]
      exact ⟨fun h => ⟨(), h⟩, fun ⟨_, h⟩ => h⟩

/-! ### Creating -/

namespace Parent

/-- The properties that the page is created with, if it is. -/
def kept (parent : Parent) (properties : PropertySet) : Except Fault PropertySet :=
  match parent with
  | .page _ => properties.forSubpage
  | .database _ => .ok properties

end Parent

theorem create_eq (settings : Settings) (client : Client σ) (parent : Parent) (page : TargetPage) :
    create settings client parent page = (do
      checked (Page.check page.children)
      let sent ← checked (parent.kept page.properties)
      let id ← request .client (client.create parent sent (page.children.take settings.batch))
      appendAll client id (page.children.take settings.batch).length
        (settings.batchesOf (page.children.drop settings.batch))
      pure id) := by
  cases parent <;> rfl

theorem create_of_kept {sent : PropertySet} (h : Page.check page.children = .ok ())
    (hkept : parent.kept page.properties = .ok sent) (s : σ) :
    create settings client parent page s = (do
      let id ← request .client (client.create parent sent (page.children.take settings.batch))
      appendAll client id (page.children.take settings.batch).length
        (settings.batchesOf (page.children.drop settings.batch))
      pure id : Run σ String) s := by
  rw [create_eq, h, hkept]
  rfl

end NoteBridge.Sync
