import NoteBridge.Proofs.Sync.Keeping
import NoteBridge.Proofs.Sync.Order
import NoteBridge.Proofs.Sync.Pull

/-!
Pulling a page after it has been written, over a service that keeps what it is given. What a run of
replacement leaves in the store is said once, by the way the run ends; the pull then gives what the
page's row unfolds to. A replacement that stops while it deletes leaves a tail of the old blocks,
and one that stops while it appends leaves a head of the new ones.
-/

namespace NoteBridge.Sync

open Page (Block checkAll_take checkAll_withoutIds idsIn idsIn_append idsIn_cons levels
  levels_drop_le levels_take_le levels_withoutIds withoutIds withoutIds_append)

variable {σ : Type} {settings : Settings} {client : Client σ} {store : σ → Store}

/-! ### Pulling what a row unfolds to -/

/-- Pulling the page from a state ends: with such blocks if all its requests succeed, and with the
failure of a request otherwise. -/
def Pulls (settings : Settings) (client : Client σ) (s : σ) (page : String)
    (blocks : List Block → Prop) : Prop :=
  ∃ result s' log, pull settings client page s = some (result, s') ∧
    pull settings client.logged page ⟨s, []⟩ = some (result, ⟨s', log⟩) ∧
    (log.AllSucceeded → ∃ pulled, result = .ok pulled ∧ blocks pulled) ∧
    (¬log.AllSucceeded → ∃ message, result = .error (.client message))

theorem pulls_of_unfolds (paging : Paging client store) {s : σ} {page : String}
    {blocks : List Block} (h : (store s).Unfolds ((store s).under page) blocks)
    (hdepth : levels blocks ≤ settings.maxDepth + 1) :
    Pulls settings client s page (· = blocks) := by
  obtain ⟨result, s', log, hrun, hlogged, hend⟩ := pull_of_unfolds settings paging page h
  rw [if_pos hdepth] at hend
  refine ⟨result, s', log, hrun, hlogged, fun hall => ?_, fun hsome => ?_⟩
  · rcases hend with ⟨-, rfl⟩ | ⟨hsome, -⟩
    · exact ⟨blocks, rfl, rfl⟩
    · exact absurd hall hsome
  · rcases hend with ⟨hall, -⟩ | ⟨-, -, hmessage⟩
    · exact absurd hall hsome
    · exact hmessage

/-- A valid forest that stands under a page is pulled, up to the ids of its blocks. -/
theorem pulls_of_holdsPage (paging : Paging client store) {s : σ} {page : String}
    {blocks stored : List Block} (h : (store s).HoldsPage page stored)
    (hblocks : withoutIds stored = withoutIds blocks) (hvalid : Page.check blocks = .ok ())
    (hdepth : levels blocks ≤ settings.maxDepth + 1) :
    Pulls settings client s page fun pulled => withoutIds pulled = withoutIds blocks := by
  have hcheck : Page.checkAll false stored = .ok () := by
    rw [← checkAll_withoutIds, hblocks, checkAll_withoutIds]
    exact hvalid
  have hlevels : levels stored ≤ settings.maxDepth + 1 := by
    rw [← levels_withoutIds, hblocks, levels_withoutIds]
    exact hdepth
  obtain ⟨result, s', log, hrun, hlogged, hok, herror⟩ :=
    pulls_of_unfolds paging (h.1.unfolds hcheck) hlevels
  refine ⟨result, s', log, hrun, hlogged, fun hall => ?_, herror⟩
  obtain ⟨pulled, hpulled, rfl⟩ := hok hall
  exact ⟨pulled, hpulled, hblocks⟩

/-! ### Deleting the first blocks of a row -/

namespace Store

variable {store : Store} {entries : List Entry} {blocks : List Block} {ids : List String}

theorem Unfolds.id_mem (h : store.Unfolds entries blocks) : ∀ e ∈ entries, e.id ∈ idsIn blocks := by
  induction h with
  | nil => exact fun e he => absurd he List.not_mem_nil
  | bearing _ _ _ _ ih | leaf _ _ ih =>
    intro f hf
    rw [idsIn_cons, List.mem_append, List.mem_append]
    rcases List.mem_cons.1 hf with rfl | hf
    · exact .inl (.inl (List.mem_singleton_self _))
    · exact .inr (ih f hf)

theorem Unfolds.split (h : store.Unfolds entries blocks) (count : Nat) :
    store.Unfolds (entries.take count) (blocks.take count) ∧
      store.Unfolds (entries.drop count) (blocks.drop count) := by
  induction h generalizing count with
  | nil => simp [Unfolds.nil]
  | bearing hbears hc hr _ ihr =>
    cases count with
    | zero => exact ⟨.nil, .bearing hbears hc hr⟩
    | succ count => exact ⟨.bearing hbears hc (ihr count).1, (ihr count).2⟩
  | leaf hleaf hr ihr =>
    cases count with
    | zero => exact ⟨.nil, .leaf hleaf hr⟩
    | succ count => exact ⟨.leaf hleaf (ihr count).1, (ihr count).2⟩

/-- Taking out blocks that stand nowhere in what a row unfolds to changes nothing there. -/
theorem Unfolds.without (h : store.Unfolds entries blocks) (hids : ∀ id ∈ idsIn blocks, id ∉ ids) :
    (store.without ids).Unfolds entries blocks := by
  induction h with
  | nil => exact .nil
  | @bearing e entries children blocks hbears hc _ ihc ihr =>
    simp only [idsIn_cons, Entry.block, List.mem_append] at hids
    have hrow : (store.without ids).under e.id = store.under e.id := by
      refine List.filter_eq_self.2 fun f hf => decide_eq_true ?_
      exact hids f.id (.inl (.inr (hc.id_mem f hf)))
    refine .bearing hbears ?_ (ihr fun id hid => hids id (.inr hid))
    rw [hrow]
    exact ihc fun id hid => hids id (.inl (.inr hid))
  | leaf hleaf _ ihr =>
    refine .leaf hleaf (ihr fun id hid => hids id ?_)
    rw [idsIn_cons]
    exact List.mem_append_right _ hid

/-- Without its first blocks a row unfolds to the rest, if no id occurs twice. -/
theorem Unfolds.without_take {page : String} (h : store.Unfolds (store.under page) blocks)
    (hnodup : (idsIn blocks).Nodup) (count : Nat) {after : Store}
    (hafter : after = store.without (((store.under page).take count).map Entry.id)) :
    after.Unfolds (after.under page) (blocks.drop count) := by
  obtain ⟨hfirst, hrest⟩ := h.split count
  let ids := ((store.under page).take count).map Entry.id
  -- No id occurs twice, so none of the first blocks stands among the rest or below it.
  have hkept : ∀ id ∈ idsIn (blocks.drop count), id ∉ ids := by
    rw [← List.take_append_drop count blocks, idsIn_append, List.nodup_append] at hnodup
    intro id hid hmem
    obtain ⟨e, he, rfl⟩ := List.mem_map.1 hmem
    exact hnodup.2.2 e.id (hfirst.id_mem e he) e.id hid rfl
  have hgone : ((store.under page).take count).filter (fun e => e.id ∉ ids) = [] := by
    refine List.filter_eq_nil_iff.2 fun e he h => ?_
    exact of_decide_eq_true h (List.mem_map_of_mem he)
  have hleft : ((store.under page).drop count).filter (fun e => e.id ∉ ids) =
      (store.under page).drop count := by
    refine List.filter_eq_self.2 fun e he => decide_eq_true ?_
    exact hkept e.id (hrest.id_mem e he)
  have hrow : after.under page = (store.under page).drop count := by
    calc after.under page
        = (store.under page).filter (fun e => e.id ∉ ids) := by rw [hafter]; rfl
      _ = ((store.under page).take count ++ (store.under page).drop count).filter
            (fun e => e.id ∉ ids) := by rw [List.take_append_drop]
      _ = (store.under page).drop count := by rw [List.filter_append, hgone, hleft, List.nil_append]
  rw [hrow, hafter]
  exact hrest.without hkept

end Store

/-! ### What a replacement leaves behind -/

/-- What is in the store after the replacement of a page by a valid one, by the way it ends. -/
inductive Replaced (id : String) (blocks : List Block) (before after : Store) :
    Except SyncError Unit → Prop
  | notUpdated {message : String} : Replaced id blocks before after (.error (.client message))
  | notListed {message : String} :
      Replaced id blocks before after (.error (.stopped .listChildren 0 message))
  | deleting {done : Nat} {message : String} :
      after = before.without (((before.under id).take done).map Entry.id) →
      Replaced id blocks before after (.error (.stopped .deleteChildren done message))
  | appending {done : Nat} {message : String} {stored : List Block} :
      withoutIds stored = withoutIds (blocks.take done) → after.HoldsPage id stored →
      Replaced id blocks before after (.error (.stopped .appendChildren done message))
  | whole {stored : List Block} : withoutIds stored = withoutIds blocks →
      after.HoldsPage id stored → Replaced id blocks before after (.ok ())

variable {id : String} {page : TargetPage}

/-- Batches that have been appended in front of others are the first blocks of all of them. -/
theorem flatten_take_batches (settings : Settings) (blocks : List Block) (done : Nat) :
    ((settings.batchesOf blocks).take done).flatten =
      blocks.take ((settings.batchesOf blocks).take done).flatten.length := by
  let sent := ((settings.batchesOf blocks).take done).flatten
  let left := ((settings.batchesOf blocks).drop done).flatten
  have hall : sent ++ left = blocks := by
    rw [← List.flatten_append, List.take_append_drop]
    exact (settings.batching_batchesOf blocks).flatten_eq
  calc sent = (sent ++ left).take sent.length := List.take_left.symm
    _ = blocks.take sent.length := by rw [hall]

theorem refill_replaced (settings : Settings) (keeping : Keeping client store) (id : String)
    (blocks : List Block) (s : σ) :
    ∃ result s', refill settings client id blocks s = some (result, s') ∧
      Replaced id blocks (store s) (store s') result := by
  obtain ⟨listed, s₁, hlist, hstore₁, hlisted⟩ := keeping.listAll (.stopped .listChildren 0) id s
  rcases hlisted with rfl | ⟨message, rfl, -⟩
  · obtain ⟨deleted, s₂, done, hdelete, hstore₂, hdeleted⟩ :=
      keeping.deleteAll (store s) ((store s).under id) 0 s₁
    rw [hstore₁] at hstore₂
    rcases hdeleted with ⟨rfl, rfl⟩ | ⟨message, rfl⟩
    · have hempty : (store s₂).HoldsPage id [] := by
        refine ⟨?_, List.not_mem_nil⟩
        rw [hstore₂, List.take_length, Store.under_without_eq_nil]
        exact .nil
      obtain ⟨appended, s₃, done, stored, happend, hstored, hpage, happended⟩ :=
        keeping.appendAll id (settings.batchesOf blocks) 0 s₂ [] hempty
      rw [List.nil_append] at hpage
      refine ⟨appended, s₃, (bind_of_ok hlist).trans ((bind_of_ok hdelete).trans happend), ?_⟩
      rcases happended with ⟨rfl, rfl⟩ | ⟨message, rfl⟩
      · rw [List.take_length, (settings.batching_batchesOf blocks).flatten_eq] at hstored
        exact .whole hstored hpage
      · rw [flatten_take_batches] at hstored
        rw [Nat.zero_add]
        exact .appending hstored hpage
    · refine ⟨_, s₂, (bind_of_ok hlist).trans (bind_of_error hdelete), ?_⟩
      rw [Nat.zero_add]
      exact .deleting hstore₂
  · exact ⟨_, s₁, bind_of_error hlist, .notListed⟩

theorem replace_replaced (settings : Settings) (keeping : Keeping client store)
    (hvalid : Page.check page.children = .ok ()) (id : String) (s : σ) :
    ∃ result s', replace settings client id page s = some (result, s') ∧
      Replaced id page.children (store s) (store s') result := by
  rw [replace_of_valid hvalid]
  have hupdate := keeping.update id page.properties s
  rcases hr : client.update id page.properties s with ⟨answer, s'⟩ | ⟨message, s'⟩
  · rw [hr] at hupdate
    obtain ⟨result, s₂, hrun, hreplaced⟩ := refill_replaced settings keeping id page.children s'
    refine ⟨result, s₂, (bind_of_ok (request_of_ok hr)).trans hrun, ?_⟩
    have hsame : store s' = store s := hupdate
    rw [← hsame]
    exact hreplaced
  · exact ⟨_, s', bind_of_error (request_of_error hr), .notUpdated⟩

/-- A page that has been created holds its blocks. -/
theorem create_holdsPage (settings : Settings) (keeping : Keeping client store) (parent : Parent)
    (hvalid : Page.check page.children = .ok ()) (s : σ) :
    ∃ result s', create settings client parent page s = some (result, s') ∧
      ∀ id, result = .ok id → ∃ stored, withoutIds stored = withoutIds page.children ∧
        (store s').HoldsPage id stored := by
  cases hkept : parent.kept page.properties with
  | error fault =>
    refine ⟨.error (.transform fault), s, ?_, nofun⟩
    rw [create_eq, hvalid, hkept]
    rfl
  | ok sent =>
    rw [create_of_kept hvalid hkept]
    have hcreate := keeping.create parent sent (page.children.take settings.batch) s
    rcases hr : client.create parent sent (page.children.take settings.batch) s with
      ⟨id, s₁⟩ | ⟨message, s₁⟩
    · rw [hr] at hcreate
      obtain ⟨hunused, hadds⟩ := hcreate
      have hempty : (store s).HoldsPage id [] := by
        refine ⟨?_, List.not_mem_nil⟩
        rw [not_not.1 (not_or.1 hunused).1]
        exact .nil
      obtain ⟨first, hfirst, hpage⟩ := hempty.adds hadds
      obtain ⟨appended, s₂, done, more, happend, hmore, hpage₂, happended⟩ :=
        keeping.appendAll id (settings.batchesOf (page.children.drop settings.batch))
          (page.children.take settings.batch).length s₁ first hpage
      rcases happended with ⟨rfl, rfl⟩ | ⟨message, rfl⟩
      · refine ⟨.ok id, s₂, (bind_of_ok (request_of_ok hr)).trans (bind_of_ok happend), ?_⟩
        rintro _ ⟨⟩
        refine ⟨first ++ more, ?_, hpage₂⟩
        rw [List.take_length, (settings.batching_batchesOf _).flatten_eq] at hmore
        rw [withoutIds_append, hfirst, hmore, ← withoutIds_append, List.take_append_drop]
      · exact ⟨_, s₂, (bind_of_ok (request_of_ok hr)).trans (bind_of_error happend), nofun⟩
    · exact ⟨_, s₁, bind_of_error (request_of_error hr), nofun⟩

/-! ### The round trip -/

/-- Over a service that keeps what it is given, a page that has been replaced or created is pulled
with the blocks it was written with, up to their ids. A replacement that has stopped after so many
deletions leaves the old blocks behind those, and one that has stopped after so many appended blocks
leaves just these. -/
theorem pull_written (settings : Settings) (keeping : Keeping client store) (page : TargetPage)
    (hdepth : levels page.children ≤ settings.maxDepth + 1) (s : σ) :
    (∀ id, ∃ result s', replace settings client id page s = some (result, s') ∧
      (result = .ok () → Pulls settings client s' id fun pulled =>
        withoutIds pulled = withoutIds page.children) ∧
      (∀ done message, result = .error (.stopped .appendChildren done message) →
        Pulls settings client s' id fun pulled =>
          withoutIds pulled = withoutIds (page.children.take done)) ∧
      (∀ done message, result = .error (.stopped .deleteChildren done message) →
        ∀ old, (store s).Unfolds ((store s).under id) old → (idsIn old).Nodup →
          levels old ≤ settings.maxDepth + 1 →
          Pulls settings client s' id (· = old.drop done))) ∧
    ∀ parent, ∃ result s', create settings client parent page s = some (result, s') ∧
      ∀ id, result = .ok id → Pulls settings client s' id fun pulled =>
        withoutIds pulled = withoutIds page.children := by
  cases hvalid : Page.check page.children with
  | error fault =>
    refine ⟨fun id => ⟨_, s, replace_of_invalid hvalid s, nofun, nofun, nofun⟩, fun parent => ?_⟩
    refine ⟨.error (.transform fault), s, ?_, nofun⟩
    rw [create_eq, hvalid]
    rfl
  | ok _ =>
    refine ⟨fun id => ?_, fun parent => ?_⟩
    · obtain ⟨result, s', hrun, hreplaced⟩ := replace_replaced settings keeping hvalid id s
      refine ⟨result, s', hrun, ?_, ?_, ?_⟩
      · rintro rfl
        cases hreplaced with
        | whole hstored hpage =>
          exact pulls_of_holdsPage keeping.toPaging hpage hstored hvalid hdepth
      · rintro done message rfl
        cases hreplaced with
        | appending hstored hpage =>
          refine pulls_of_holdsPage keeping.toPaging hpage hstored (checkAll_take hvalid done) ?_
          exact Nat.le_trans (levels_take_le done _) hdepth
      · rintro done message rfl old hold hnodup hlevels
        cases hreplaced with
        | deleting hafter =>
          refine pulls_of_unfolds keeping.toPaging (hold.without_take hnodup done hafter) ?_
          exact Nat.le_trans (levels_drop_le done old) hlevels
    · obtain ⟨result, s', hrun, hcreated⟩ := create_holdsPage settings keeping parent hvalid s
      refine ⟨result, s', hrun, fun id hid => ?_⟩
      obtain ⟨stored, hstored, hpage⟩ := hcreated id hid
      exact pulls_of_holdsPage keeping.toPaging hpage hstored hvalid hdepth

/-! #### A page of two dividers, replaced over a shelf -/

/-- A page with two dividers, on a shelf that lists two blocks at a time. -/
def dividersShelf : Shelf :=
  .ofRows 1 [("page", [⟨"first", .divider⟩, ⟨"second", .divider⟩])]

/-- A table with a row, and a divider. -/
def tablePage : TargetPage :=
  ⟨∅, [⟨none, .table 1 false false, [⟨none, .tableRow [[]], []⟩]⟩, ⟨none, .divider, []⟩]⟩

def oneByOne : Settings := { batchSize := 1, maxDepth := 1 }

theorem replace_dividersShelf {refuses : Nat → Bool} (h : ∀ n ≤ 1, refuses n = false) :
    replace oneByOne (Shelf.client refuses) "page" tablePage dividersShelf =
      (deleteAll (Shelf.client refuses) 0 (dividersShelf.store.listing "page") >>= fun _ =>
        appendAll (Shelf.client refuses) "page" 0 (tablePage.children.map ([·])) : Run Shelf Unit)
        { dividersShelf with requests := 2 } := by
  have hupdate : (Shelf.client refuses).update "page" tablePage.properties dividersShelf =
      .ok () { dividersShelf with requests := 1 } :=
    if_neg (Bool.eq_false_iff.1 (h 0 (by decide)))
  have hlist : (Shelf.client refuses).list "page" none { dividersShelf with requests := 1 } =
      .ok ⟨dividersShelf.store.listing "page", none⟩ { dividersShelf with requests := 2 } :=
    if_neg (Bool.eq_false_iff.1 (h 1 (by decide)))
  have hbatches : oneByOne.batchesOf tablePage.children = tablePage.children.map ([·]) := by
    simp [Settings.batchesOf, batches, oneByOne, Settings.batch, tablePage]
  rw [replace_of_valid rfl, bind_of_ok (request_of_ok hupdate), refill, hbatches, listAll,
    bind_of_ok (listFrom_of_last hlist rfl)]

theorem pull_written_dividersShelf :
    levels tablePage.children ≤ oneByOne.maxDepth + 1 ∧
    (∃ s, replace oneByOne (Shelf.client fun _ => false) "page" tablePage dividersShelf =
        some (.ok (), s) ∧
      Pulls oneByOne (Shelf.client fun _ => false) s "page" fun pulled =>
        withoutIds pulled = withoutIds tablePage.children) ∧
    (∃ s, replace oneByOne (Shelf.client (· == 3)) "page" tablePage dividersShelf =
        some (.error (.stopped .deleteChildren 1 "refused"), s) ∧
      Pulls oneByOne (Shelf.client (· == 3)) s "page" (· = [⟨some "second", .divider, []⟩])) ∧
    (∃ s, replace oneByOne (Shelf.client (· == 5)) "page" tablePage dividersShelf =
        some (.error (.stopped .appendChildren 1 "refused"), s) ∧
      Pulls oneByOne (Shelf.client (· == 5)) s "page" fun pulled =>
        withoutIds pulled = withoutIds (tablePage.children.take 1)) := by
  have hdepth : levels tablePage.children ≤ oneByOne.maxDepth + 1 := by decide
  have hold : dividersShelf.store.Unfolds (dividersShelf.store.under "page")
      [⟨some "first", .divider, []⟩, ⟨some "second", .divider, []⟩] :=
    .leaf rfl (.leaf rfl .nil)
  refine ⟨hdepth, ?_, ?_, ?_⟩
  · obtain ⟨s, hreplaced⟩ : ∃ s, replace oneByOne (Shelf.client fun _ => false) "page" tablePage
        dividersShelf = some (.ok (), s) := by
      rw [replace_dividersShelf fun _ _ => rfl]
      exact ⟨_, rfl⟩
    obtain ⟨_, _, hrun, hwhole, -, -⟩ := (pull_written oneByOne (Shelf.keeping fun _ => false)
      tablePage hdepth dividersShelf).1 "page"
    cases hreplaced.symm.trans hrun
    exact ⟨s, hreplaced, hwhole rfl⟩
  · obtain ⟨s, hreplaced⟩ : ∃ s, replace oneByOne (Shelf.client (· == 3)) "page" tablePage
        dividersShelf = some (.error (.stopped .deleteChildren 1 "refused"), s) := by
      rw [replace_dividersShelf (by decide)]
      exact ⟨_, rfl⟩
    obtain ⟨_, _, hrun, -, -, hdeleting⟩ := (pull_written oneByOne (Shelf.keeping (· == 3))
      tablePage hdepth dividersShelf).1 "page"
    cases hreplaced.symm.trans hrun
    exact ⟨s, hreplaced, hdeleting 1 "refused" rfl _ hold (by decide) (by decide)⟩
  · obtain ⟨s, hreplaced⟩ : ∃ s, replace oneByOne (Shelf.client (· == 5)) "page" tablePage
        dividersShelf = some (.error (.stopped .appendChildren 1 "refused"), s) := by
      rw [replace_dividersShelf (by decide)]
      exact ⟨_, rfl⟩
    obtain ⟨_, _, hrun, -, happending, -⟩ := (pull_written oneByOne (Shelf.keeping (· == 5))
      tablePage hdepth dividersShelf).1 "page"
    cases hreplaced.symm.trans hrun
    exact ⟨s, hreplaced, happending 1 "refused" rfl⟩

end NoteBridge.Sync
