import NoteBridge.Proofs.Sync.Paging
import NoteBridge.Proofs.Sync.Plan

/-!
Services that keep what they are given. A block that is stored gets an id which nothing in the
store uses, and its children are stored under that id; blocks go to the end of a row; deleting an
id takes the block with that id out of its row and nothing else; a request that fails changes
nothing. Rows of deletions and of appended batches are followed through such a store.
-/

namespace NoteBridge.Sync

open Page (Block ListedBlock PropertySet withoutIds withoutIds_append idsIn idsIn_cons idsIn_append
  checkAll checkAll_cons_eq_ok)

namespace Store

variable {store before after : Store} {entries others : List Entry} {blocks stored : List Block}

/-- The forest that stands in a row as a whole, children of every kind included. -/
inductive Holds (store : Store) : List Entry → List Block → Prop
  | nil : Holds store [] []
  | cons {e : Entry} {entries : List Entry} {children blocks : List Block} :
      Holds store (store.under e.id) children → Holds store entries blocks →
      Holds store (e :: entries) (e.block children :: blocks)

/-- Whether an id has a row, or is that of a block in a row. -/
def Uses (store : Store) (id : String) : Prop :=
  store.under id ≠ [] ∨ ∃ parent, ∃ e ∈ store.under parent, e.id = id

/-- The store without the blocks of the given ids; rows under these ids stay. -/
def without (store : Store) (ids : List String) : Store :=
  ⟨fun parent => (store.under parent).filter fun e => e.id ∉ ids⟩

/-- Storing a forest at the end of a row: the blocks, and those below them, get ids of their own
that nothing uses, and no other row changes. -/
def Adds (before : Store) (parent : String) (blocks : List Block) (after : Store) : Prop :=
  ∃ entries stored, withoutIds stored = withoutIds blocks ∧ after.Holds entries stored ∧
    after.under parent = before.under parent ++ entries ∧
    (idsIn stored).Nodup ∧ (∀ id ∈ idsIn stored, id ≠ parent ∧ ¬before.Uses id) ∧
    ∀ other, other ≠ parent → other ∉ idsIn stored → after.under other = before.under other

/-! ### What a row holds -/

theorem Holds.append (h : store.Holds entries blocks) (h' : store.Holds others stored) :
    store.Holds (entries ++ others) (blocks ++ stored) := by
  induction h with
  | nil => exact h'
  | cons hc _ _ ih => exact .cons hc ih

/-- Only the rows of its own ids matter to a forest. -/
theorem Holds.frame (h : before.Holds entries stored)
    (hsame : ∀ id ∈ idsIn stored, after.under id = before.under id) :
    after.Holds entries stored := by
  induction h with
  | nil => exact .nil
  | @cons e entries children blocks _ _ ihc ihr =>
    simp only [idsIn_cons, Entry.block, List.mem_append, Option.mem_toList] at hsame
    refine .cons ?_ (ihr fun id hid => hsame id (.inr hid))
    rw [hsame e.id (.inl (.inl rfl))]
    exact ihc fun id hid => hsame id (.inl (.inr hid))

theorem Holds.uses (h : store.Holds entries stored) {parent : String}
    (hsub : entries ⊆ store.under parent) : ∀ id ∈ idsIn stored, store.Uses id := by
  induction h generalizing parent with
  | nil => exact fun id hid => absurd hid (List.not_mem_nil)
  | @cons e entries children blocks _ _ ihc ihr =>
    intro id hid
    simp only [idsIn_cons, Entry.block, List.mem_append, Option.mem_toList] at hid
    rcases hid with (hid | hid) | hid
    · cases hid
      exact .inr ⟨parent, e, hsub (List.mem_cons_self ..), rfl⟩
    · exact ihc (List.Subset.refl _) id hid
    · exact ihr (fun _ h => hsub (List.mem_cons_of_mem _ h)) id hid

/-- A valid forest that stands in a row is what the row unfolds to. -/
theorem Holds.unfolds {insideTable : Bool} (h : store.Holds entries stored)
    (hvalid : checkAll insideTable stored = .ok ()) : store.Unfolds entries stored := by
  induction h generalizing insideTable with
  | nil => exact .nil
  | @cons e entries children blocks _ _ ihc ihr =>
    obtain ⟨-, hbears, hchildren, hrest⟩ := checkAll_cons_eq_ok hvalid
    cases hkind : e.kind.bearsChildren with
    | true => exact .bearing hkind (ihc hchildren) (ihr hrest)
    | false =>
      have hnone : children = [] := hbears hkind
      rw [hnone]
      exact .leaf hkind (ihr hrest)

/-- Under the id of a page stands just this forest, and the id occurs nowhere in it. -/
def HoldsPage (store : Store) (id : String) (stored : List Block) : Prop :=
  store.Holds (store.under id) stored ∧ id ∉ idsIn stored

theorem HoldsPage.adds {id : String} (h : before.HoldsPage id stored)
    (hadds : before.Adds id blocks after) :
    ∃ more, withoutIds more = withoutIds blocks ∧ after.HoldsPage id (stored ++ more) := by
  obtain ⟨hstored, hid⟩ := h
  obtain ⟨entries, more, hblocks, hmore, hrow, -, hfresh, hother⟩ := hadds
  refine ⟨more, hblocks, ?_, ?_⟩
  · -- The new ids are fresh, so the rows below the old blocks are as they were.
    rw [hrow]
    refine Holds.append (hstored.frame fun other hmem => hother other ?_ ?_) hmore
    · rintro rfl
      exact hid hmem
    · intro hnew
      exact (hfresh other hnew).2 (hstored.uses (List.Subset.refl _) other hmem)
  · rw [idsIn_append, List.mem_append, not_or]
    exact ⟨hid, fun hnew => (hfresh id hnew).1 rfl⟩

theorem without_nil : store.without [] = store := by
  ext1
  funext parent
  simp [without]

theorem without_without (ids ids' : List String) :
    (store.without ids).without ids' = store.without (ids ++ ids') := by
  ext1
  funext parent
  simp only [without, List.filter_filter]
  congr 1
  funext e
  simp [Bool.and_comm]

theorem under_without_eq_nil {parent : String} :
    (store.without ((store.under parent).map Entry.id)).under parent = [] := by
  simp only [without, List.filter_eq_nil_iff, List.mem_map]
  simp
  intro e he
  exact ⟨e, he, rfl⟩

end Store

/-! ### Services that keep -/

theorem request_of_ok {σ α : Type} {onFailure : String → SyncError} {r : Request σ α} {s s' : σ}
    {answer : α} (h : r s = .ok answer s') : request onFailure r s = some (.ok answer, s') := by
  unfold request
  rw [h]

theorem request_of_error {σ α : Type} {onFailure : String → SyncError} {r : Request σ α} {s s' : σ}
    {message : String} (h : r s = .error message s') :
    request onFailure r s = some (.error (onFailure message), s') := by
  unfold request
  rw [h]

/-- What a request has made of the store: what it should if it has succeeded, and nothing
otherwise. -/
def Changes {σ α : Type} (store : σ → Store) (s : σ) (becomes : α → Store → Prop) :
    EStateM.Result String σ α → Prop
  | .ok a s' => becomes a (store s')
  | .error _ s' => store s' = store s

/-- A client that keeps blocks by parent, gives ids to them, and lists them in consecutive pages. -/
structure Keeping {σ : Type} (client : Client σ) (store : σ → Store) extends
    Paging client store where
  create : ∀ parent properties blocks s, Changes store s
    (fun id after => ¬(store s).Uses id ∧ (store s).Adds id blocks after)
    (client.create parent properties blocks s)
  update : ∀ id properties s, Changes store s (fun _ after => after = store s)
    (client.update id properties s)
  append : ∀ parent blocks s, Changes store s (fun _ => (store s).Adds parent blocks)
    (client.append parent blocks s)
  delete : ∀ id s, Changes store s (fun _ after => after = (store s).without [id])
    (client.delete id s)

namespace Keeping

variable {σ : Type} {client : Client σ} {store : σ → Store}

/-- A row of deletions takes out the blocks whose deletion has succeeded, from the first one on. -/
theorem deleteAll (keeping : Keeping client store) (shown : Store) (entries : List Entry) :
    ∀ (completed : Nat) (s : σ),
      ∃ result s' done, Sync.deleteAll client completed (entries.map shown.listed) s =
          some (result, s') ∧
        store s' = (store s).without ((entries.take done).map Entry.id) ∧
        (result = .ok () ∧ done = entries.length ∨ ∃ message,
          result = .error (.stopped .deleteChildren (completed + done) message)) := by
  induction entries with
  | nil =>
    intro completed s
    refine ⟨.ok (), s, 0, rfl, ?_, .inl ⟨rfl, rfl⟩⟩
    exact Store.without_nil.symm
  | cons e entries ih =>
    intro completed s
    have hdelete := keeping.delete e.id s
    rcases hr : client.delete e.id s with ⟨answer, s'⟩ | ⟨message, s'⟩
    · rw [hr] at hdelete
      obtain ⟨result, s₂, done, hrun, hstore, hresult⟩ := ih (completed + 1) s'
      refine ⟨result, s₂, done + 1, (bind_of_ok (request_of_ok hr)).trans hrun, ?_, ?_⟩
      · rw [hstore, hdelete, Store.without_without]
        rfl
      · rcases hresult with ⟨rfl, rfl⟩ | ⟨message, rfl⟩
        · exact .inl ⟨rfl, rfl⟩
        · refine .inr ⟨message, ?_⟩
          rw [Nat.add_right_comm, Nat.add_assoc]
    · rw [hr] at hdelete
      refine ⟨_, s', 0, bind_of_error (request_of_error hr), ?_, .inr ⟨message, rfl⟩⟩
      exact hdelete.trans Store.without_nil.symm

/-- A row of appended batches leaves behind what stood there and the batches that have succeeded,
from the first one on. -/
theorem appendAll (keeping : Keeping client store) (id : String) (batches : List (List Block)) :
    ∀ (completed : Nat) (s : σ) (stored : List Block), (store s).HoldsPage id stored →
      ∃ result s' done more, Sync.appendAll client id completed batches s = some (result, s') ∧
        withoutIds more = withoutIds (batches.take done).flatten ∧
        (store s').HoldsPage id (stored ++ more) ∧
        (result = .ok () ∧ done = batches.length ∨ ∃ message, result =
          .error (.stopped .appendChildren (completed + (batches.take done).flatten.length)
            message)) := by
  induction batches with
  | nil =>
    intro completed s stored hpage
    refine ⟨.ok (), s, 0, [], rfl, rfl, ?_, .inl ⟨rfl, rfl⟩⟩
    rw [List.append_nil]
    exact hpage
  | cons batch batches ih =>
    intro completed s stored hpage
    have happend := keeping.append id batch s
    rcases hr : client.append id batch s with ⟨answer, s'⟩ | ⟨message, s'⟩
    · rw [hr] at happend
      obtain ⟨first, hfirst, hpage'⟩ := hpage.adds happend
      obtain ⟨result, s₂, done, more, hrun, hmore, hpage₂, hresult⟩ :=
        ih (completed + batch.length) s' _ hpage'
      refine ⟨result, s₂, done + 1, first ++ more, ?_, ?_, ?_, ?_⟩
      · exact (bind_of_ok (request_of_ok hr)).trans hrun
      · rw [withoutIds_append, hfirst, hmore, List.take_succ_cons, List.flatten_cons,
          withoutIds_append]
      · rw [← List.append_assoc]
        exact hpage₂
      · rcases hresult with ⟨rfl, rfl⟩ | ⟨message, rfl⟩
        · exact .inl ⟨rfl, rfl⟩
        · refine .inr ⟨message, ?_⟩
          rw [List.take_succ_cons, List.flatten_cons, List.length_append, Nat.add_assoc]
    · rw [hr] at happend
      refine ⟨_, s', 0, [], bind_of_error (request_of_error hr), rfl, ?_, .inr ⟨message, rfl⟩⟩
      rw [List.append_nil, happend]
      exact hpage

end Keeping
end NoteBridge.Sync
