import NoteBridge.Proofs.Page.Forest
import NoteBridge.Sync.Client

/-!
What a service stores: under each id a row of blocks, each with an id of its own. Unfolding a row
puts under each block that bears children the row of its id. A store may lead back to where it
came from, and then nothing finite unfolds from there; how deep a block lies is defined all the
same.
-/

namespace NoteBridge.Sync

open Page (Block BlockKind ListedBlock levels levels_cons)

/-- A stored block, without the row that is stored under its id. -/
structure Entry where
  id : String
  kind : BlockKind

def Entry.block (e : Entry) (children : List Block) : Block := ⟨some e.id, e.kind, children⟩

/-- The rows of blocks, in order, by the id they are stored under. -/
@[ext] structure Store where
  under : String → List Entry

namespace Store

variable {store : Store} {entries others : List Entry} {blocks : List Block} {depth : Nat}
  {e : Entry}

/-- A block as a listing shows it: without its children, and with the word whether there are
some. -/
def listed (store : Store) (e : Entry) : ListedBlock :=
  ⟨e.block [], !(store.under e.id).isEmpty⟩

def listing (store : Store) (parent : String) : List ListedBlock :=
  (store.under parent).map store.listed

/-- The blocks that a row unfolds to: a kind that bears children carries the blocks of its own row,
any other kind carries none. -/
inductive Unfolds (store : Store) : List Entry → List Block → Prop
  | nil : Unfolds store [] []
  | bearing {e : Entry} {entries : List Entry} {children blocks : List Block} :
      e.kind.bearsChildren = true → Unfolds store (store.under e.id) children →
      Unfolds store entries blocks → Unfolds store (e :: entries) (e.block children :: blocks)
  | leaf {e : Entry} {entries : List Entry} {blocks : List Block} :
      e.kind.bearsChildren = false → Unfolds store entries blocks →
      Unfolds store (e :: entries) (e.block [] :: blocks)

/-- A block lies so many levels below a row; the blocks of the row itself lie at depth zero. -/
inductive Lies (store : Store) : List Entry → Nat → Entry → Prop
  | here {entries : List Entry} {e : Entry} : e ∈ entries → Lies store entries 0 e
  | deeper {entries : List Entry} {f e : Entry} {depth : Nat} : f ∈ entries →
      f.kind.bearsChildren = true → Lies store (store.under f.id) depth e →
      Lies store entries (depth + 1) e

/-- The ids whose rows have to be known to unfold a row: those of blocks that lie in it or below it,
bear children and have some. -/
def Opens (store : Store) (entries : List Entry) (id : String) : Prop :=
  ∃ depth e, store.Lies entries depth e ∧ e.kind.bearsChildren = true ∧ e.id = id ∧
    store.under id ≠ []

theorem Unfolds.cons {block : Block} (h : store.Unfolds [e] [block])
    (h' : store.Unfolds entries blocks) : store.Unfolds (e :: entries) (block :: blocks) := by
  cases h with
  | bearing hbears hc _ => exact .bearing hbears hc h'
  | leaf hleaf _ => exact .leaf hleaf h'

theorem Unfolds.unique (h : store.Unfolds entries blocks) {blocks' : List Block}
    (h' : store.Unfolds entries blocks') : blocks = blocks' := by
  induction h generalizing blocks' with
  | nil =>
    cases h'
    rfl
  | bearing hbears _ _ ihc ihr =>
    cases h' with
    | bearing _ hc hr => rw [ihc hc, ihr hr]
    | leaf hleaf _ => exact absurd hbears (by rw [hleaf]; decide)
  | leaf hleaf _ ihr =>
    cases h' with
    | bearing hbears _ _ => exact absurd hbears (by rw [hleaf]; decide)
    | leaf _ hr => rw [ihr hr]

theorem Lies.of_subset (h : store.Lies entries depth e) (hsub : entries ⊆ others) :
    store.Lies others depth e := by
  cases h with
  | here he => exact .here (hsub he)
  | deeper hf hbears h => exact .deeper (hsub hf) hbears h

/-- What lies in a row and below it: its first block, what lies below that, and the rest. -/
theorem lies_cons_iff {f : Entry} :
    store.Lies (f :: entries) depth e ↔ (depth = 0 ∧ e = f) ∨
      (∃ above, depth = above + 1 ∧ f.kind.bearsChildren = true ∧
        store.Lies (store.under f.id) above e) ∨ store.Lies entries depth e := by
  constructor
  · intro h
    cases h with
    | here he =>
      rcases List.mem_cons.1 he with rfl | he
      · exact .inl ⟨rfl, rfl⟩
      · exact .inr (.inr (.here he))
    | deeper hg hbears h =>
      rcases List.mem_cons.1 hg with rfl | hg
      · exact .inr (.inl ⟨_, rfl, hbears, h⟩)
      · exact .inr (.inr (.deeper hg hbears h))
  · rintro (⟨rfl, rfl⟩ | ⟨above, rfl, hbears, h⟩ | h)
    · exact .here (List.mem_cons_self ..)
    · exact .deeper (List.mem_cons_self ..) hbears h
    · exact h.of_subset (List.subset_cons_self _ _)

theorem Opens.of_subset {id : String} (h : store.Opens entries id) (hsub : entries ⊆ others) :
    store.Opens others id := by
  obtain ⟨depth, e, hlies, h⟩ := h
  exact ⟨depth, e, hlies.of_subset hsub, h⟩

theorem opens_of_bears {id : String} (he : e ∈ entries) (hbears : e.kind.bearsChildren = true)
    (hrow : store.under e.id ≠ []) (h : id = e.id ∨ store.Opens (store.under e.id) id) :
    store.Opens entries id := by
  rcases h with rfl | ⟨depth, f, hlies, h⟩
  · exact ⟨0, e, .here he, hbears, rfl, hrow⟩
  · exact ⟨depth + 1, f, .deeper he hbears hlies, h⟩

theorem not_lies_nil : ¬store.Lies [] depth e := by
  intro h
  cases h with
  | here he => cases he
  | deeper hf _ _ => cases hf

/-- In a row that unfolds, some block lies at each depth down to the last level, and none lies
below it. -/
theorem Unfolds.exists_lies_iff (h : store.Unfolds entries blocks) :
    (∃ e, store.Lies entries depth e) ↔ depth < levels blocks := by
  induction h generalizing depth with
  | nil => simp [levels, not_lies_nil]
  | @bearing f entries children blocks hbears _ _ ihc ihr =>
    simp only [lies_cons_iff, exists_or, ihr, levels_cons, hbears, true_and]
    rcases depth with _ | depth
    · simp only [exists_eq, true_and, true_or, true_iff]
      omega
    · have hmax : depth + 1 < max (levels children + 1) (levels blocks) ↔
          depth < levels children ∨ depth + 1 < levels blocks := by omega
      simp [ihc, Entry.block, hmax]
  | @leaf f entries blocks hleaf _ ihr =>
    simp only [lies_cons_iff, exists_or, ihr, levels_cons, hleaf]
    rcases depth with _ | depth
    · simp only [exists_eq, true_and, true_or, true_iff]
      omega
    · have hmax : depth + 1 < max (levels [] + 1) (levels blocks) ↔ depth + 1 < levels blocks := by
        rw [levels]
        omega
      simp [Entry.block, hmax]

end Store
end NoteBridge.Sync
