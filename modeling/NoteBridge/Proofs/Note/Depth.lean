import NoteBridge.Note
import NoteBridge.Proofs.Render.Depth
import NoteBridge.Proofs.Sync.Pull

/-!
One limit for writing and for pulling. The same number bounds the levels of a page that its markup
shows and the levels that are pulled, so a page that can be pulled under the limit can be written
under it. The converse needs that all levels are shown: rows of a table, blocks that only group
others and the children of callouts that stand in for something else are levels for a pull alone.
-/

namespace NoteBridge

open Page (Block checkAll_withoutIds levels levels_withoutIds nodesOf withoutIds)
open Render (Limited nests shownLevels shownLevels_eq_levels shownLevels_le_levels)
open Sync (Client Paging Shelf Store)

theorem Bridge.toMarkup_limited {bridge : Bridge} {blocks : List Block}
    (hvalid : Page.check blocks = .ok ()) :
    Limited bridge.options.maxDepth
      (shownLevels ⟨bridge.options, bridge.resolver⟩ blocks ≤ bridge.options.maxDepth + 1)
      (bridge.toMarkup blocks) :=
  (Render.render_limited hvalid).map String.ofList

/-- Under one limit, a valid forest is written exactly when its shown levels fit the limit, and the
service that holds it pulls it without exceeding the limit exactly when all its levels fit. No more
levels are shown than there are, and all are where only blocks that nest their children have
some. -/
theorem toMarkup_pull_limits {σ : Type} {client : Client σ} {store : σ → Store} (bridge : Bridge)
    (batchSize : Nat) (paging : Paging client store) (page : String) (s : σ)
    {forest held : List Block} (hvalid : Page.check forest = .ok ())
    (hholds : (store s).Holds ((store s).under page) held)
    (hheld : withoutIds held = withoutIds forest) :
    Limited bridge.options.maxDepth
      (shownLevels ⟨bridge.options, bridge.resolver⟩ forest ≤ bridge.options.maxDepth + 1)
      (bridge.toMarkup forest) ∧
    (∃ result s', Sync.pull ⟨batchSize, bridge.options.maxDepth⟩ client page s = some (result, s') ∧
      (result = .error (.transform (.depthExceeded bridge.options.maxDepth)) →
        bridge.options.maxDepth + 1 < levels forest) ∧
      (bridge.options.maxDepth + 1 < levels forest →
        result = .error (.transform (.depthExceeded bridge.options.maxDepth)) ∨ paging.Fails)) ∧
    shownLevels ⟨bridge.options, bridge.resolver⟩ forest ≤ levels forest ∧
    ((∀ node ∈ nodesOf forest, node.children ≠ [] →
        nests ⟨bridge.options, bridge.resolver⟩ node.kind = true) →
      shownLevels ⟨bridge.options, bridge.resolver⟩ forest = levels forest) := by
  have hcheck : Page.checkAll false held = .ok () := by
    rw [← checkAll_withoutIds, hheld, checkAll_withoutIds]
    exact hvalid
  have hlevels : levels held = levels forest := by
    rw [← levels_withoutIds, hheld, levels_withoutIds]
  refine ⟨Bridge.toMarkup_limited hvalid, ?_, shownLevels_le_levels _ forest, shownLevels_eq_levels⟩
  obtain ⟨result, s', log, hrun, -, hend⟩ :=
    Sync.pull_of_unfolds ⟨batchSize, bridge.options.maxDepth⟩ paging page (hholds.unfolds hcheck)
  rw [hlevels] at hend
  refine ⟨result, s', hrun, ?_, fun hdeep => ?_⟩
  · rintro rfl
    rcases hend with ⟨-, hresult⟩ | ⟨-, -, message, hresult⟩
    · split_ifs at hresult with hfits
      exact Nat.lt_of_not_le hfits
    · cases hresult
  · rcases hend with ⟨-, hresult⟩ | ⟨-, hfails, -⟩
    · rw [if_neg (Nat.not_le_of_lt hdeep)] at hresult
      exact .inl hresult
    · exact .inr hfails

/-- A table with a row. -/
def tableForest : List Block := [⟨none, .table 1 false false, [⟨none, .tableRow [[]], []⟩]⟩]

def tableShelf : Shelf :=
  .ofRows 0 [("page", [⟨"table", .table 1 false false⟩]), ("table", [⟨"row", .tableRow [[]]⟩])]

/-- A table is written where only one level is allowed, and then cannot be pulled. -/
theorem toMarkup_pull_limits_table :
    (∃ text, Bridge.toMarkup { options := { maxDepth := 0 } } tableForest = .ok text) ∧
    ∃ s, Sync.pull ⟨100, 0⟩ (Shelf.client fun _ => false) "page" tableShelf =
      some (.error (.transform (.depthExceeded 0)), s) := by
  have hheld : tableShelf.store.Holds (tableShelf.store.under "page")
      [⟨some "table", .table 1 false false, [⟨some "row", .tableRow [[]], []⟩]⟩] :=
    .cons (.cons .nil .nil) .nil
  have hvalid : Page.check tableForest = .ok () := rfl
  obtain ⟨hmarkup, ⟨result, s, hrun, -, hdeep⟩, -, -⟩ := toMarkup_pull_limits
    { options := { maxDepth := 0 } } 100 (Shelf.paging fun _ => false) "page" tableShelf hvalid
    hheld rfl
  refine ⟨hmarkup.1 (Nat.le_refl 1), s, ?_⟩
  rw [hrun, (hdeep (Nat.lt_succ_self 1)).resolve_right Shelf.paging_not_fails]

end NoteBridge
