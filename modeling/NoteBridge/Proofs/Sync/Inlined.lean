import NoteBridge.Proofs.Render.Outcome
import NoteBridge.Proofs.Sync.Pull

/-!
Children that come with a listing. A pull takes the children from the blocks that a listing shows
and that bear none, but it takes over what a listing holds below a block that bears some. So the
leaves of a pulled page are bare exactly when those below the listed blocks are, whatever the
service.
-/

namespace NoteBridge.Sync

open Page (Block ListedBlock LeavesBare leavesBare_cons leavesBare_nil)

variable {σ α β : Type} {settings : Settings} {client : Client σ} {levels : Nat} {s s' : Logged σ}

/-! ### Runs that end well -/

theorem ok_of_bind_eq_ok {x : Run σ α} {f : α → Run σ β} {s s'' : σ} {b : β}
    (h : (x >>= f) s = some (.ok b, s'')) :
    ∃ a s', x s = some (.ok a, s') ∧ f a s' = some (.ok b, s'') := by
  rcases hx : x s with _ | ⟨error | a, s'⟩
  · rw [bind_of_none hx] at h
    cases h
  · rw [bind_of_error hx] at h
    cases h
  · rw [bind_of_ok hx] at h
    exact ⟨a, s', rfl, h⟩

theorem listAll_shown {onFailure : String → SyncError} {parent : String}
    {listed : List ListedBlock}
    (h : listAll client.logged onFailure parent s = some (.ok listed, s')) :
    ∃ log : Log, s'.log = s.log ++ log ∧ log.shown = listed := by
  obtain ⟨log, hlog, -, -, -, hshown⟩ := listFrom_logged none s _ _ h
  exact ⟨log, hlog, hshown⟩

theorem Log.shown_append (before log : Log) : Log.shown (before ++ log) =
    before.shown ++ log.shown := List.flatMap_append

/-! ### What a pull takes over -/

/-- A listed block holds no children below its own where there may be none; what a kind that bears
no children holds itself does not count, as a pull drops it. -/
def HoldsBareLeaves (remote : ListedBlock) : Prop :=
  remote.block.kind.bearsChildren = true → LeavesBare remote.block.children

/-- Whether the blocks of a level have no children but those that their kinds bear. -/
def BareLevel (blocks : List Block) : Prop :=
  ∀ block ∈ blocks, block.kind.bearsChildren = false → block.children = []

/-- A run that adds to the log and gives a bare level, whose leaves are bare exactly when all listed
blocks that it comes from hold bare leaves: those that were given, and those that it lists. -/
structure TakesOver (given : List ListedBlock) (s s' : Logged σ) (log : Log) (blocks : List Block) :
    Prop where
  adds : s'.log = s.log ++ log
  bare : BareLevel blocks
  bareBelow : LeavesBare blocks ↔ ∀ remote ∈ given ++ log.shown, HoldsBareLeaves remote

theorem takesOver_single {remote : ListedBlock} {log : Log} {block : Block}
    (hlog : s'.log = s.log ++ log) (hbare : block.kind.bearsChildren = false → block.children = [])
    (h : LeavesBare block.children ↔ ∀ other ∈ remote :: log.shown, HoldsBareLeaves other) :
    TakesOver [remote] s s' log [block] where
  adds := hlog
  bare := List.forall_mem_singleton.2 hbare
  bareBelow := by
    rw [leavesBare_cons, h, List.singleton_append]
    exact ⟨fun hall => hall.2.1, fun hall => ⟨hbare, hall, leavesBare_nil⟩⟩

theorem TakesOver.cons {s₁ s₂ : Logged σ} {log log' : Log} {remote : ListedBlock}
    {given : List ListedBlock} {block : Block} {blocks : List Block}
    (h : TakesOver [remote] s s₁ log [block]) (h' : TakesOver given s₁ s₂ log' blocks) :
    TakesOver (remote :: given) s s₂ (log ++ log') (block :: blocks) where
  adds := by rw [h'.adds, h.adds, List.append_assoc]
  bare := List.forall_mem_cons.2 ⟨List.forall_mem_singleton.1 h.bare, h'.bare⟩
  bareBelow := by
    have hsplit : LeavesBare (block :: blocks) ↔ LeavesBare [block] ∧ LeavesBare blocks := by
      simp only [leavesBare_cons, leavesBare_nil, and_true, and_assoc]
    rw [hsplit, h.bareBelow, h'.bareBelow, Log.shown_append]
    simp only [List.forall_mem_append, List.forall_mem_cons, List.not_mem_nil, false_implies,
      implies_true, and_true]
    tauto

/-- Pulling the row of an id takes over what is listed for it. -/
def RowTakesOver (settings : Settings) (client : Client σ) (levels : Nat) : Prop :=
  ∀ id s s' blocks, pullLevel settings client.logged levels id s = some (.ok blocks, s') →
    ∃ log, TakesOver [] s s' log blocks

theorem pullListed_takesOver (hrow : RowTakesOver settings client levels) (remote : ListedBlock)
    {block : Block}
    (h : pullListed settings client.logged levels remote s = some (.ok block, s')) :
    ∃ log, TakesOver [remote] s s' log [block] := by
  have hstays : s.log = s.log ++ [] := (List.append_nil _).symm
  unfold pullListed at h
  split at h
  · next hleaf =>
    cases h
    have hbears : remote.block.kind.bearsChildren = false := by simpa using hleaf
    exact ⟨[], takesOver_single hstays (fun _ => rfl)
      (by simp [HoldsBareLeaves, hbears, Log.shown])⟩
  · next hbears =>
    have hbears : remote.block.kind.bearsChildren = true := by simpa using hbears
    have hkept : TakesOver [remote] s s [] [remote.block] :=
      takesOver_single hstays (by simp [hbears]) (by simp [HoldsBareLeaves, hbears, Log.shown])
    split at h
    · next hlist =>
      rcases hid : remote.block.id with _ | id <;> simp only [hid] at h
      · cases h
        exact ⟨[], hkept⟩
      · obtain ⟨children, s₁, hchildren, hblock⟩ := ok_of_bind_eq_ok h
        cases hblock
        obtain ⟨log, htaken⟩ := hrow id s _ children hchildren
        -- A block whose children are listed apart comes without any.
        have hempty : remote.block.children = [] := by
          simp only [Bool.and_eq_true, List.isEmpty_iff] at hlist
          exact hlist.2
        refine ⟨log, takesOver_single htaken.adds (by simp [hbears]) ?_⟩
        rw [htaken.bareBelow]
        simp [HoldsBareLeaves, hempty]
    · cases h
      exact ⟨[], hkept⟩

theorem mapM_pullListed_takesOver (hrow : RowTakesOver settings client levels)
    (listed : List ListedBlock) : ∀ (s s' : Logged σ) (blocks : List Block),
      listed.mapM (pullListed settings client.logged levels) s = some (.ok blocks, s') →
        ∃ log, TakesOver listed s s' log blocks := by
  induction listed with
  | nil =>
    intro s s' blocks h
    cases h
    exact ⟨[], (List.append_nil _).symm, List.forall_mem_nil _, by simp [Log.shown]⟩
  | cons remote listed ih =>
    intro s s' blocks h
    rw [List.mapM_cons] at h
    obtain ⟨block, s₁, hblock, hrest⟩ := ok_of_bind_eq_ok h
    obtain ⟨others, s₂, hothers, hpure⟩ := ok_of_bind_eq_ok hrest
    cases hpure
    obtain ⟨log, hfirst⟩ := pullListed_takesOver hrow remote hblock
    obtain ⟨log', hothers⟩ := ih s₁ _ others hothers
    exact ⟨log ++ log', hfirst.cons hothers⟩

theorem pullLevel_takesOver (settings : Settings) (client : Client σ) (levels : Nat) :
    RowTakesOver settings client levels := by
  induction levels with
  | zero =>
    intro id s s' blocks h
    cases h
  | succ levels ih =>
    intro id s s' blocks h
    rw [pullLevel_succ] at h
    obtain ⟨listed, s₁, hlist, hrest⟩ := ok_of_bind_eq_ok h
    obtain ⟨log, hlog, rfl⟩ := listAll_shown hlist
    obtain ⟨log', htaken⟩ := mapM_pullListed_takesOver ih _ _ _ _ hrest
    refine ⟨log ++ log', ?_, htaken.bare, ?_⟩
    · rw [htaken.adds, hlog, List.append_assoc]
    · rw [htaken.bareBelow, Log.shown_append, List.nil_append]

/-! ### What was pulled -/

/-- A pulled page never has children right below a block of its top level that bears none. At every
depth its leaves are bare exactly when no listed block that bears children came with some that are
not, and then rendering the page reports no misplaced children; otherwise it is refused. -/
theorem pull_leavesBare_iff {page : String} {s s' : σ} {forest : List Block}
    (h : pull settings client page s = some (.ok forest, s')) :
    ∃ log : Log, pull settings client.logged page ⟨s, []⟩ = some (.ok forest, ⟨s', log⟩) ∧
      BareLevel forest ∧
      (LeavesBare forest ↔ ∀ remote ∈ log.shown, HoldsBareLeaves remote) ∧
      (LeavesBare forest → ∀ context name,
        Render.render context forest ≠ .error (.childrenNotAllowed name)) ∧
      (¬LeavesBare forest → ∀ context, ∃ fault, Render.render context forest = .error fault) := by
  have hlogged := pull_erases settings client page ⟨s, []⟩
  rw [h] at hlogged
  obtain ⟨⟨result, s₁, log⟩, hrun, hsame⟩ := Option.map_eq_some_iff.1 hlogged
  cases hsame
  obtain ⟨log', htaken⟩ := pullLevel_takesOver settings client _ page _ _ _ hrun
  obtain rfl : log = log' := htaken.adds
  refine ⟨log, hrun, htaken.bare, htaken.bareBelow,
    fun hbare context => Render.render_ne_childrenNotAllowed context hbare, fun hbare context => ?_⟩
  rcases hcheck : Page.check forest with fault | _
  · exact ⟨fault, Render.render_of_check_eq_error context hcheck⟩
  · exact absurd (Page.leavesBare_of_checkAll hcheck) hbare

/-- A quote that comes with a divider, below which there is another one. -/
def quotedDividers : Block :=
  ⟨some "quote", .text .quote [], [⟨some "divider", .divider, [.leaf .divider]⟩]⟩

/-- A service that shows the same listed block under every id. -/
def showing (remote : ListedBlock) : Client Unit where
  create _ _ _ := pure ""
  update _ _ := pure ()
  append _ _ := pure ()
  delete _ := pure ()
  list _ _ := pure ⟨[remote], none⟩

theorem pull_quotedDividers :
    ∃ forest s, pull {} (showing ⟨quotedDividers, false⟩) "page" () = some (.ok forest, s) ∧
      ¬LeavesBare forest ∧ ∀ context, ∃ fault, Render.render context forest = .error fault := by
  have hlist (onFailure : String → SyncError) :
      listAll (showing ⟨quotedDividers, false⟩) onFailure "page" () =
        some (.ok [⟨quotedDividers, false⟩], ()) :=
    have hpage : (showing ⟨quotedDividers, false⟩).list "page" none () =
        .ok ⟨[⟨quotedDividers, false⟩], none⟩ () := rfl
    listFrom_of_last hpage rfl
  have hpull : pull {} (showing ⟨quotedDividers, false⟩) "page" () =
      some (.ok [quotedDividers], ()) := bind_of_ok (hlist _)
  obtain ⟨-, -, -, -, -, hrefused⟩ := pull_leavesBare_iff hpull
  have hbare : ¬LeavesBare [quotedDividers] := by
    intro hbare
    have hdivider := hbare ⟨some "divider", .divider, [.leaf .divider]⟩ (by decide) rfl
    cases hdivider
  exact ⟨[quotedDividers], (), hpull, hbare, hrefused hbare⟩

end NoteBridge.Sync
