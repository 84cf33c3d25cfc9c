import Mathlib.Data.List.Chain
import NoteBridge.Proofs.Page.Plain

/-!
Merged runs as a normal form. As far as merging can tell, a text is its characters one by one, so
what it comes to depends on the stream of the runs alone. It leaves no empty text and no two
neighbours that nothing tells apart, and there is no other list of such runs with the same stream.
-/

namespace NoteBridge.Page

variable {run next : Run} {runs others : List Run}

/-- Whether both are text in the same style, with the same link or none. -/
def Run.Alike (run next : Run) : Prop :=
  (∃ link, run.kind = .text link ∧ next.kind = .text link) ∧ run.style = next.style

/-- Whether no text is empty and no two neighbours are alike. -/
structure IsMerged (runs : List Run) : Prop where
  shown : ∀ run ∈ runs, run.isText = true → run.content ≠ ""
  apart : runs.IsChain fun run next => ¬run.Alike next

/-! ### One run -/

theorem Run.isText_iff : run.isText = true ↔ ∃ link, run.kind = .text link := by
  obtain ⟨content, style, kind⟩ := run
  cases kind with
  | text link => exact ⟨fun _ => ⟨link, rfl⟩, fun _ => rfl⟩
  | mention | equation => exact ⟨nofun, nofun⟩

theorem Run.joins_iff : run.joins next = true ↔ run.Alike next := by
  rw [joins, Bool.and_eq_true, Bool.and_eq_true, beq_iff_eq, beq_iff_eq, isText_iff]
  constructor
  · rintro ⟨⟨⟨link, hlink⟩, hkind⟩, hstyle⟩
    exact ⟨⟨link, hlink, hkind ▸ hlink⟩, hstyle⟩
  · rintro ⟨⟨link, hrun, hnext⟩, hstyle⟩
    exact ⟨⟨⟨link, hrun⟩, hrun.trans hnext.symm⟩, hstyle⟩

theorem Run.chars_eq_nil_iff : run.chars = [] ↔ run.content = "" := String.toList_eq_nil_iff

theorem Run.items_ne_nil_iff : run.items ≠ [] ↔ (run.isText = true → run.content ≠ "") := by
  rw [Ne, items_eq_nil_iff, Bool.and_eq_true, List.isEmpty_iff, chars_eq_nil_iff, not_and]

/-! ### One run before merged ones -/

/-- A run before runs that are merged already. -/
def Run.attach (run : Run) : List Run → List Run
  | [] => [run]
  | next :: runs =>
    if run.joins next then run.withChars (run.chars ++ next.chars) :: runs else run :: next :: runs

theorem mergeRuns_cons_of_items_eq_nil (h : run.items = []) (rest : List Run) :
    mergeRuns (run :: rest) = mergeRuns rest := by
  rw [mergeRuns, if_pos (Run.items_eq_nil_iff.1 h)]

theorem mergeRuns_cons_of_items_ne_nil (h : run.items ≠ []) (rest : List Run) :
    mergeRuns (run :: rest) = run.attach (mergeRuns rest) := by
  rw [mergeRuns, if_neg (mt Run.items_eq_nil_iff.2 h)]
  cases mergeRuns rest <;> rfl

theorem Run.isChain_attach (run : Run) (h : runs.IsChain fun run next => ¬run.Alike next) :
    (run.attach runs).IsChain fun run next => ¬run.Alike next := by
  cases runs with
  | nil => exact .singleton _
  | cons next runs =>
    rw [attach]
    split
    · next hjoins =>
      -- the joined run differs from its neighbour in what the second of the two did
      obtain ⟨⟨link, hrun, hnext⟩, hstyle⟩ := joins_iff.1 hjoins
      cases runs with
      | nil => exact .singleton _
      | cons third runs =>
        obtain ⟨hthird, hruns⟩ := List.isChain_cons_cons.1 h
        refine List.isChain_cons_cons.2 ⟨fun halike => hthird ?_, hruns⟩
        obtain ⟨⟨link', hrun', hthird'⟩, hstyle'⟩ := halike
        refine ⟨⟨link', ?_, hthird'⟩, hstyle.symm.trans hstyle'⟩
        exact (hnext.trans hrun.symm).trans hrun'
    · next hjoins => exact List.isChain_cons_cons.2 ⟨mt joins_iff.2 hjoins, h⟩

/-! ### What merging leaves -/

theorem isMerged_mergeRuns (runs : List Run) : IsMerged (mergeRuns runs) := by
  refine ⟨fun run hrun => Run.items_ne_nil_iff.1 (items_ne_nil_of_mem_mergeRuns hrun), ?_⟩
  induction runs with
  | nil => exact .nil
  | cons run rest ih =>
    by_cases hitems : run.items = []
    · rwa [mergeRuns_cons_of_items_eq_nil hitems]
    · rw [mergeRuns_cons_of_items_ne_nil hitems]
      exact run.isChain_attach ih

theorem mergeRuns_eq_self (h : IsMerged runs) : mergeRuns runs = runs := by
  induction runs with
  | nil => rfl
  | cons run rest ih =>
    have hrest : mergeRuns rest = rest :=
      ih ⟨fun run hrun => h.shown run (List.mem_cons_of_mem _ hrun), h.apart.tail⟩
    have hitems : run.items ≠ [] := Run.items_ne_nil_iff.2 (h.shown run (List.mem_cons_self ..))
    rw [mergeRuns_cons_of_items_ne_nil hitems, hrest]
    cases rest with
    | nil => rfl
    | cons next rest => exact if_neg (mt Run.joins_iff.1 (List.isChain_cons_cons.1 h.apart).1)

/-! ### Runs of one item -/

/-- The run that holds one item. -/
def Item.toRun : Item → Run
  | .char c style link => ⟨String.ofList [c], style, .text link⟩
  | .mention shown page style => .mention shown page style
  | .equation expression style => .equation expression style

theorem mergeRuns_cons_congr (run : Run) (h : mergeRuns runs = mergeRuns others) :
    mergeRuns (run :: runs) = mergeRuns (run :: others) := by
  rw [mergeRuns, mergeRuns, h]

/-- Two texts that are alike go before merged runs as the text that they make up does. -/
theorem Run.attach_attach (style : Style) (link : Option String) (as bs : List Char)
    (merged : List Run) :
    attach ⟨String.ofList as, style, .text link⟩
        (attach ⟨String.ofList bs, style, .text link⟩ merged) =
      attach ⟨String.ofList (as ++ bs), style, .text link⟩ merged := by
  cases merged with
  | nil => simp [attach, joins, isText, withChars, chars]
  | cons next merged =>
    by_cases hnext : RunKind.text link = next.kind ∧ style = next.style
    · simp [attach, joins, isText, withChars, chars, hnext]
    · simp [attach, joins, isText, withChars, chars, hnext]

theorem Run.items_ofList (style : Style) (link : Option String) (cs : List Char) :
    items ⟨String.ofList cs, style, .text link⟩ = charItems style link cs :=
  congrArg (charItems style link) String.toList_ofList

/-- A text merges as its characters do, each as a run. -/
theorem mergeRuns_map_charItems (style : Style) (link : Option String) (cs : List Char)
    (rest : List Run) :
    mergeRuns ((charItems style link cs).map Item.toRun ++ rest) =
      mergeRuns (⟨String.ofList cs, style, .text link⟩ :: rest) := by
  have hshown : ∀ c cs, Run.items ⟨String.ofList (c :: cs), style, .text link⟩ ≠ [] := by
    intro c cs
    rw [Run.items_ofList]
    exact List.cons_ne_nil _ _
  induction cs with
  | nil =>
    rw [mergeRuns]
    exact (if_pos rfl).symm
  | cons c cs ih =>
    cases cs with
    | nil => rfl
    | cons d cs =>
      refine (mergeRuns_cons_congr _ ih).trans ?_
      rw [Item.toRun, mergeRuns_cons_of_items_ne_nil (hshown c []),
        mergeRuns_cons_of_items_ne_nil (hshown d cs), Run.attach_attach, List.singleton_append,
        mergeRuns_cons_of_items_ne_nil (hshown c (d :: cs))]

theorem mergeRuns_map_items (run : Run) (rest : List Run) :
    mergeRuns (run.items.map Item.toRun ++ rest) = mergeRuns (run :: rest) := by
  obtain ⟨content, style, kind⟩ := run
  cases kind with
  | text link =>
    have h := mergeRuns_map_charItems style link content.toList rest
    rwa [String.ofList_toList] at h
  | mention page => rfl
  | equation => rfl

/-- What runs merge to can be told from their stream. -/
theorem mergeRuns_map_stream (runs : List Run) :
    mergeRuns ((stream runs).map Item.toRun) = mergeRuns runs := by
  induction runs with
  | nil => rfl
  | cons run rest ih =>
    rw [stream_cons, List.map_append, mergeRuns_map_items]
    exact mergeRuns_cons_congr run ih

/-! ### The normal form -/

theorem mergeRuns_eq_mergeRuns_iff :
    mergeRuns runs = mergeRuns others ↔ stream runs = stream others := by
  constructor
  · intro h
    rw [← stream_mergeRuns runs, h, stream_mergeRuns]
  · intro h
    rw [← mergeRuns_map_stream runs, h, mergeRuns_map_stream]

/-- Merged runs are the only ones with their stream in which no text is empty and no two neighbours
are alike. So lists of runs merge to the same one exactly when they show the same. -/
theorem mergeRuns_normalForm (runs : List Run) :
    stream (mergeRuns runs) = stream runs ∧
      IsMerged (mergeRuns runs) ∧
      (∀ merged, IsMerged merged → stream merged = stream runs → merged = mergeRuns runs) ∧
      (∀ others, mergeRuns runs = mergeRuns others ↔ stream runs = stream others) ∧
      mergeRuns (mergeRuns runs) = mergeRuns runs := by
  refine ⟨stream_mergeRuns runs, isMerged_mergeRuns runs, fun merged hmerged hstream => ?_,
    fun others => mergeRuns_eq_mergeRuns_iff, mergeRuns_eq_self (isMerged_mergeRuns runs)⟩
  rw [← mergeRuns_eq_self hmerged]
  exact mergeRuns_eq_mergeRuns_iff.2 hstream

end NoteBridge.Page
