import Mathlib.Data.List.Basic
import NoteBridge.Page.Property
import NoteBridge.Sync.Run

/-!
The length of runs. Cutting a text gives pieces within the limit, so a run that is bounded fits
into a page. The runs of a page are those of its properties and of its blocks at every depth:
texts, captions and the cells of tables.
-/

namespace NoteBridge.Page

/-! ### Pieces within the limit -/

theorem cutPoint_le (limit : Nat) (cs : List Char) : cutPoint limit cs ≤ limit := by
  unfold cutPoint
  simp only
  split
  · exact Nat.le_refl limit
  · rw [Text.dropEndWhile, List.length_reverse]
    have hle := (List.dropWhile_suffix (l := (cs.take limit).reverse) (· != '\n')).length_le
    rw [List.length_reverse, List.length_take] at hle
    omega

theorem length_le_of_mem_splitText {limit : Nat} {cs piece : List Char}
    (h : piece ∈ splitText limit cs) : piece.length ≤ max limit 1 := by
  fun_induction splitText limit cs with
  | case1 cs _ _ ih =>
    rcases List.mem_cons.1 h with rfl | h
    · have hcut := cutPoint_le (max limit 1) cs
      rw [List.length_take]
      omega
    · exact ih h
  | case2 => cases h
  | case3 cs hshort =>
    rw [List.mem_singleton.1 h]
    omega

/-- Whether a page accepts the run. -/
def Run.Fits (run : Run) : Prop := run.chars.length ≤ runLimit

instance : DecidablePred Run.Fits := fun _ => Nat.decLe _ _

@[simp] theorem Run.fits_text (content : String) (style : Style) :
    (Run.text content style).Fits ↔ content.toList.length ≤ runLimit :=
  Iff.rfl

@[simp] theorem Run.fits_withChars (run : Run) (cs : List Char) :
    (run.withChars cs).Fits ↔ cs.length ≤ runLimit := by
  simp [Run.Fits, Run.withChars, Run.chars]

theorem length_le_runLimit {cs piece : List Char} (h : piece ∈ splitText runLimit cs) :
    piece.length ≤ runLimit :=
  length_le_of_mem_splitText h

theorem Run.fits_of_mem_bounded {run piece : Run} (h : piece ∈ run.bounded) : piece.Fits := by
  unfold Run.bounded at h
  split at h
  · next hshort =>
    rw [List.mem_singleton.1 h]
    exact hshort
  · split at h
    · obtain ⟨cs, hcs, rfl⟩ := List.mem_map.1 h
      exact (Run.fits_withChars run cs).2 (length_le_runLimit hcs)
    · obtain ⟨cs, hcs, rfl⟩ := List.mem_map.1 h
      simpa using length_le_runLimit hcs
    · rw [List.mem_singleton.1 h, Run.fits_withChars]
      exact List.length_take_le _ _

theorem fits_of_mem_boundRuns {runs : List Run} : ∀ run ∈ boundRuns runs, run.Fits := by
  intro piece h
  obtain ⟨run, -, hrun⟩ := List.mem_flatMap.1 h
  exact Run.fits_of_mem_bounded hrun

/-! ### The runs of a page -/

/-- The runs that a block shows itself. -/
@[simp] def BlockKind.runs : BlockKind → List Run
  | .text _ runs _ | .toDo runs _ | .callout runs _ _ => runs
  | .code runs _ caption => runs ++ caption
  | .media _ _ caption => caption
  | .tableRow cells => cells.flatten
  | .divider | .equation _ | .table .. | .columnList | .column | .syncedBlock | .childPage _
  | .unsupported _ => []

mutual

/-- The runs of a block and of all blocks below it. -/
def Block.runs : Block → List Run
  | ⟨_, kind, children⟩ => kind.runs ++ runsOf children

def runsOf : List Block → List Run
  | [] => []
  | block :: blocks => block.runs ++ runsOf blocks

end

@[simp] theorem runsOf_append (as bs : List Block) :
    runsOf (as ++ bs) = runsOf as ++ runsOf bs := by
  induction as with
  | nil => rfl
  | cons a as ih => simp [runsOf, ih]

theorem runsOf_cons (block : Block) (blocks : List Block) :
    runsOf (block :: blocks) = block.kind.runs ++ runsOf block.children ++ runsOf blocks := by
  obtain ⟨id, kind, children⟩ := block
  rw [runsOf, Block.runs]

@[simp] theorem runsOf_single (block : Block) : runsOf [block] = block.runs := by
  rw [runsOf, runsOf, List.append_nil]

@[simp] theorem Block.runs_leaf (kind : BlockKind) : (Block.leaf kind).runs = kind.runs := by
  rw [Block.leaf, Block.runs, runsOf, List.append_nil]

def PropertyValue.runs : PropertyValue → List Run
  | .title runs | .richText runs => runs
  | .number _ | .select _ | .multiSelect _ | .date _ | .checkbox _ | .url _ | .email _
  | .phoneNumber _ | .unsupported _ => []

def PropertySet.runs (properties : PropertySet) : List Run :=
  properties.entries.flatMap fun entry => entry.2.runs

end NoteBridge.Page

namespace NoteBridge.Sync

/-- All runs of a page, those of its properties first. -/
def TargetPage.runs (page : TargetPage) : List Page.Run :=
  page.properties.runs ++ Page.runsOf page.children

end NoteBridge.Sync
