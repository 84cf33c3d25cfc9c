import Mathlib.Data.List.TakeWhile
import NoteBridge.Page.Run

/-!
Runs as a stream: each character of a text with the style and the link it is shown with, each
mention and each equation as one item. How runs are cut does not show in the stream. So merging
leaves it as it is, and the limit on the length of a run touches mentions and equations alone.
-/

namespace NoteBridge.Page

inductive Item
  | char (c : Char) (style : Style) (link : Option String)
  | mention (shown page : String) (style : Style)
  | equation (expression : String) (style : Style)
deriving DecidableEq, Repr

/-- The characters of a text that is shown alike throughout. -/
def charItems (style : Style) (link : Option String) (cs : List Char) : List Item :=
  cs.map fun c => .char c style link

def Run.items (run : Run) : List Item :=
  match run.kind with
  | .text link => charItems run.style link run.chars
  | .mention page => [.mention run.content page run.style]
  | .equation => [.equation run.content run.style]

def stream (runs : List Run) : List Item := runs.flatMap Run.items

variable {run : Run} {runs : List Run}

theorem stream_cons (run : Run) (runs : List Run) :
    stream (run :: runs) = run.items ++ stream runs :=
  List.flatMap_cons ..

@[simp] theorem stream_single (run : Run) : stream [run] = run.items :=
  List.append_nil _

theorem stream_append (runs others : List Run) :
    stream (runs ++ others) = stream runs ++ stream others :=
  List.flatMap_append ..

@[simp] theorem Run.items_text (content : String) (style : Style) :
    (Run.text content style).items = charItems style none content.toList := rfl

@[simp] theorem Run.items_linked (content url : String) (style : Style) :
    (Run.linked content url style).items = charItems style (some url) content.toList := rfl

/-! ### Merging -/

theorem Run.items_eq_nil_iff :
    run.items = [] ↔ (run.isText && run.chars.isEmpty) = true := by
  obtain ⟨content, style, kind⟩ := run
  cases kind <;> simp [Run.items, Run.isText, Run.chars, charItems]

theorem Run.items_withChars_append {next : Run} (h : run.joins next = true) :
    (run.withChars (run.chars ++ next.chars)).items = run.items ++ next.items := by
  obtain ⟨content, style, kind⟩ := run
  obtain ⟨nextContent, nextStyle, nextKind⟩ := next
  rw [Run.joins, Bool.and_eq_true, Bool.and_eq_true, beq_iff_eq, beq_iff_eq] at h
  obtain ⟨⟨htext, hkind⟩, hstyle⟩ := h
  dsimp only at hkind hstyle
  subst hkind hstyle
  cases kind with
  | text link => simp [Run.items, Run.withChars, Run.chars, charItems]
  | mention | equation => cases htext

theorem stream_mergeRuns (runs : List Run) : stream (mergeRuns runs) = stream runs := by
  induction runs with
  | nil => rfl
  | cons run rest ih =>
    rw [stream_cons, ← ih, mergeRuns]
    split
    · next hempty => rw [Run.items_eq_nil_iff.2 hempty, List.nil_append]
    · split
      · next hnil => rw [hnil, stream_cons]
      · next next runs hrest =>
        rw [hrest]
        split
        · next hjoins =>
          rw [stream_cons, stream_cons, Run.items_withChars_append hjoins, List.append_assoc]
        · rw [stream_cons]

/-! ### The limit -/

theorem flatten_splitText (limit : Nat) (cs : List Char) : (splitText limit cs).flatten = cs := by
  fun_induction splitText limit cs with
  | case1 cs _ _ ih => rw [List.flatten_cons, ih, List.take_append_drop]
  | case2 cs _ hempty => rw [List.isEmpty_iff.1 hempty, List.flatten_nil]
  | case3 cs => rw [List.flatten_cons, List.flatten_nil, List.append_nil]

theorem cutPoint_of_not_mem {limit : Nat} {cs : List Char} (h : '\n' ∉ cs.take limit) :
    cutPoint limit cs = limit := by
  have hnil : Text.dropEndWhile (· != '\n') (cs.take limit) = [] := by
    rw [Text.dropEndWhile, List.reverse_eq_nil_iff, List.dropWhile_eq_nil_iff]
    intro c hc
    have hne : c ≠ '\n' := fun heq => h (heq ▸ List.mem_reverse.1 hc)
    simpa using hne
  rw [cutPoint, hnil]
  rfl

/-- A text on one line that is too long is cut behind as many characters as fit. -/
theorem splitText_of_not_mem {limit : Nat} {cs : List Char} (hlimit : 0 < limit)
    (hlong : limit < cs.length) (hline : '\n' ∉ cs) :
    splitText limit cs = cs.take limit :: splitText limit (cs.drop limit) := by
  have hmax : max limit 1 = limit := by omega
  have hcut : cutPoint (max limit 1) cs = limit := by
    rw [hmax, cutPoint_of_not_mem (mt List.mem_of_mem_take hline)]
  rw [splitText, dif_pos (by rwa [hmax])]
  simp only [hcut]

/-- What the limit leaves of an item: the text shown for a mention is cut, and an equation that is
too long becomes code. -/
def Item.bounded : Item → List Item
  | .char c style link => [.char c style link]
  | .mention shown page style =>
    [.mention (String.ofList (shown.toList.take runLimit)) page style]
  | .equation expression style =>
    if expression.toList.length ≤ runLimit then [.equation expression style]
    else charItems { style with code := true } none expression.toList

theorem flatMap_bounded_charItems (style : Style) (link : Option String) (cs : List Char) :
    (charItems style link cs).flatMap Item.bounded = charItems style link cs := by
  induction cs with
  | nil => rfl
  | cons c cs ih =>
    rw [charItems, List.map_cons, List.flatMap_cons]
    exact congrArg (Item.char c style link :: ·) ih

/-- A text that is cut shows what it did, if all its pieces are shown alike. -/
theorem stream_map_splitText {f : List Char → Run} {style : Style} {link : Option String}
    (hf : ∀ piece, (f piece).items = charItems style link piece) (limit : Nat) (cs : List Char) :
    stream ((splitText limit cs).map f) = charItems style link cs := by
  have hpieces : Run.items ∘ f = charItems style link := funext hf
  rw [stream, List.flatMap_map]
  change (splitText limit cs).flatMap (Run.items ∘ f) = _
  rw [hpieces, List.flatMap_def]
  unfold charItems
  rw [← List.map_flatten, flatten_splitText]

theorem Run.stream_bounded (run : Run) : stream run.bounded = run.items.flatMap Item.bounded := by
  obtain ⟨content, style, kind⟩ := run
  unfold Run.bounded
  cases kind with
  | text link =>
    have hall : (charItems style link content.toList).flatMap Item.bounded =
        charItems style link content.toList := flatMap_bounded_charItems ..
    split
    · rw [stream_single]
      exact hall.symm
    · refine Eq.trans (stream_map_splitText (fun piece => ?_) runLimit _) hall.symm
      simp [Run.items, Run.withChars, Run.chars]
  | mention page =>
    split
    · next hshort =>
      have hwhole : content.toList.take runLimit = content.toList := List.take_of_length_le hshort
      simp [Run.items, Item.bounded, hwhole]
    · rfl
  | equation =>
    have hitem : ([.equation content style] : List Item).flatMap Item.bounded =
        Item.bounded (.equation content style) := List.append_nil _
    split
    · next hshort =>
      refine Eq.trans ?_ hitem.symm
      exact (if_pos hshort).symm
    · next hlong =>
      refine Eq.trans ?_ (hitem.trans (if_neg hlong)).symm
      refine stream_map_splitText (fun piece => ?_) runLimit _
      rw [Run.items_text, String.toList_ofList]

theorem stream_boundRuns (runs : List Run) :
    stream (boundRuns runs) = (stream runs).flatMap Item.bounded := by
  rw [stream, boundRuns, stream, List.flatMap_assoc, List.flatMap_assoc]
  congr 1
  funext run
  exact run.stream_bounded

end NoteBridge.Page
