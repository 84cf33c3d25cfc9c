import NoteBridge.Page.Wire.Block
import NoteBridge.Proofs.Page.Fault
import NoteBridge.Proofs.Page.Forest
import NoteBridge.Proofs.Page.Wire.Run

/-!
Blocks read back from their JSON form. Every known kind survives with all it holds. A kind that is
not known keeps nothing but its name, which may clash with that of a known kind, or with a field of
the block itself; these clashes are the only way to lose something.
-/

namespace NoteBridge.Page

open Json (object field?_object)

/-- The 25 type names that reading tells apart. -/
def BlockKind.knownNames : List String :=
  TextForm.all.map TextForm.name ++ MediaForm.all.map MediaForm.name ++
    ["to_do", "callout", "code", "divider", "equation", "table", "table_row", "column_list",
      "column", "synced_block", "child_page"]

/-- Whether the name of an unknown kind stands for itself: it is no known name, does not hide the
type, and hides the id only where there is none. -/
def Block.Legible (block : Block) : Prop :=
  ∀ name, block.kind = .unsupported name →
    name ∉ BlockKind.knownNames ∧ name ≠ "type" ∧ (name = "id" → block.id = none)

/-! ### Kinds -/

theorem TextForm.ofName?_name (form : TextForm) : ofName? form.name = some form := by
  cases form <;> decide

theorem MediaForm.ofName?_name (form : MediaForm) : ofName? form.name = some form := by
  cases form <;> decide

theorem TextForm.ofName?_mediaName (form : MediaForm) : ofName? form.name = none := by
  cases form <;> decide

theorem TextForm.ofName?_eq_none_iff {name : String} :
    ofName? name = none ↔ name ∉ all.map TextForm.name := by
  simp only [ofName?, List.find?_eq_none, List.mem_map, beq_iff_eq, not_exists, not_and]

theorem MediaForm.ofName?_eq_none_iff {name : String} :
    ofName? name = none ↔ name ∉ all.map MediaForm.name := by
  simp only [ofName?, List.find?_eq_none, List.mem_map, beq_iff_eq, not_exists, not_and]

/-- Reading gives an unknown kind exactly for a name that is not known, and keeps the name. -/
theorem BlockKind.ofBody_eq_unsupported_iff {name other : String} {body : Json} :
    ofBody name body = .ok (.unsupported other) ↔ name ∉ knownNames ∧ name = other := by
  simp only [knownNames, List.mem_append, not_or, ← TextForm.ofName?_eq_none_iff,
    ← MediaForm.ofName?_eq_none_iff]
  unfold ofBody
  rcases TextForm.ofName? name with _ | form
  · rcases MediaForm.ofName? name with _ | form
    · simp only [true_and]
      split
      case h_7 => split <;> simp [bind_eq_ok_iff, pure, Except.pure]
      case h_12 => simp_all [pure, Except.pure]
      all_goals simp [bind_eq_ok_iff, pure, Except.pure]
    · simp [bind_eq_ok_iff, pure, Except.pure]
  · simp [bind_eq_ok_iff, pure, Except.pure]

theorem mapM_runsOfJson (cells : List (List Run)) :
    (cells.map runsToJson).mapM (fun cell => runsOfJson (some cell)) = .ok cells := by
  induction cells with
  | nil => rfl
  | cons cell cells ih =>
    rw [List.map_cons, List.mapM_cons, runsOfJson_runsToJson, ih]
    rfl

/-- A kind is read back from its body, whatever stands beside it as children. -/
theorem BlockKind.ofBody_body {kind : BlockKind}
    (hname : ∀ name, kind = .unsupported name → name ∉ knownNames) {body : Json}
    (hbody : ∀ key, key ≠ "children" → body.field? key = (object kind.body).field? key) :
    ofBody kind.name body = .ok kind := by
  have hruns := runsOfJson_runsToJson
  cases kind with
  | text form runs color =>
    simp [ofBody, name, TextForm.ofName?_name, hbody, hruns, BlockKind.body, field?_object,
      Entries.find?, bodyColor, Functor.map, Except.map]
  | toDo runs checked =>
    simp [ofBody, name, hbody, hruns, flagField, BlockKind.body, field?_object, Entries.find?,
      Json.bool?]
    rfl
  | callout runs icon color =>
    simp [ofBody, name, hbody, hruns, bodyColor, BlockKind.body, field?_object, Entries.find?,
      Json.stringField?, Json.string?]
    rfl
  | code runs language caption =>
    simp [ofBody, name, hbody, hruns, BlockKind.body, field?_object, Entries.find?,
      Json.stringField?, Json.string?]
    rfl
  | divider => rfl
  | equation expression =>
    simp [ofBody, name, hbody, BlockKind.body, field?_object, Entries.find?, Json.stringField?,
      Json.string?]
    rfl
  | media form url caption =>
    have hurl : mediaUrl body = url := by
      cases form <;>
        simp [mediaUrl, hbody, BlockKind.body, field?_object, Entries.find?, Json.stringField?,
          Json.string?]
    have hcaption : body.field? "caption" = some (runsToJson caption) := by
      cases form <;> simp [hbody, BlockKind.body, field?_object, Entries.find?]
    simp [ofBody, name, TextForm.ofName?_mediaName, MediaForm.ofName?_name, hurl, hcaption, hruns,
      Functor.map, Except.map]
  | table width columnHeader rowHeader =>
    simp [ofBody, name, hbody, BlockKind.body, field?_object, Entries.find?, flagField, Json.bool?,
      Json.natural?]
    rfl
  | tableRow cells =>
    have hcells : body.field? "cells" = some (.arr (cells.map runsToJson)) := by
      simp [hbody, BlockKind.body, field?_object, Entries.find?]
    have hrow : ofBody "table_row" body =
        tableRow <$> (cells.map runsToJson).mapM fun cell => runsOfJson (some cell) := by
      simp only [ofBody, hcells, map_eq_pure_bind]
      rfl
    rw [name, hrow, mapM_runsOfJson]
    rfl
  | columnList => rfl
  | column => rfl
  | syncedBlock => rfl
  | childPage title =>
    simp [ofBody, name, hbody, BlockKind.body, field?_object, Entries.find?, Json.stringField?,
      Json.string?]
    rfl
  | unsupported name => exact ofBody_eq_unsupported_iff.2 ⟨hname name rfl, rfl⟩

/-! ### Fields of a written block -/

/-- The body that a block is written with. -/
def Block.fullBody (block : Block) : List (String × Json) :=
  block.kind.body ++
    if block.children.isEmpty then [] else [("children", .arr (listToJson block.children))]

theorem BlockKind.find?_children_body (kind : BlockKind) :
    Entries.find? "children" kind.body.reverse = none := by
  cases kind with
  | media form url caption => cases form <;> rfl
  | _ => rfl

theorem Block.field?_fullBody (block : Block) {key : String} (h : key ≠ "children") :
    (object block.fullBody).field? key = (object block.kind.body).field? key := by
  rw [field?_object, field?_object, fullBody, List.reverse_append, Entries.find?_append]
  split <;> simp [Entries.find?, Ne.symm h]

theorem Block.field?_children (block : Block) :
    (object block.fullBody).field? "children" =
      if block.children.isEmpty then none else some (.arr (listToJson block.children)) := by
  rw [field?_object, fullBody, List.reverse_append, Entries.find?_append,
    BlockKind.find?_children_body]
  split <;> simp [Entries.find?]

theorem Block.field?_toJson (block : Block) (key : String) :
    block.toJson.field? key =
      if block.kind.name = key then some (object block.fullBody)
      else if "type" = key then some (.str block.kind.name)
      else if "id" = key then block.id.map .str
      else if "object" = key then some (.str "block") else none := by
  obtain ⟨id, kind, children⟩ := block
  simp only [toJson, field?_object]
  cases id with
  | none =>
    by_cases h : "id" = key
    · subst h
      simp [Entries.find?, fullBody]
    · simp [Entries.find?, fullBody, h]
  | some id => simp [Entries.find?, fullBody]

theorem Block.typeField_toJson (block : Block) :
    block.toJson.stringField? "type" =
      if block.kind.name = "type" then none else some block.kind.name := by
  rw [Json.stringField?, field?_toJson]
  split <;> rfl

theorem Block.idField_toJson (block : Block) :
    block.toJson.stringField? "id" = if block.kind.name = "id" then none else block.id := by
  rw [Json.stringField?, field?_toJson]
  split
  · rfl
  · cases block.id <;> simp [Json.string?]

/-! ### Blocks -/

/-- Reading a written block, one level of it. -/
theorem Block.ofJson_toJson (block : Block) :
    ofJson block.toJson =
      if block.kind.name = "type" then .error .blockWithoutType
      else (do
        let kind ← BlockKind.ofBody block.kind.name (object block.fullBody)
        let children ← listOfJson (listToJson block.children)
        pure ⟨if block.kind.name = "id" then none else block.id, kind, children⟩) := by
  have hbody : block.toJson.field? block.kind.name = some (object block.fullBody) := by
    rw [field?_toJson, if_pos rfl]
  rw [ofJson, typeField_toJson, idField_toJson]
  by_cases htype : block.kind.name = "type"
  · simp only [htype, if_true]
  · simp only [htype, if_false]
    congr 1
    · rw [bodyOf, hbody, Option.getD_some]
    funext kind
    split
    · next h =>
      rw [hbody] at h
      cases h
    · next body h =>
      rw [hbody] at h
      cases h
      -- children are written only where there are some
      split
      · next items h =>
        rw [field?_children] at h
        split at h
        · cases h
        · cases h
          rfl
      · next h =>
        rw [field?_children] at h
        cases hc : block.children with
        | nil => rw [listToJson, listOfJson]; rfl
        | cons child children =>
          rw [hc] at h
          exact absurd rfl (h _)

/-- A name that is not known is that of a kind which is not known. -/
theorem BlockKind.eq_unsupported {kind : BlockKind} (h : kind.name ∉ knownNames) :
    kind = .unsupported kind.name := by
  cases kind with
  | text form runs color =>
    have hform : form.name ∈ TextForm.all.map TextForm.name := by cases form <;> decide
    simp only [knownNames, List.mem_append, not_or] at h
    exact absurd hform h.1.1
  | media form url caption =>
    have hform : form.name ∈ MediaForm.all.map MediaForm.name := by cases form <;> decide
    simp only [knownNames, List.mem_append, not_or] at h
    exact absurd hform h.1.2
  | unsupported name => rfl
  | _ => simp [name, knownNames] at h

/-- A block survives when its kind stands for itself and its children survive. -/
theorem Block.ofJson_toJson_eq_ok_iff (block : Block) :
    ofJson block.toJson = .ok block ↔
      block.Legible ∧ listOfJson (listToJson block.children) = .ok block.children := by
  have hunsupported : ∀ name ∉ BlockKind.knownNames, block.kind.name = name →
      block.kind = .unsupported name := fun name hname h => by
    subst h
    exact BlockKind.eq_unsupported hname
  rw [ofJson_toJson]
  obtain ⟨id, kind, children⟩ := block
  constructor
  · intro h
    split at h
    · cases h
    · next htype =>
      obtain ⟨kind', hkind, h⟩ := bind_eq_ok_iff.1 h
      obtain ⟨children', hchildren, h⟩ := bind_eq_ok_iff.1 h
      injection h with h
      obtain ⟨hid, rfl, rfl⟩ := Block.mk.inj h
      refine ⟨?_, hchildren⟩
      intro name hname
      cases hname
      refine ⟨(BlockKind.ofBody_eq_unsupported_iff.1 hkind).1, htype, ?_⟩
      intro hname
      rw [← hid]
      exact if_pos hname
  · rintro ⟨hlegible, hchildren⟩
    have htype : kind.name ≠ "type" := fun h =>
      (hlegible "type" (hunsupported "type" (by decide) h)).2.1 rfl
    have hid : (if kind.name = "id" then none else id) = id := by
      split
      · next h => exact ((hlegible "id" (hunsupported "id" (by decide) h)).2.2 rfl).symm
      · rfl
    have hkind := BlockKind.ofBody_body (fun name h => (hlegible name h).1)
      fun _ hkey => field?_fullBody ⟨id, kind, children⟩ hkey
    rw [if_neg htype, hkind, hchildren, hid]
    rfl

theorem listOfJson_listToJson_eq_ok_iff (blocks : List Block) :
    Block.listOfJson (Block.listToJson blocks) = .ok blocks ↔
      ∀ node ∈ nodesOf blocks, node.Legible := by
  induction blocks using forest_induct with
  | nil => simp [Block.listToJson, Block.listOfJson, nodesOf]
  | cons id kind children rest ihc ihr =>
    rw [forall_mem_nodesOf_cons, Block.forall_mem_nodes, ← ihr, ← ihc,
      ← Block.ofJson_toJson_eq_ok_iff, Block.listToJson, Block.listOfJson]
    simp [bind_eq_ok_iff, pure, Except.pure]

/-- Reading a written block gives the block again exactly when every node of an unknown kind in it
has a name of its own: not that of a known kind, not that of the type's field, and that of the id's
field only without an id. -/
theorem ofJson_toJson_eq_ok_iff_legible (block : Block) :
    Block.ofJson block.toJson = .ok block ↔ ∀ node ∈ block.nodes, node.Legible := by
  rw [Block.ofJson_toJson_eq_ok_iff, listOfJson_listToJson_eq_ok_iff, Block.forall_mem_nodes]

end NoteBridge.Page
