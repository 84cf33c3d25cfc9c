import NoteBridge.Page.Wire.Run
import NoteBridge.Proofs.Json.Field

/-!
Runs read back from their JSON form. What is written carries all of a run, so reading gives the run
again, whatever its kind, its style and its text.
-/

namespace NoteBridge.Page

open Json (field?_object record?_object)

@[simp] theorem Color.ofJson?_name (color : Color) : Color.ofJson? (.str color.name) = some color :=
  Color.ofName?_name color

theorem Style.ofJson?_toJson (style : Style) : Style.ofJson? style.toJson = some style := by
  unfold Style.ofJson? Style.toJson
  rw [record?_object]
  simp [fieldNames, Entries.find?, Json.optional, Json.bool?]

theorem Run.ofJson_toJson (run : Run) : Run.ofJson run.toJson = .ok run := by
  obtain ⟨content, style, kind⟩ := run
  have hstyle := Style.ofJson?_toJson style
  cases kind with
  | text link =>
    have hlink : ((Json.ofOption (fun url => Json.object [("url", .str url)]) link).field?
        "url").bind Json.string? = link := by
      cases link with
      | none => rfl
      | some url => simp [Json.ofOption, field?_object, Entries.find?, Json.string?]
    simp [Run.ofJson, Run.toJson, field?_object, Json.stringField?, Entries.find?, hstyle,
      Json.string?, hlink]
    rfl
  | mention page =>
    simp [Run.ofJson, Run.toJson, mentioned?, field?_object, Json.stringField?, Entries.find?,
      hstyle, Json.string?]
    rfl
  | equation =>
    simp [Run.ofJson, Run.toJson, field?_object, Json.stringField?, Entries.find?, hstyle,
      Json.string?]
    rfl

theorem runsOfJson_runsToJson (runs : List Run) :
    runsOfJson (some (runsToJson runs)) = .ok runs := by
  change (runs.map Run.toJson).mapM Run.ofJson = _
  induction runs with
  | nil => rfl
  | cons run runs ih =>
    rw [List.map_cons, List.mapM_cons, Run.ofJson_toJson, ih]
    rfl

end NoteBridge.Page
