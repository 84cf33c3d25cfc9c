import NoteBridge.Proofs.Dict
import NoteBridge.Resolver

/-!
The name index after any insertions. A page has the name of its last insertion, and a name leads to
the page of its own last insertion, in whatever case. An insertion of the name for another page
leaves the first page its name, so the two agree until then.
-/

namespace NoteBridge.NameIndex

open Text (toSmallString trim)

variable {entries : List (String × String)} {name page : String}

theorem ofList_eq (entries : List (String × String)) :
    ofList entries = ⟨Dict.ofList (entries.map fun e => (toSmallString e.1, e.2)),
      Dict.ofList (entries.map fun e => (e.2, e.1))⟩ := by
  induction entries using List.reverseRecOn with
  | nil => rfl
  | append_singleton entries entry ih =>
    have hinsert : ofList (entries ++ [entry]) = (ofList entries).insert entry.1 entry.2 := by
      rw [ofList, List.foldl_append]
      rfl
    rw [hinsert, ih, List.map_append, List.map_append, List.map_singleton, List.map_singleton,
      Dict.ofList_concat, Dict.ofList_concat]
    rfl

theorem name?_eq_some_iff :
    (ofList entries).name? page = some name ↔
      ∃ before after, entries = before ++ (name, page) :: after ∧ ∀ e ∈ after, e.2 ≠ page := by
  rw [name?, ofList_eq, Dict.find?_ofList_map_eq_some_iff]
  constructor
  · rintro ⟨before, ⟨_, _⟩, after, rfl, rfl, rfl, hafter⟩
    exact ⟨before, after, rfl, hafter⟩
  · rintro ⟨before, after, rfl, hafter⟩
    exact ⟨before, (name, page), after, rfl, rfl, rfl, hafter⟩

/-- A name without blanks around it that was inserted is looked up as it is. -/
theorem page?_eq_some_iff (htrim : trim name.toList = name.toList) (h : (name, page) ∈ entries)
    {found : String} :
    (ofList entries).page? name = some found ↔
      ∃ before other after, entries = before ++ (other, found) :: after ∧
        toSmallString other = toSmallString name ∧
        ∀ e ∈ after, toSmallString e.1 ≠ toSmallString name := by
  have hkey : toSmallString name = String.ofList (Text.toSmall (trim name.toList)) := by
    rw [htrim]
    rfl
  have hfind : (ofList entries).page? name = (ofList entries).pages.find? (toSmallString name) := by
    rw [page?, hkey]
    split
    · next hsome => exact hsome.symm
    · next hnone =>
      rw [← hkey, ofList_eq, Dict.find?_ofList_map_eq_none_iff] at hnone
      exact absurd rfl (hnone (name, page) h)
  rw [hfind, ofList_eq, Dict.find?_ofList_map_eq_some_iff]
  constructor
  · rintro ⟨before, ⟨other, _⟩, after, rfl, hother, rfl, hafter⟩
    exact ⟨before, other, after, rfl, hother, hafter⟩
  · rintro ⟨before, other, after, rfl, hother, hafter⟩
    exact ⟨before, (other, found), after, rfl, hother, rfl, hafter⟩

/-- A page that was only ever inserted under one name has this name. -/
theorem name?_of_forall_mem (h : (name, page) ∈ entries)
    (honly : ∀ other, (other, page) ∈ entries → other = name) :
    (ofList entries).name? page = some name := by
  cases hname : (ofList entries).name? page with
  | none =>
    rw [name?, ofList_eq, Dict.find?_ofList_map_eq_none_iff] at hname
    exact absurd rfl (hname (name, page) h)
  | some other =>
    obtain ⟨before, after, rfl, -⟩ := name?_eq_some_iff.1 hname
    rw [honly other (List.mem_append_right _ (List.mem_cons_self ..))]

/-- Where no name and no page is inserted twice, names and pages lead to each other. -/
theorem lead_to_each_other (hnames : (entries.map fun e => toSmallString e.1).Nodup)
    (hpages : (entries.map Prod.snd).Nodup) (htrim : trim name.toList = name.toList)
    (h : (name, page) ∈ entries) :
    (ofList entries).name? page = some name ∧ (ofList entries).page? name = some page := by
  obtain ⟨before, after, rfl⟩ := List.append_of_mem h
  rw [List.map_append, List.map_cons, List.nodup_append] at hnames hpages
  have hname := (List.nodup_cons.1 hnames.2.1).1
  have hpage := (List.nodup_cons.1 hpages.2.1).1
  rw [name?_eq_some_iff, page?_eq_some_iff htrim h]
  refine ⟨⟨before, after, rfl, fun e he heq => hpage ?_⟩,
    ⟨before, name, after, rfl, rfl, fun e he heq => hname ?_⟩⟩
  · exact List.mem_map.2 ⟨e, he, heq⟩
  · exact List.mem_map.2 ⟨e, he, heq⟩

/-- The name of a page leads back to the page if and only if the name was not inserted again, in any
case, after the page was last inserted. -/
theorem leads_back_iff (htrim : trim name.toList = name.toList)
    (h : (ofList entries).name? page = some name) :
    (ofList entries).page? name = some page ↔
      ∃ before after, entries = before ++ (name, page) :: after ∧
        ∀ e ∈ after, e.2 ≠ page ∧ toSmallString e.1 ≠ toSmallString name := by
  obtain ⟨before, after, hentries, hafter⟩ := name?_eq_some_iff.1 h
  have hmem : (name, page) ∈ entries := by
    rw [hentries]
    exact List.mem_append_right _ (List.mem_cons_self ..)
  rw [page?_eq_some_iff htrim hmem]
  constructor
  · rintro ⟨before', other, after', hentries', -, hafter'⟩
    refine ⟨before, after, hentries, fun e he => ⟨hafter e he, hafter' e ?_⟩⟩
    -- no later insertion is of the page, so the one that counts for the name is not later either
    rcases List.append_eq_append_iff.1 (hentries.symm.trans hentries') with
      ⟨middle, -, hmiddle⟩ | ⟨middle, -, hmiddle⟩
    · cases middle with
      | nil =>
        cases hmiddle
        exact he
      | cons first middle =>
        cases hmiddle
        exact absurd rfl (hafter (other, page) (by simp))
    · cases middle with
      | nil =>
        cases hmiddle
        exact he
      | cons first middle =>
        cases hmiddle
        exact List.mem_append_right _ (List.mem_cons_of_mem _ he)
  · rintro ⟨before, after, hentries, hafter⟩
    exact ⟨before, name, after, hentries, rfl, fun e he => (hafter e he).2⟩

/-- A name that is given to a second page. -/
def reassigned : List (String × String) := [("Plan", "p1"), ("Plan", "p2")]

/-- The first page keeps the name, which leads to the second one. -/
theorem reassigned_name_leads_elsewhere :
    (ofList reassigned).name? "p1" = some "Plan" ∧
      (ofList reassigned).page? "Plan" ≠ some "p1" := by
  have hname : (ofList reassigned).name? "p1" = some "Plan" := by decide
  refine ⟨hname, ?_⟩
  rw [Ne, leads_back_iff (by decide) hname]
  rintro ⟨before, after, hentries, hafter⟩
  match before, hentries with
  | [], hentries =>
    cases hentries
    exact (hafter ("Plan", "p2") (List.mem_singleton_self _)).2 rfl
  | [_], hentries => simp [reassigned] at hentries
  | _ :: _ :: before, hentries => simp [reassigned] at hentries

end NoteBridge.NameIndex
