import Mathlib.Data.List.Nodup
import Mathlib.Data.List.Pairwise
import NoteBridge.Compose.Paragraph
import NoteBridge.Proofs.Compose.Callout

/-!
Names and icons of callouts. Where the names of a table are apart in any case, a name leads to the
icon of its group. Where the icons are apart too, the icon leads back to the first name of the
group.
-/

namespace NoteBridge

open Compose (IsCalloutName localImageIcon)
open Text (eqIgnoringAsciiCase toAsciiLower)

namespace CalloutIcons

/-- Whether the groups of a table are told apart by their names and by their icons. All of them have
names, and neither a plain note nor a local image has the icon of a group. -/
structure Apart (icons : CalloutIcons) : Prop where
  named : ∀ group ∈ icons.groups, group.names ≠ []
  names : ∀ group ∈ icons.groups, ∀ name ∈ group.names, IsCalloutName name.toList
  namesApart : (icons.groups.flatMap CalloutGroup.names).Pairwise fun a b =>
    eqIgnoringAsciiCase a b = false
  iconsApart : (icons.groups.map CalloutGroup.icon).Nodup
  fallback : icons.fallback ∉ icons.groups.map CalloutGroup.icon
  localImage : localImageIcon ∉ icons.groups.map CalloutGroup.icon

instance (icons : CalloutIcons) : Decidable icons.Apart :=
  decidable_of_iff (_ ∧ _ ∧ _ ∧ _ ∧ _ ∧ _)
    ⟨fun ⟨h₁, h₂, h₃, h₄, h₅, h₆⟩ => ⟨h₁, h₂, h₃, h₄, h₅, h₆⟩,
      fun h => ⟨h.named, h.names, h.namesApart, h.iconsApart, h.fallback, h.localImage⟩⟩

example : standard.Apart := by decide +kernel

variable {icons : CalloutIcons} {group other : CalloutGroup} {name typed : String}

theorem eqIgnoringAsciiCase_iff {a b : String} :
    eqIgnoringAsciiCase a b = true ↔ toAsciiLower a.toList = toAsciiLower b.toList :=
  beq_iff_eq

theorem find?_eq_some_of_unique {α : Type} {p : α → Bool} {a : α} {as : List α} (hmem : a ∈ as)
    (ha : p a = true) (hunique : ∀ b ∈ as, p b = true → b = a) : as.find? p = some a := by
  cases hfind : as.find? p with
  | none => exact absurd ha (List.find?_eq_none.1 hfind a hmem)
  | some b => rw [hunique b (List.mem_of_find?_eq_some hfind) (List.find?_some hfind)]

namespace Apart

/-- A name belongs to one group only. -/
theorem group_eq (h : icons.Apart) (hgroup : group ∈ icons.groups) (hother : other ∈ icons.groups)
    {name' : String} (hname : name ∈ group.names) (hname' : name' ∈ other.names)
    (hsame : eqIgnoringAsciiCase name name' = true) : group = other := by
  by_contra hne
  have happart := (List.pairwise_flatMap.1 h.namesApart).2
  have hsymm : Std.Symm fun a b : CalloutGroup =>
      ∀ x ∈ a.names, ∀ y ∈ b.names, eqIgnoringAsciiCase x y = false := by
    constructor
    intro a b hab x hx y hy
    rw [eqIgnoringAsciiCase, BEq.comm]
    exact hab y hy x hx
  rw [happart.forall hgroup hother hne name hname name' hname'] at hsame
  cases hsame

theorem iconFor_eq (h : icons.Apart) (hgroup : group ∈ icons.groups) (hname : name ∈ group.names)
    (htyped : eqIgnoringAsciiCase name typed = true) : icons.iconFor typed = group.icon := by
  have hfind : icons.groups.find? (fun group => group.names.any (eqIgnoringAsciiCase · typed)) =
      some group := by
    refine find?_eq_some_of_unique hgroup (List.any_eq_true.2 ⟨name, hname, htyped⟩) ?_
    intro other hother hany
    obtain ⟨name', hname', htyped'⟩ := List.any_eq_true.1 hany
    refine h.group_eq hother hgroup hname' hname ?_
    rw [eqIgnoringAsciiCase_iff] at htyped htyped' ⊢
    exact htyped'.trans htyped.symm
  rw [iconFor, hfind]

theorem nameFor_icon (h : icons.Apart) (hgroup : group ∈ icons.groups) :
    icons.nameFor group.icon = group.names.head?.getD plainName := by
  have hicon : group.icon ≠ icons.fallback := fun heq =>
    h.fallback (heq ▸ List.mem_map_of_mem hgroup)
  have hfind : icons.groups.find? (fun other => other.icon == group.icon) = some group := by
    refine find?_eq_some_of_unique hgroup (beq_self_eq_true _) fun other hother hsame => ?_
    exact List.inj_on_of_nodup_map h.iconsApart hother hgroup (beq_iff_eq.1 hsame)
  rw [nameFor, if_neg hicon, hfind]

theorem isCalloutName (h : icons.Apart) (hgroup : group ∈ icons.groups)
    (hname : name ∈ group.names) (htyped : eqIgnoringAsciiCase name typed = true) :
    IsCalloutName typed.toList := by
  rw [← Compose.isCalloutName_toAsciiLower, ← eqIgnoringAsciiCase_iff.1 htyped,
    Compose.isCalloutName_toAsciiLower]
  exact h.names group hgroup name hname

end Apart

end CalloutIcons
end NoteBridge
