import NoteBridge.Page.Property
import NoteBridge.Page.Style
import NoteBridge.Text.Search

/-!
Options of both directions: how unresolved references are written, how deep levels may nest, which
color is a highlight, which icons stand for which callouts, and how front matter fields map to
properties.
-/

namespace NoteBridge

open Page (Color PropertyType)

inductive UnresolvedStyle
  | placeholder
  | text
  | skip
deriving DecidableEq, Repr

/-- Names of callouts that share an icon; the first one is written back. -/
structure CalloutGroup where
  names : List String
  icon : String
deriving DecidableEq, Repr

structure CalloutIcons where
  fallback : String
  query : String
  groups : List CalloutGroup
deriving DecidableEq, Repr

namespace CalloutIcons

/-- The icon of the first group that has the name in any ASCII case. -/
def iconFor (icons : CalloutIcons) (name : String) : String :=
  match icons.groups.find? fun group => group.names.any (Text.eqIgnoringAsciiCase · name) with
  | some group => group.icon
  | none => icons.fallback

def plainName : String := "note"

/-- The first name of the first group with the icon. The fallback icon, and one that no group has,
stand for a plain note. -/
def nameFor (icons : CalloutIcons) (icon : String) : String :=
  if icon = icons.fallback then plainName
  else
    match icons.groups.find? fun group => group.icon == icon with
    | some group => group.names.head?.getD plainName
    | none => plainName

def standard : CalloutIcons :=
  { fallback := "💡"
    query := "🔍"
    groups :=
      [⟨["note"], "📝"⟩, ⟨["abstract", "summary", "tldr"], "📋"⟩, ⟨["info"], "ℹ️"⟩,
        ⟨["todo"], "☑️"⟩, ⟨["tip", "hint", "important"], "🔥"⟩,
        ⟨["success", "check", "done"], "✅"⟩, ⟨["question", "help", "faq"], "❓"⟩,
        ⟨["warning", "caution", "attention"], "⚠️"⟩, ⟨["failure", "fail", "missing"], "❌"⟩,
        ⟨["danger", "error"], "⚡"⟩, ⟨["bug"], "🐛"⟩, ⟨["example"], "📌"⟩,
        ⟨["quote", "cite"], "💬"⟩] }

end CalloutIcons

structure Mapping where
  field : String
  property : String
  type : PropertyType
deriving DecidableEq, Repr

structure Options where
  unresolved : UnresolvedStyle := .placeholder
  maxDepth : Nat := 16
  highlight : Color := .background .yellow
  callouts : CalloutIcons := .standard
  titleProperty : String := "Name"
  tagsProperty : String := "Tags"
  mappings : List Mapping := []
deriving DecidableEq, Repr

end NoteBridge
