/-!
The styling of a run of text: five flags and a color. A color is the default one, or a hue of the
letters or of their background.
-/

namespace NoteBridge.Page

inductive Hue
  | gray
  | brown
  | orange
  | yellow
  | green
  | blue
  | purple
  | pink
  | red
deriving DecidableEq, Repr

namespace Hue

def all : List Hue := [gray, brown, orange, yellow, green, blue, purple, pink, red]

def name : Hue → String
  | gray => "gray"
  | brown => "brown"
  | orange => "orange"
  | yellow => "yellow"
  | green => "green"
  | blue => "blue"
  | purple => "purple"
  | pink => "pink"
  | red => "red"

end Hue

inductive Color
  | default
  | letters (hue : Hue)
  | background (hue : Hue)
deriving DecidableEq, Repr

namespace Color

instance : Inhabited Color := ⟨default⟩

def name : Color → String
  | default => "default"
  | letters hue => hue.name
  | background hue => hue.name ++ "_background"

def all : List Color := default :: (Hue.all.map letters ++ Hue.all.map background)

def ofName? (s : String) : Option Color := all.find? fun color => color.name == s

theorem ofName?_name (color : Color) : ofName? color.name = some color := by
  rcases color with _ | hue | hue
  · decide
  · cases hue <;> decide
  · cases hue <;> decide

end Color

structure Style where
  bold : Bool := false
  italic : Bool := false
  strikethrough : Bool := false
  underline : Bool := false
  code : Bool := false
  color : Color := .default
deriving DecidableEq, Repr

instance : Inhabited Style := ⟨{}⟩

end NoteBridge.Page
