import Scoreline.Json.Form

/-!
# Scoreline.Chart.Palette

The colours of a chart: one list for lines and one for the areas under them. The lists are gone
through in order and begun again at their end, each at its own length.
-/

namespace Scoreline
namespace Chart

open Json (Form Fields)

structure Palette where
  border : List String
  background : List String
  deriving DecidableEq, Repr

namespace Palette

/-- The seven colours of the default palette, as red, green and blue. -/
def colours : List (Nat × Nat × Nat) :=
  [(156, 99, 169), (151, 187, 205), (230, 22, 22), (22, 230, 57), (230, 22, 210), (220, 220, 220),
   (204, 104, 0)]

/-- A colour of some opacity, as style sheets write it. -/
def rgba (opacity : String) : Nat × Nat × Nat → String
  | (r, g, b) =>
    "rgba(" ++ toString r ++ "," ++ toString g ++ "," ++ toString b ++ "," ++ opacity ++ ")"

/-- Full lines over faint areas. -/
def default : Palette := ⟨colours.map (rgba "1"), colours.map (rgba "0.2")⟩

/-- Whether there is a colour for lines and one for areas. -/
def isUsable (p : Palette) : Bool := !p.border.isEmpty && !p.background.isEmpty

/-- The colour at a place of a list that begins again at its end; an empty list has none. -/
def pick (colours : List String) (i : Nat) : String := (colours[i % colours.length]?).getD ""

def borderAt (p : Palette) (i : Nat) : String := pick p.border i

def backgroundAt (p : Palette) (i : Nat) : String := pick p.background i

def form : Form Palette :=
  .record "ChartPalette"
    (.required "border" (.list .string) (.required "background" (.list .string) .nil))
    (fun (border, background, ()) => ⟨border, background⟩)
    (fun p => (p.border, p.background, ()))

end Palette

end Chart
end Scoreline
