/-!
# Scoreline.Text.Alignment

Texts brought to a width. Widths count characters; a text that is wider already is left as it is.
A `Format` says how a text is cut and filled up where it is shown.
-/

namespace Scoreline
namespace Text

inductive Alignment where
  | left
  | right
  | centre
  deriving DecidableEq, Repr

def spaces (n : Nat) : String := String.ofList (List.replicate n ' ')

/-- Pads `s` with spaces to `width` characters. A centred text has the smaller half on its left. -/
def align (a : Alignment) (width : Nat) (s : String) : String :=
  let gap := width - s.length
  match a with
  | .left => s ++ spaces gap
  | .right => spaces gap ++ s
  | .centre => spaces (gap / 2) ++ s ++ spaces (gap - gap / 2)

/-- The first `width` characters of `s`. -/
def clip (width : Nat) (s : String) : String := String.ofList (s.toList.take width)

/-- How a text is shown: cut to `precision` characters and filled up to `width`, where they are
given. -/
structure Format where
  alignment : Alignment := .left
  width : Option Nat := none
  precision : Option Nat := none
  deriving DecidableEq, Repr

def Format.apply (f : Format) (s : String) : String :=
  let s := f.precision.elim s (clip · s)
  f.width.elim s (align f.alignment · s)

end Text
end Scoreline
