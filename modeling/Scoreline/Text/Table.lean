import Scoreline.Text.Parts

/-!
# Scoreline.Text.Table

Tables of code points, written as texts. An entry is a code point in hexadecimal digits, a range
such as `41-5A`, or every second code point of a range, such as `100-12E/2`.

After an equals sign stand the code points that an entry gives, with plus signs between them. A
single one belongs to the first code point of the range and moves along with the others: the entry
`41-5A=61` gives U+0062 for U+0042.
-/

namespace Scoreline
namespace Text

structure Entry where
  first : Nat
  last : Nat
  step : Nat
  given : List Nat
  deriving DecidableEq, Repr

namespace Entry

/-- The number that upper-case hexadecimal digits make. -/
def number (digits : List Char) : Nat :=
  digits.foldl (fun n c => n * 16 + (if c.isDigit then c.toNat - 48 else c.toNat - 55)) 0

def ofString (s : String) : Entry :=
  let (place, given) := cut '=' s.toList
  let (range, step) := cut '/' place
  let (first, last) := cut '-' range
  ⟨number first, number (if last.isEmpty then first else last),
    if step.isEmpty then 1 else number step,
    if given.isEmpty then [] else (splitBy (· == '+') given).map number⟩

def holds (e : Entry) (n : Nat) : Bool :=
  e.first ≤ n && n ≤ e.last && (n - e.first) % e.step == 0

/-- What the entry gives for a code point that it holds. -/
def image (e : Entry) (n : Nat) : List Nat :=
  match e.given with
  | [m] => [m + (n - e.first)]
  | given => given

end Entry

abbrev Table := List Entry

namespace Table

/-- The entries of a text, with blanks and line breaks between them. -/
def ofString (s : String) : Table :=
  let cells := (s.splitOn "\n").flatMap fun line => line.splitOn " "
  (cells.filter (!·.isEmpty)).map Entry.ofString

def holds (t : Table) (n : Nat) : Bool := t.any (·.holds n)

/-- What the table gives for a code point, if it holds it. -/
def image? (t : Table) (n : Nat) : Option (List Nat) := (t.find? (·.holds n)).map (·.image n)

end Table

end Text
end Scoreline
