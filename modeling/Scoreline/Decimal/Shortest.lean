import Scoreline.Decimal.Binary

/-!
# Scoreline.Decimal.Shortest

The text of a binary floating-point number: the fewest decimal digits that still read back as the
same value, and of those the digits nearest to it.

`Digits.shortest` works in exact arithmetic. For one digit, two digits, and so on it tests the two
neighbours of the value on that decimal grid against the interval of reals that round to the value;
the first grid with a hit decides. `Binary.text` lays the digits out.
-/

namespace Scoreline
namespace Decimal

/-- Decimal digits, the leading one standing at place `place` (ones are place 0). -/
structure Digits where
  digits : List Char
  place : Int
  deriving DecidableEq, Repr

/-- The reals that round to a value lie between `low / unit` and `high / unit`; the ends belong to
them when `closed` holds. The value itself is `middle / unit`. -/
structure Interval where
  low : Nat
  middle : Nat
  high : Nat
  unit : Nat
  closed : Bool
  deriving Repr

/-- The interval that rounds to `significand * 2 ^ exponent`. Below a power of two the neighbour is
half as far away. -/
def Interval.around (f : Format) (significand : Nat) (exponent : Int) : Interval :=
  let below := if significand = Nat.pow 2 (f.precision - 1) ∧ f.least < exponent then 1 else 2
  let (scale, unit) := Binary.quotient 1 (exponent - 2)
  ⟨(4 * significand - below) * scale, 4 * significand * scale, (4 * significand + 2) * scale, unit,
    significand % 2 == 0⟩

/-- Whether `n * 10 ^ k` lies in the interval. -/
def Interval.holds (i : Interval) (n : Nat) (k : Int) : Bool :=
  let (point, unit) :=
    if 0 ≤ k then (n * Nat.pow 10 k.toNat * i.unit, 1) else (n * i.unit, Nat.pow 10 (-k).toNat)
  if i.closed then decide (i.low * unit ≤ point) && decide (point ≤ i.high * unit)
  else decide (i.low * unit < point) && decide (point < i.high * unit)

/-- Steps up to `fuel` until `n * 10 ^ j` reaches `d`. -/
def leadingPlaceBelow (n d : Nat) : Nat → Nat → Int
  | 0, j => -(j : Int)
  | fuel + 1, j => if d ≤ n * Nat.pow 10 j then -(j : Int) else leadingPlaceBelow n d fuel (j + 1)

/-- The place of the leading decimal digit of `n / d`. -/
def leadingPlace (n d : Nat) : Int :=
  if d ≤ n then (((Nat.toDigits 10 (n / d)).length - 1 : Nat) : Int)
  else leadingPlaceBelow n d 400 1

/-- The neighbours of the value on the grid `10 ^ k`: the one below, and whether the one above is
nearer. Halfway, the even neighbour is the nearer one. -/
def Interval.neighbour (i : Interval) (k : Int) : Nat × Bool :=
  let (n, d) :=
    if 0 ≤ k then (i.middle, i.unit * Nat.pow 10 k.toNat)
    else (i.middle * Nat.pow 10 (-k).toNat, i.unit)
  let q := n / d
  let r := n % d
  (q, decide (d < 2 * r) || (decide (2 * r = d) && q % 2 == 1))

/-- The grid point of `10 ^ k` that stands for the value, if one rounds to it. -/
def Interval.pick (i : Interval) (k : Int) : Option Nat :=
  let (q, up) := i.neighbour k
  match i.holds q k, i.holds (q + 1) k with
  | true, true => some (if up then q + 1 else q)
  | true, false => some q
  | false, true => some (q + 1)
  | false, false => none

/-- Searches the grids from coarse to fine, at most `fuel` of them. -/
def Interval.search (i : Interval) : Nat → Int → Nat × Int
  | 0, k => ((i.neighbour k).1, k)
  | fuel + 1, k =>
    match i.pick k with
    | some n => (n, k)
    | none => i.search fuel (k - 1)

/-- Digits without the zeros at their end. -/
def dropTrailingZeros (digits : List Char) : List Char :=
  (digits.reverse.dropWhile (· == '0')).reverse

/-- The shortest digits of `significand * 2 ^ exponent`, which is not zero. -/
def Digits.shortest (f : Format) (significand : Nat) (exponent : Int) : Digits :=
  let i := Interval.around f significand exponent
  let (n, k) := i.search f.precision (leadingPlace i.middle i.unit)
  let digits := Nat.toDigits 10 n
  ⟨dropTrailingZeros digits, k + (digits.length : Int) - 1⟩

def zeros (n : Nat) : List Char := List.replicate n '0'

/-- The exponent after `e`: a sign and the digits. -/
def exponentText (e : Int) : List Char :=
  (if e < 0 then '-' else '+') :: Nat.toDigits 10 e.natAbs

/-- Digits laid out with a point, or with an exponent where the format asks for one. -/
def Digits.layout (f : Format) (d : Digits) : List Char :=
  if d.place < f.smallestPlain ∨ f.largestPlain < d.place then
    match d.digits with
    | [] => []
    | [c] => c :: 'e' :: exponentText d.place
    | c :: cs => c :: '.' :: cs ++ 'e' :: exponentText d.place
  else if d.place < 0 then '0' :: '.' :: zeros ((-d.place).toNat - 1) ++ d.digits
  else
    let whole := d.place.toNat + 1
    if d.digits.length ≤ whole then d.digits ++ zeros (whole - d.digits.length) ++ ['.', '0']
    else d.digits.take whole ++ '.' :: d.digits.drop whole

/-- The text of a finite value; an infinity has the text `inf`. -/
def Binary.text (f : Format) : Binary → String
  | .finite s m e =>
    let magnitude := if m = 0 then ['0', '.', '0'] else (Digits.shortest f m e).layout f
    String.ofList (if s then '-' :: magnitude else magnitude)
  | .infinite s => if s then "-inf" else "inf"

end Decimal
end Scoreline
