/-!
# Scoreline.Decimal.Integer

Whole numbers as they are typed: digits, with a sign before them if one is wanted. Zeros in front
are allowed, separators and blanks are not.
-/

namespace Scoreline
namespace Decimal

/-- The number that digits make; there is at least one of them. -/
def natural? (digits : List Char) : Option Nat :=
  if digits.isEmpty then none
  else if digits.all Char.isDigit then
    some (digits.foldl (fun n c => n * 10 + (c.toNat - '0'.toNat)) 0)
  else none

/-- A number that may have either sign before it. -/
def signed? (s : String) : Option Int :=
  match s.toList with
  | '-' :: digits => (natural? digits).map fun n => -(n : Int)
  | '+' :: digits => (natural? digits).map Int.ofNat
  | digits => (natural? digits).map Int.ofNat

/-- A number that may have a plus sign before it, but no minus sign, not even for zero. -/
def unsigned? (s : String) : Option Nat :=
  match s.toList with
  | '+' :: digits => natural? digits
  | digits => natural? digits

end Decimal
end Scoreline
