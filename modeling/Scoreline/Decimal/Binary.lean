/-!
# Scoreline.Decimal.Binary

Binary floating-point numbers, held exactly: a value is `significand * 2 ^ exponent` with a sign,
or an infinity. A `Format` says how many bits a significand has and how far exponents go.

`Format.round` takes an exact quotient of naturals to the nearest value of the format, a half
going to the even neighbour. Products and quotients are formed exactly and rounded once.
-/

namespace Scoreline
namespace Decimal

/-- The shape of a binary format: a significand has at most `precision` bits, and the exponent of
its last bit lies between `least` and `greatest`. Values whose leading decimal digit stands at a
place from `smallestPlain` to `largestPlain` are written without an exponent. -/
structure Format where
  precision : Nat
  least : Int
  greatest : Int
  smallestPlain : Int
  largestPlain : Int
  deriving DecidableEq, Repr

def Format.single : Format := ⟨24, -149, 104, -6, 12⟩

def Format.double : Format := ⟨53, -1074, 971, -5, 15⟩

inductive Binary where
  | finite (negative : Bool) (significand : Nat) (exponent : Int)
  | infinite (negative : Bool)
  deriving DecidableEq, Repr

/-- The integer nearest to `n / d`, a half going to the even neighbour. -/
def divideToNearest (n d : Nat) : Nat :=
  let q := n / d
  let r := n % d
  if d < 2 * r then q + 1
  else if 2 * r = d ∧ q % 2 = 1 then q + 1
  else q

/-- The integer nearest to `n / (d * 2 ^ e)`. -/
def divideAtExponent (n d : Nat) (e : Int) : Nat :=
  if 0 ≤ e then divideToNearest n (d * Nat.pow 2 e.toNat)
  else divideToNearest (n * Nat.pow 2 (-e).toNat) d

/-- The exponent of the last bit that the format keeps of `n / d`. -/
def Format.exponentOf (f : Format) (n d : Nat) : Int :=
  let e : Int := (Nat.log2 n : Int) - (Nat.log2 d : Int) - ((f.precision : Int) - 1)
  let full : Bool :=
    if 0 ≤ e then d * Nat.pow 2 (e.toNat + (f.precision - 1)) ≤ n
    else d * Nat.pow 2 (f.precision - 1) ≤ n * Nat.pow 2 (-e).toNat
  max f.least (if full then e else e - 1)

/-- The value of the format nearest to `n / d`. -/
def Format.round (f : Format) (negative : Bool) (n d : Nat) : Binary :=
  if n = 0 then .finite negative 0 f.least
  else
    let e := f.exponentOf n d
    let m := divideAtExponent n d e
    let (m, e) :=
      if m = Nat.pow 2 f.precision then (Nat.pow 2 (f.precision - 1), e + 1) else (m, e)
    if f.greatest < e then .infinite negative else .finite negative m e

namespace Binary

/-- The magnitude `significand * 2 ^ exponent` as a quotient of naturals. -/
def quotient (significand : Nat) (exponent : Int) : Nat × Nat :=
  if 0 ≤ exponent then (significand * Nat.pow 2 exponent.toNat, 1)
  else (significand, Nat.pow 2 (-exponent).toNat)

def isZero : Binary → Bool
  | .finite _ m _ => m == 0
  | .infinite _ => false

def isFinite : Binary → Bool
  | .finite .. => true
  | .infinite _ => false

def negate : Binary → Binary
  | .finite s m e => .finite (!s) m e
  | .infinite s => .infinite (!s)

/-- The value of format `f` nearest to `x`. -/
def toFormat (f : Format) : Binary → Binary
  | .finite s m e => let (n, d) := quotient m e; f.round s n d
  | .infinite s => .infinite s

/-- `x * k`, rounded once. -/
def times (f : Format) (x : Binary) (k : Nat) : Binary :=
  match x with
  | .finite s m e => let (n, d) := quotient m e; f.round s (n * k) d
  | .infinite s => .infinite s

/-- `x / k`, rounded once. -/
def dividedBy (f : Format) (x : Binary) (k : Nat) : Binary :=
  match x with
  | .finite s m e => let (n, d) := quotient m e; f.round s n (d * k)
  | .infinite s => .infinite s

/-- The natural number nearest below the magnitude of a finite `x`. -/
def wholePart : Binary → Nat
  | .finite _ m e => let (n, d) := quotient m e; n / d
  | .infinite _ => 0

end Binary

/-- The value of format `f` nearest to a natural. -/
def Format.ofNat (f : Format) (n : Nat) : Binary := f.round false n 1

/-- The value of format `f` nearest to an integer. -/
def Format.ofInt (f : Format) (n : Int) : Binary := f.round (n < 0) n.natAbs 1

/-- The power of ten nearest in format `f`. The exponent stays within the range of the format. -/
def Format.powerOfTen (f : Format) (k : Nat) : Nat := (f.ofNat (Nat.pow 10 k)).wholePart

end Decimal
end Scoreline
