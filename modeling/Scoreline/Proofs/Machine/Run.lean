import Scoreline.Graph

/-!
# Scoreline.Proofs.Machine.Run

Drawing a graph on a machine whose words have a width. Every sum, difference, product, quotient,
remainder and change of width is formed at the width that it has on the machine, and the run stops
with a trap where the exact result does not fit, where a divisor is zero, or where an index lies
outside a list.

Saturating sums and differences of 64-bit words do not trap, and neither does the change of a number
of points to a word with a sign, which has a replacement for numbers that are too large: both are
meant to meet such numbers. All else that has a replacement on the machine (the 128-bit arithmetic
of `bounds`, the changes to a count) traps here, so that a run without a trap never needs one.
-/

namespace Scoreline
namespace Machine

/-- What stops a run. -/
inductive Trap where
  | overflow
  | zeroDivisor
  | index
  deriving DecidableEq, Repr

/-- A kind of word, by the least and the greatest number that it holds. -/
structure Width where
  low : Int
  high : Int
  deriving DecidableEq, Repr

def i64 : Width := ⟨-9223372036854775808, 9223372036854775807⟩

def i128 : Width :=
  ⟨-170141183460469231731687303715884105728, 170141183460469231731687303715884105727⟩

def usize : Width := ⟨0, 18446744073709551615⟩

namespace Width

variable (w : Width)

/-- A number as a word of this width. -/
def convert (n : Int) : Except Trap Int :=
  if w.low ≤ n ∧ n ≤ w.high then .ok n else .error .overflow

def add (a b : Int) : Except Trap Int := w.convert (a + b)

def sub (a b : Int) : Except Trap Int := w.convert (a - b)

def mul (a b : Int) : Except Trap Int := w.convert (a * b)

/-- The quotient, rounded towards zero. -/
def div (a b : Int) : Except Trap Int :=
  if b = 0 then .error .zeroDivisor else w.convert (a.tdiv b)

/-- The remainder of the quotient, which must fit too. -/
def rem (a b : Int) : Except Trap Int := do
  let _ ← w.div a b
  return a.tmod b

/-- The nearest number that a word of this width holds. -/
def saturate (n : Int) : Int := max w.low (min n w.high)

/-- A number as a word of this width, or a replacement. -/
def convertOr (replacement n : Int) : Int :=
  match w.convert n with
  | .ok n => n
  | .error _ => replacement

end Width

/-! ## Layouts -/

def span (w : Window) : Int := max (i64.saturate (w.max.toInt - w.min.toInt)) 0

def layout (w : Window) (pointCount : UInt64) : Except Trap Layout := do
  let span := span w
  let points := i64.convertOr i64.high (max (pointCount.toNat : Int) 1)
  let width := max (← i64.div span points) 1
  let parts ← i64.add (← i64.div span width) (if (← i64.rem span width) = 0 then 0 else 1)
  let count := max (← usize.convert parts) 1
  return ⟨w, Int64.ofInt width, UInt64.ofNat count.toNat⟩

def indexOf (l : Layout) (time : Int64) : Except Trap Int :=
  if time ≤ l.window.min then .ok 0
  else do
    let offset ← i128.sub time.toInt l.window.min.toInt
    let raw ← usize.convert (← i128.div offset l.width.toInt)
    return min raw (← usize.sub l.count.toNat 1)

def bounds (l : Layout) (index : Int) : Except Trap (Int64 × Int64) := do
  let offset ← i128.mul (← i128.convert index) l.width.toInt
  let start ← i128.add l.window.min.toInt offset
  let stop ← i128.add start l.width.toInt
  return (Int64.ofInt (i64.saturate start), Int64.ofInt (i64.saturate stop))

/-! ## Series -/

/-- Buckets in the making, and how many events have been found outside the bounds of theirs. -/
structure Sorted where
  slots : Array (List Event)
  clipped : Int

/-- Puts one event at the end of its bucket. -/
def place (l : Layout) (sorted : Sorted) (e : Event) : Except Trap Sorted := do
  let index ← indexOf l e.time
  let (start, stop) ← bounds l index
  let clipped ←
    if e.time < start || stop ≤ e.time then usize.add sorted.clipped 1 else pure sorted.clipped
  if index.toNat < sorted.slots.size then
    return ⟨sorted.slots.modify index.toNat (· ++ [e]), clipped⟩
  else throw .index

/-- Puts events into their buckets, in order. -/
def placeAll (l : Layout) : Sorted → List Event → Except Trap Sorted
  | sorted, [] => .ok sorted
  | sorted, e :: events => do
    let sorted ← place l sorted e
    placeAll l sorted events

def assign (l : Layout) (events : List Event) : Except Trap Sorted :=
  placeAll l ⟨Array.replicate l.count.toNat [], 0⟩ events

/-- The last `n` scores of a series, or zeros and the series. -/
def fit (n : UInt64) (s : Series) : Except Trap Series :=
  if n.toNat < s.length then do
    let cut ← usize.sub s.length n.toNat
    if cut ≤ s.length then return s.drop cut.toNat else throw .index
  else if s.length < n.toNat then do
    let missing ← usize.sub n.toNat s.length
    return List.replicate missing.toNat 0 ++ s
  else .ok s

def seriesOf (l : Layout) (n : UInt64) (events : List Event) : Except Trap Series := do
  let sorted ← assign l events
  fit n (Series.fill ⟨sorted.slots⟩)

def seriesOfAll (l : Layout) (n : UInt64) : List (List Event) → Except Trap (List Series)
  | [] => .ok []
  | events :: teams => do
    let series ← seriesOf l n events
    return series :: (← seriesOfAll l n teams)

/-- A whole run: a trap, or what comes of it. -/
def graph (s : Settings) (teams : List (List Event)) (now : Option Int64) :
    Except Trap (Except Fault Graph) :=
  match s.validate with
  | .error f => .ok (.error f)
  | .ok () =>
    match Window.resolve s teams now with
    | .error f => .ok (.error f)
    | .ok w => do
      let l ← layout w s.pointCount
      return .ok ⟨l, ← seriesOfAll l s.pointCount teams⟩

end Machine
end Scoreline
