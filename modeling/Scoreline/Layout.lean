import Scoreline.Window

/-!
# Scoreline.Layout

A window cut into buckets of equal width, numbered from 0. Times before the window fall into the
first bucket and times after it into the last.

Quotients and products are formed exactly; only what is stored or returned is brought into the range
of a machine word.
-/

namespace Scoreline

structure Layout where
  window : Window
  width : Int64
  count : UInt64
  deriving DecidableEq, Repr

namespace Layout

/-- The width of buckets that cut `span` seconds into about `points` parts: whole seconds, rounded
down, and at least one. -/
def widthFor (span points : Int) : Int := max (span / points) 1

/-- The number of buckets of a width that cover `span` seconds; at least one. -/
def countFor (span width : Int) : Int := max (span / width + if span % width = 0 then 0 else 1) 1

/-- The layout of a window for a number of points. -/
def ofWindow (w : Window) (pointCount : UInt64) : Layout :=
  let span := w.span.toInt
  let points : Int := min (max (pointCount.toNat : Int) 1) Int64.maxValue.toInt
  let width := widthFor span points
  ⟨w, Int64.ofIntClamp width, UInt64.ofNatClamp (countFor span width).toNat⟩

/-- The last bucket. -/
def lastIndex (l : Layout) : Nat := l.count.toNat - 1

/-- The bucket that a time falls into. -/
def indexOf (l : Layout) (time : Int64) : Nat :=
  if time ≤ l.window.min then 0
  else
    let raw := (time.toInt - l.window.min.toInt).tdiv l.width.toInt
    if raw < 0 then l.lastIndex else min raw.toNat l.lastIndex

/-- The exact time at which bucket `i` begins. -/
def startOf (l : Layout) (i : Nat) : Int := l.window.min.toInt + i * l.width.toInt

/-- The first second of bucket `i` and the first after it. -/
def bounds (l : Layout) (i : Nat) : Int64 × Int64 :=
  (Int64.ofIntClamp (l.startOf i), Int64.ofIntClamp (l.startOf i + l.width.toInt))

/-- Whether an event lies outside the bounds of the bucket that it falls into. -/
def isClipped (l : Layout) (e : Event) : Bool :=
  let (start, stop) := l.bounds (l.indexOf e.time)
  e.time < start || stop ≤ e.time

/-- The number of events that lie outside the bounds of their bucket. -/
def clipped (l : Layout) (events : List Event) : Nat := events.countP l.isClipped

open Json (Form Fields) in
def form : Form Layout :=
  .record "BucketLayout"
    (.required "window" Window.form (.required "width" .int64 (.required "count" .count .nil)))
    (fun (window, width, count, ()) => ⟨window, width, count⟩)
    (fun l => (l.window, l.width, l.count, ()))

end Layout

end Scoreline
