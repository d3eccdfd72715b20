import Scoreline.Layout

/-!
# Scoreline.Buckets

The events of one team, sorted into the buckets of a layout. A bucket keeps its events in the order
in which they came.

There may be any number of buckets here: how many a machine can allocate is left aside.
-/

namespace Scoreline

structure Buckets where
  slots : Array (List Event)
  deriving DecidableEq, Repr

namespace Buckets

def size (b : Buckets) : Nat := b.slots.size

def isEmpty (b : Buckets) : Bool := b.slots.isEmpty

/-- The events of bucket `i`. -/
def get? (b : Buckets) (i : Nat) : Option (List Event) := b.slots[i]?

def toList (b : Buckets) : List (List Event) := b.slots.toList

end Buckets

/-- Puts every event into the bucket that it falls into. -/
def Layout.assign (l : Layout) (events : List Event) : Buckets :=
  ⟨events.foldr (fun e slots => slots.modify (l.indexOf e.time) (e :: ·))
    (Array.replicate l.count.toNat [])⟩

end Scoreline
