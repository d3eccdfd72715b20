import Scoreline.Buckets

/-!
# Scoreline.Series

A series of scores, one for each bucket. A bucket with events stands for its highest score; one
without repeats the score before it, and there is none before the first event.

Series may be of any length here. What a machine can allocate is left aside, as in the buckets.
-/

namespace Scoreline

abbrev Series := List Int64

namespace Series

/-- The highest score of a bucket. -/
def best? (events : List Event) : Option Int64 := (events.map Event.score).max?

/-- The scores of buckets after a score of `last`. -/
def fillFrom (last : Int64) : List (List Event) → Series
  | [] => []
  | events :: rest =>
    let score := (best? events).getD last
    score :: fillFrom score rest

/-- The scores of all buckets, from a score of nothing. -/
def fill (b : Buckets) : Series := fillFrom 0 b.toList

/-- The series brought to `n` points: the oldest are dropped, or zeros put in front. -/
def fit (n : Nat) (s : Series) : Series :=
  if n < s.length then s.drop (s.length - n) else List.replicate (n - s.length) 0 ++ s

end Series

end Scoreline
