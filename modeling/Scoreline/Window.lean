import Scoreline.Event
import Scoreline.Settings

/-!
# Scoreline.Window

The span of time that a graph shows. It opens some time before the first submission of all teams. It
closes at the last one, or at the present if that is later — but no more than a set time after the
last submission, so that the graph of a competition that has ended stays as it is.

All sums are formed exactly and then brought into the range of a 64-bit word.
-/

namespace Scoreline

structure Window where
  min : Int64
  max : Int64
  deriving DecidableEq, Repr

namespace Window

/-- The length of the window in seconds; a window that closes before it opens has none. -/
def span (w : Window) : Int64 := Int64.ofIntClamp (Max.max (w.max.toInt - w.min.toInt) 0)

/-- The times of all submissions of all teams. -/
def times (teams : List (List Event)) : List Int64 := teams.flatten.map Event.time

/-- When the window opens, given the first submission. -/
def opening (s : Settings) (earliest : Int64) : Int64 :=
  Int64.ofIntClamp (earliest.toInt - s.backoff.toInt)

/-- When the window closes, given the last submission and the present. -/
def closing (s : Settings) (latest : Int64) : Option Int64 → Int64
  | none => latest
  | some now =>
    if latest < now then Min.min (Int64.ofIntClamp (latest.toInt + s.extension.toInt)) now
    else latest

/-- The window of a list of teams, each given by its submissions, and the last submission in it.
Without any submission there is none. -/
def resolve? (s : Settings) (teams : List (List Event)) (now : Option Int64) :
    Option (Window × Int64) :=
  match (times teams).min?, (times teams).max? with
  | some earliest, some latest => some (⟨opening s earliest, closing s latest now⟩, latest)
  | _, _ => none

def resolve (s : Settings) (teams : List (List Event)) (now : Option Int64) :
    Except Fault Window :=
  match resolve? s teams now with
  | none => .error .noSubmissions
  | some (w, _) => .ok w

open Json (Form Fields) in
def form : Form Window :=
  .record "TimeWindow"
    (.required "min" .int64 (.required "max" .int64 .nil))
    (fun (min, max, ()) => ⟨min, max⟩)
    (fun w => (w.min, w.max, ()))

end Window

end Scoreline
