import Scoreline.Json.Form

/-!
# Scoreline.Event

What a competition platform reports: the score of a team after each of its submissions, the teams
of a ranking, and the clock of the server. Times are seconds since 1970-01-01T00:00:00Z.
-/

namespace Scoreline

open Json (Form Fields)

/-- A submission: when it was made and the score of the team after it. -/
structure Event where
  time : Int64
  score : Int64
  deriving DecidableEq, Repr

/-- A team and its submissions, in no particular order. -/
structure Team where
  name : String
  events : List Event
  deriving DecidableEq, Repr

/-- The state of a server: its clock. -/
structure Status where
  time : Int64
  deriving DecidableEq, Repr

def Team.hasSolves (t : Team) : Bool := !t.events.isEmpty

def Event.form : Form Event :=
  .record "SubmissionEvent"
    (.required "time" .int64 (.required "score" .int64 .nil))
    (fun (time, score, ()) => ⟨time, score⟩)
    (fun e => (e.time, e.score, ()))

def Team.form : Form Team :=
  .record "TeamProgression"
    (.required "name" .string (.required "score_progression" (.list Event.form) .nil))
    (fun (name, events, ()) => ⟨name, events⟩)
    (fun t => (t.name, t.events, ()))

def Status.form : Form Status :=
  .record "ServerStatus" (.required "time" .int64 .nil) (fun (time, ()) => ⟨time⟩)
    (fun s => (s.time, ()))

end Scoreline
