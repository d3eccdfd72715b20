import Scoreline.Feed

/-!
# Scoreline.Feed.Dump

A dump: the clock, the teams and the team of a feed, kept in a file. Any of the three may be absent.
As a feed it answers at once. It keeps one list of teams for all rankings and one progression for
all categories.
-/

namespace Scoreline

open Json (Form Fields)

structure Dump where
  time : Option Int64
  teams : Option (List Team)
  team : Option (List Event)
  deriving DecidableEq, Repr

namespace Dump

def form : Form Dump :=
  .record "ProgressionDump"
    (.defaulted "time" (.option .int64) none
      (.defaulted "teams" (.option (.list Team.form)) none
        (.defaulted "team" (.option (.list Event.form)) none .nil)))
    (fun (time, teams, team, ()) => ⟨time, teams, team⟩)
    (fun d => (d.time, d.teams, d.team, ()))

def notice (message : String) : Notice := ⟨.debug, "scoregraph_client::file", message⟩

def loadedNotice (path : String) (d : Dump) : Notice :=
  notice ("Loaded dump " ++ path ++ " (" ++ toString (d.teams.getD []).length ++ " teams, " ++
    toString (d.team.getD []).length ++ " team events)")

/-- The dump in a file. -/
def load (path : String) (file : Contents) : Run FetchError Dump :=
  match file.textual with
  | .error e => .fail (.file e)
  | .ok text =>
    match form.parse text with
    | .error p => .fail (.json p)
    | .ok d => .said [d.loadedNotice path] (.ok d)

/-- A member of the dump, called `name`. -/
def part {α : Type} (name : String) : Option α → Except FetchError α
  | none => .error (.missing name)
  | some a => .ok a

/-- At most `limit` teams, in order. -/
def limited (limit : Option UInt32) (teams : List Team) : List Team :=
  match limit with
  | none => teams
  | some n => teams.take n.toNat

/-- The dump as a feed. -/
def feed (d : Dump) : Feed where
  status := .atOnce [] ((part "time" d.time).map Status.mk)
  topTeams r limit :=
    .atOnce [notice ("Serving " ++ r.title ++ " from dump")]
      ((part "teams" d.teams).map (limited limit))
  teamProgression category :=
    .atOnce
      (category.toList.map fun c =>
        notice ("Dumps are not split by category, ignoring " ++ c))
      (part "team" d.team)

end Dump

end Scoreline
