import Scoreline.Chart.Builder
import Scoreline.Command.Options
import Scoreline.Command.Report
import Scoreline.Feed.Client
import Scoreline.Feed.Dump

/-!
# Scoreline.Command.Run

What a command line comes to: the text that goes to standard output, what is reported meanwhile, and
the failure if there is one. Files and servers are values, so that a run is a function of them.

Standard output holds either one JSON document, or the message that nothing has been solved, or
nothing; a run that fails leaves it empty.
-/

namespace Scoreline
namespace Command

/-- The surroundings of a run. -/
structure World where
  files : Files
  server : Http.Server

/-- A run of a command: its output, or what failed. -/
abbrev Output := Run Chain String

def origin : String := "scoregraph"

/-! ## Settings -/

/-- The message of a failed load and those of its causes. -/
def loadCauses (e : Settings.LoadError) : Chain :=
  e.message ::
    match e with
    | .file e => [e.message]
    | .json p => [p.message]
    | .fault _ => []

/-- The settings of a file, or the default ones. -/
def fileSettings (files : Files) : Option String → Except Chain Settings
  | none => .ok .default
  | some path =>
    match Settings.load (files path) with
    | .error e => .error (("Failed to load settings from " ++ path) :: loadCauses e)
    | .ok s => .ok s

/-- The settings of a run: those of the file, with the number of points that is asked for. -/
def loadSettings (files : Files) (config : Option String) (points : Option UInt64) :
    Except Chain Settings :=
  match fileSettings files config with
  | .error c => .error c
  | .ok s =>
    let s := { s with pointCount := points.getD s.pointCount }
    match s.validate with
    | .error f => .error [f.message]
    | .ok () => .ok s

/-! ## Printing -/

def line (s : String) : String := s ++ "\n"

def chartCauses (e : Chart.Error) : Chain :=
  e.message ::
    match e with
    | .fault f => [f.message]
    | .emptyPalette => []

/-- Prints the points of a source. -/
def printPoints (feed : Feed) (source : Source) (now : Option Int64) (s : Settings) : Output :=
  let shot := (feed.snapshot source now).mapError fun e =>
    "Failed to load progressions (pass --now if the dump has no time)" :: e.causes
  shot.andThen fun shot =>
    if shot.progressions.hasSolves then
      let sets := shot.progressions.eventSets
      .said (s.graphNotices sets (some shot.time))
        (match s.points sets (some shot.time) with
        | .error f => .error [f.message]
        | .ok points => .ok (line (Points.form.prettyText points)))
    else .said [] (.ok (line Chart.noSolvesMessage))

/-- Prints the outcome of drawing a chart. -/
def printOutcome : Chart.Outcome → Output
  | .chart c => .said [] (.ok (line (Chart.Line.form.prettyText c)))
  | .placeholder message => .said [] (.ok (line message))
  | .skipped =>
    .said [⟨.info, origin, "Not enough teams to compare, nothing to draw"⟩] (.ok "")

/-- Draws the chart of progressions. -/
def drawChart (b : Chart.Builder) (shot : Snapshot) : Run Chain Chart.Outcome :=
  let now := some shot.time
  match shot.progressions with
  | .ranking teams =>
    .said (b.topTeamsNotices teams now) ((b.topTeams teams now).mapError chartCauses)
  | .team events => .said (b.teamNotices events now) ((b.team events now).mapError chartCauses)

/-- Prints the chart of a source. -/
def printChart (feed : Feed) (source : Source) (now : Option Int64) (b : Chart.Builder) : Output :=
  let shot := (feed.snapshot source now).mapError fun e =>
    ("Failed to load progressions from " ++ source.path) :: e.causes
  (shot.andThen (drawChart b)).andThen printOutcome

/-! ## Tasks -/

/-- Opens a dump and goes on with it and the source of a selection. -/
def withDump (w : World) (input : String) (selection : Selection)
    (next : Feed → Source → Output) : Output :=
  let dump := (Dump.load input (w.files input)).mapError fun e =>
    ("Failed to read dump " ++ input) :: e.causes
  dump.andThen fun d =>
    match selection.source with
    | .error message => .fail [message]
    | .ok source => next d.feed source

def fetchingNotice (source : Source) : Notice :=
  ⟨.info, origin, "Fetching progressions for " ++ source.path⟩

/-- Carries out a task with settings. -/
def Task.run (w : World) (now : Option Int64) (s : Settings) : Task → Output
  | .points input selection =>
    withDump w input selection fun feed source => printPoints feed source now s
  | .chart input selection =>
    withDump w input selection fun feed source => printChart feed source now (.withSettings s)
  | .fetch server cookie timeout selection =>
    match Client.make ⟨server, timeout.getD ClientConfig.defaultTimeoutSecs, cookie⟩ with
    | .error e => .fail [e.message]
    | .ok client =>
      match selection.source with
      | .error message => .fail [message]
      | .ok source =>
        (Run.said [fetchingNotice source] (.ok ())).andThen fun () =>
          printChart (client.feed w.server) source now (.withSettings s)

def Invocation.run (w : World) (i : Invocation) : Output :=
  match loadSettings w.files i.general.config i.general.points with
  | .error chain => .fail chain
  | .ok s => i.task.run w i.general.now s

/-! ## Outcomes -/

/-- What a command line comes to. -/
inductive Outcome where
  | help
  | usage
  | finished (out : Output)

def run (w : World) (args : List String) : Outcome :=
  match parse args with
  | .help => .help
  | .usage => .usage
  | .run i => .finished (i.run w)

namespace Outcome

def exitCode : Outcome → Nat
  | .help => 0
  | .usage => 2
  | .finished out =>
    match out.result with
    | .ok _ => 0
    | .error _ => 1

/-- What is printed for the user to keep. A run prints its result, as its last step: if it fails it has
printed nothing. The text of the help is left out. -/
def stdout : Outcome → String
  | .help | .usage => ""
  | .finished out =>
    match out.result with
    | .ok s => s
    | .error _ => ""

/-- The report of a failure. -/
def failure? : Outcome → Option String
  | .help | .usage => none
  | .finished out =>
    match out.result with
    | .ok _ => none
    | .error chain => some (report chain)

/-- The notices that a user is shown. -/
def shown : Outcome → List Notice
  | .help | .usage => []
  | .finished out => out.notices.filter (·.level.isShown)

def requests : Outcome → List Http.Request
  | .help | .usage => []
  | .finished out => out.requests

end Outcome

end Command
end Scoreline
