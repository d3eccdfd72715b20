import Scoreline.Graph
import Scoreline.Http.Exchange
import Scoreline.Source

/-!
# Scoreline.Feed

Where status and progressions come from. A `Feed` answers three questions: the clock, the top teams
of a ranking, and the progression of the signed-in team. A dump answers at once; a live server lets
the caller wait, and two questions may wait together.

`Feed.snapshot` asks for the progressions of a source and, unless the present is given, for the
clock; `Feed.points` draws them.
-/

namespace Scoreline

/-- Why progressions cannot be had. -/
inductive FetchError where
  | transport
  | server (status : Nat) (message : String)
  | file (e : FileError)
  | json (p : Json.Problem)
  | missing (member : String)
  | fault (f : Fault)
  deriving DecidableEq, Repr

namespace FetchError

def message : FetchError → String
  | .transport => "HTTP error: error sending request"
  | .server status message => "server returned " ++ toString status ++ ": " ++ message
  | .file e => "I/O error: " ++ e.message
  | .json p => "JSON error: " ++ p.message
  | .missing member => "missing data: dump has no \"" ++ member ++ "\""
  | .fault f => "progression error: " ++ f.message

/-- The message and, after it, those of the causes. -/
def causes (e : FetchError) : List String :=
  e.message ::
    match e with
    | .file e => [e.message]
    | .json p => [p.message]
    | .fault f => [f.message]
    | _ => []

end FetchError

/-- What happens on the way to a result. -/
inductive Step where
  | notice (n : Notice)
  | request (r : Http.Request)
  deriving DecidableEq, Repr

def Step.notice? : Step → Option Notice
  | .notice n => some n
  | .request _ => none

def Step.request? : Step → Option Http.Request
  | .notice _ => none
  | .request r => some r

/-- A result and what happened on the way to it. -/
structure Run (ε α : Type) where
  steps : List Step
  result : Except ε α

namespace Run

variable {ε α β : Type}

def notices (r : Run ε α) : List Notice := r.steps.filterMap Step.notice?

def requests (r : Run ε α) : List Http.Request := r.steps.filterMap Step.request?

def fail (e : ε) : Run ε α := ⟨[], .error e⟩

/-- A result reached without a wait, with notices before it. -/
def said (notices : List Notice) (result : Except ε α) : Run ε α :=
  ⟨notices.map .notice, result⟩

/-- Goes on with the result, if there is one. -/
def andThen (r : Run ε α) (next : α → Run ε β) : Run ε β :=
  match r.result with
  | .error e => ⟨r.steps, .error e⟩
  | .ok a => ⟨r.steps ++ (next a).steps, (next a).result⟩

def mapError {ε' : Type} (f : ε → ε') (r : Run ε α) : Run ε' α :=
  ⟨r.steps, r.result.mapError f⟩

end Run

/-- A question to a feed, with its answer and the notices on the way to it: one that is answered at
once, and one that waits for the response to a request. -/
inductive Call (α : Type) where
  | atOnce (notices : List Notice) (result : Except FetchError α)
  | waiting (opening : List Notice) (request : Http.Request) (closing : List Notice)
      (result : Except FetchError α)

namespace Call

variable {α β : Type}

def result : Call α → Except FetchError α
  | .atOnce _ result => result
  | .waiting _ _ _ result => result

def map (f : α → β) : Call α → Call β
  | .atOnce notices result => .atOnce notices (result.map f)
  | .waiting opening request closing result => .waiting opening request closing (result.map f)

/-- A question by itself. -/
def run : Call α → Run FetchError α
  | .atOnce notices result => .said notices result
  | .waiting opening request closing result =>
    ⟨opening.map .notice ++ .request request :: closing.map .notice, result⟩

/-- Two results, if there are two; or else the first failure. -/
def paired : Except FetchError α → Except FetchError β → Except FetchError (α × β)
  | .error e, _ => .error e
  | .ok _, .error e => .error e
  | .ok x, .ok y => .ok (x, y)

/-- Two questions together. A failure at once ends both: the second question is not begun after that
of the first, and the request of the first is not sent before that of the second. Otherwise both
requests are sent before either is waited for, and a failure ends the wait for the other response.
The responses come in the order of their requests. -/
def both : Call α → Call β → Run FetchError (α × β)
  | .atOnce notices (.error e), _ => .said notices (.error e)
  | .atOnce notices (.ok x), b =>
    ⟨notices.map .notice ++ b.run.steps, paired (.ok x) b.run.result⟩
  | .waiting opening _ _ _, .atOnce notices (.error e) => .said (opening ++ notices) (.error e)
  | .waiting opening request closing result, .atOnce notices (.ok y) =>
    ⟨(opening ++ notices).map .notice ++ .request request :: closing.map .notice,
      paired result (.ok y)⟩
  | .waiting opening request closing result, .waiting opening' request' closing' result' =>
    let heard :=
      match result with
      | .error _ => closing
      | .ok _ => closing ++ closing'
    ⟨(opening ++ opening').map .notice ++ .request request :: .request request' ::
      heard.map .notice, paired result result'⟩

end Call

structure Feed where
  status : Call Status
  topTeams : Ranking → Option UInt32 → Call (List Team)
  teamProgression : Option String → Call (List Event)

/-- The progressions of a source. -/
inductive Progressions where
  | ranking (teams : List Team)
  | team (events : List Event)
  deriving DecidableEq, Repr

namespace Progressions

def hasSolves : Progressions → Bool
  | .ranking teams => teams.any Team.hasSolves
  | .team events => !events.isEmpty

/-- The submissions of each team. -/
def eventSets : Progressions → List (List Event)
  | .ranking teams => teams.map Team.events
  | .team events => [events]

end Progressions

/-- Progressions and the present for which they are drawn. -/
structure Snapshot where
  time : Int64
  progressions : Progressions
  deriving DecidableEq, Repr

namespace Feed

/-- Asks for the progressions of a source. -/
def progressions (feed : Feed) : Source → Call Progressions
  | .ranking r limit => (feed.topTeams r limit).map .ranking
  | .team category => (feed.teamProgression category).map .team

def fetchedNotice (source : Source) (time : Int64) : Notice :=
  ⟨.debug, "scoregraph_client::api",
    "Fetched progressions from " ++ source.path ++ " at server time " ++ toString time.toInt⟩

/-- The progressions of a source at the time `now`, or at the time of the feed's clock. -/
def snapshot (feed : Feed) (source : Source) (now : Option Int64) : Run FetchError Snapshot :=
  let finish (time : Int64) (p : Progressions) : Run FetchError Snapshot :=
    .said [fetchedNotice source time] (.ok ⟨time, p⟩)
  match now with
  | some now => (feed.progressions source).run.andThen (finish now)
  | none =>
    (feed.status.both (feed.progressions source)).andThen fun (status, p) => finish status.time p

/-- The points of a source at the time of the feed's clock. -/
def points (feed : Feed) (source : Source) (s : Settings) : Run FetchError Points :=
  (feed.snapshot source none).andThen fun shot =>
    .said (s.graphNotices shot.progressions.eventSets (some shot.time))
      ((s.points shot.progressions.eventSets (some shot.time)).mapError .fault)

end Feed

end Scoreline
