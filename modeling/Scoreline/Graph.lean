import Scoreline.Json.Decode
import Scoreline.Notice
import Scoreline.Series
import Scoreline.Time.Rfc3339

/-!
# Scoreline.Graph

The graph of a list of teams: one layout for all of them, made for their common window, and a series
for each.

`Settings.graph` draws it. `Settings.graphNotices` says what is reported meanwhile.
-/

namespace Scoreline

open Json (Form Fields)

structure Graph where
  layout : Layout
  series : List Series
  deriving DecidableEq, Repr

/-- The series of a graph: of a single one or of several. -/
inductive Points where
  | single (s : Series)
  | multi (ss : List Series)
  deriving DecidableEq, Repr

namespace Points

def ofSeries : List Series → Points
  | [s] => .single s
  | ss => .multi ss

def series : Points → List Series
  | .single s => [s]
  | .multi ss => ss

/-- Points are written as a list of scores, or of such lists. -/
def write : Points → Json.Value
  | .single s => (Form.list Form.int64).write s
  | .multi ss => (Form.list (Form.list Form.int64)).write ss

/-- Points are a single series if the value can be read as one, and else several. -/
def decode (v : Json.Value) : Except Json.Problem Points :=
  match Json.decodeList Json.decodeInt64 v with
  | .ok s => .ok (.single s)
  | .error _ =>
    match Json.decodeList (Json.decodeList Json.decodeInt64) v with
    | .ok ss => .ok (.multi ss)
    | .error _ => .error (.mismatch (.noVariant "Points"))

/-- Points are read whole before anything is made of them. -/
def read : Json.Reader Points := fun text =>
  match Json.readBuffered Json.nestingLimit text with
  | .error p => .error p
  | .ok (v, rest) =>
    match decode v with
    | .error p => .error p
    | .ok points => .ok (points, rest)

def form : Form Points := ⟨read, write⟩

end Points

namespace Graph

def points (g : Graph) : Points := .ofSeries g.series

def form : Form Graph :=
  .record "ProgressionGraph"
    (.required "layout" Layout.form (.required "series" (.list (.list .int64)) .nil))
    (fun (layout, series, ()) => ⟨layout, series⟩)
    (fun g => (g.layout, g.series, ()))

end Graph

namespace Settings

/-- The series of one team in a layout. -/
def seriesOf (s : Settings) (l : Layout) (events : List Event) : Series :=
  Series.fit s.pointCount.toNat (Series.fill (l.assign events))

/-- The graph of teams given by their submissions. -/
def graph (s : Settings) (teams : List (List Event)) (now : Option Int64) : Except Fault Graph :=
  match s.validate with
  | .error f => .error f
  | .ok () =>
    match Window.resolve s teams now with
    | .error f => .error f
    | .ok w =>
      let l := Layout.ofWindow w s.pointCount
      .ok ⟨l, teams.map (s.seriesOf l)⟩

def points (s : Settings) (teams : List (List Event)) (now : Option Int64) : Except Fault Points :=
  match s.graph teams now with
  | .error f => .error f
  | .ok g => .ok g.points

end Settings

/-! ## Notices -/

/-- A moment for a reader: its date, or the bare number where there is none. -/
def momentText (t : Int64) : String := (Time.rfc3339? t).getD (toString t.toInt)

namespace Window

def notice (w : Window) (teams : Nat) (latest : Int64) : Notice :=
  ⟨.debug, "scoregraph_progress::window",
    "Resolved window [" ++ momentText w.min ++ ", " ++ momentText w.max ++ "] from " ++
      toString teams ++ " teams (latest solve " ++ toString latest.toInt ++ ")"⟩

/-- What is reported while the window of teams is resolved. -/
def notices (s : Settings) (teams : List (List Event)) (now : Option Int64) : List Notice :=
  match resolve? s teams now with
  | none => []
  | some (w, latest) => [w.notice teams.length latest]

end Window

namespace Layout

/-- What is reported when the layout has been made for `pointCount` points. -/
def notice (l : Layout) (pointCount : UInt64) : Notice :=
  ⟨.debug, "scoregraph_progress::bucket",
    "Bucket layout: span " ++ toString l.window.span.toInt ++ "s, width " ++
      toString l.width.toInt ++ "s, " ++ toString l.count.toNat ++ " buckets for " ++
      toString pointCount.toNat ++ " points"⟩

/-- What is reported when events are assigned: their clipping, if there is any. -/
def assignNotices (l : Layout) (events : List Event) : List Notice :=
  if l.clipped events = 0 then []
  else [⟨.debug, "scoregraph_progress::bucket",
    "Clipped " ++ toString (l.clipped events) ++ " out-of-range events into edge buckets"⟩]

end Layout

namespace Graph

def notice (g : Graph) (pointCount : UInt64) : Notice :=
  ⟨.debug, "scoregraph_progress::engine",
    "Computed " ++ toString g.series.length ++ " series of " ++ toString pointCount.toNat ++
      " points (bucket width " ++ toString g.layout.width.toInt ++ "s)"⟩

end Graph

/-- What is reported while a graph is drawn. -/
def Settings.graphNotices (s : Settings) (teams : List (List Event)) (now : Option Int64) :
    List Notice :=
  match s.graph teams now with
  | .error _ => []
  | .ok g =>
    Window.notices s teams now ++ [g.layout.notice s.pointCount] ++
      teams.flatMap g.layout.assignNotices ++ [g.notice s.pointCount]

end Scoreline
