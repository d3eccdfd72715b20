import Scoreline.Chart.Line
import Scoreline.Chart.Palette
import Scoreline.Graph

/-!
# Scoreline.Chart.Builder

Charts from progressions: of the top teams, one line each, or of a single team. A ranking of fewer
than two teams is not drawn, and where nobody has solved anything a message stands for the chart.
-/

namespace Scoreline
namespace Chart

/-- What comes of drawing a chart. -/
inductive Outcome where
  | chart (c : Line)
  | placeholder (message : String)
  | skipped
  deriving DecidableEq, Repr

def noSolvesMessage : String := "No problems have been solved."

/-- An outcome is written as an object that says which it is. -/
def Outcome.write : Outcome → Json.Value
  | .chart c => .object [("outcome", .string "chart"), ("chart", Line.form.write c)]
  | .placeholder message =>
    .object [("outcome", .string "placeholder"), ("message", .string message)]
  | .skipped => .object [("outcome", .string "skipped")]

/-- Why a chart cannot be drawn. -/
inductive Error where
  | fault (f : Fault)
  | emptyPalette
  deriving DecidableEq, Repr

def Error.message : Error → String
  | .fault f => "progression error: " ++ f.message
  | .emptyPalette => "palette must contain at least one border and one background colour"

/-- All that the look of a chart depends on. -/
structure Builder where
  settings : Settings
  palette : Palette
  options : Options
  deriving DecidableEq, Repr

namespace Builder

/-- Drawing with some settings, in the default colours. -/
def withSettings (s : Settings) : Builder := ⟨s, .default, .default⟩

/-- The dataset of line number `i`. -/
def dataset (b : Builder) (i : Nat) (label : String) (data : Series) (radius : UInt32) :
    Dataset where
  label := label
  data := data
  pointBackground := b.palette.borderAt i
  border := b.palette.borderAt i
  background := b.palette.backgroundAt i
  hitRadius := 0
  radius := radius
  tension := Decimal.Format.single.ofNat 0

def chart (b : Builder) (datasets : List Dataset) : Outcome :=
  .chart ⟨.line, ⟨blankLabels b.settings.pointCount.toNat, datasets⟩, b.options⟩

/-- The series to draw, if the palette has colours for them. -/
def series (b : Builder) (teams : List (List Event)) (now : Option Int64) :
    Except Error (List Series) :=
  if b.palette.isUsable then
    match b.settings.points teams now with
    | .error f => .error (.fault f)
    | .ok points => .ok points.series
  else .error .emptyPalette

/-- The datasets of teams, each with its series, the first of them line number `i`. -/
def datasets (b : Builder) : Nat → List Team → List Series → List Dataset
  | i, t :: teams, s :: ss => b.dataset i t.name s 1 :: b.datasets (i + 1) teams ss
  | _, _, _ => []

/-- The chart of the top teams of a ranking. -/
def topTeams (b : Builder) (teams : List Team) (now : Option Int64) : Except Error Outcome :=
  if teams.length < 2 then .ok .skipped
  else if teams.any Team.hasSolves then
    match b.series (teams.map Team.events) now with
    | .error e => .error e
    | .ok ss => .ok (b.chart (b.datasets 0 teams ss))
  else .ok (.placeholder noSolvesMessage)

/-- The chart of a single team. -/
def team (b : Builder) (events : List Event) (now : Option Int64) : Except Error Outcome :=
  if events.isEmpty then .ok (.placeholder noSolvesMessage)
  else
    match b.series [events] now with
    | .error e => .error e
    | .ok ss => .ok (b.chart (ss.map fun s => b.dataset 0 "Score" s 0))

/-! ## Notices -/

def skippedNotice (teams : Nat) : Notice :=
  ⟨.info, "scoregraph_chart::builder",
    "Skipping top teams graph: " ++ toString teams ++ " team(s)"⟩

def builtNotice (teams : Nat) : Notice :=
  ⟨.debug, "scoregraph_chart::builder",
    "Built top teams chart for " ++ toString teams ++ " teams"⟩

/-- What is reported while series are computed. -/
def seriesNotices (b : Builder) (teams : List (List Event)) (now : Option Int64) : List Notice :=
  if b.palette.isUsable then b.settings.graphNotices teams now else []

/-- What is reported while the chart of the top teams is drawn. -/
def topTeamsNotices (b : Builder) (teams : List Team) (now : Option Int64) : List Notice :=
  if teams.length < 2 then [skippedNotice teams.length]
  else if teams.any Team.hasSolves then
    b.seriesNotices (teams.map Team.events) now ++
      match b.topTeams teams now with
      | .error _ => []
      | .ok _ => [builtNotice teams.length]
  else []

/-- What is reported while the chart of a single team is drawn. -/
def teamNotices (b : Builder) (events : List Event) (now : Option Int64) : List Notice :=
  if events.isEmpty then [] else b.seriesNotices [events] now

end Builder

end Chart
end Scoreline
