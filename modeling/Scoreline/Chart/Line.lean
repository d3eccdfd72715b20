import Scoreline.Json.Form
import Scoreline.Series

/-!
# Scoreline.Chart.Line

A line chart as a chart library takes it: labels, one dataset for each line, and options for the
grid.
-/

namespace Scoreline
namespace Chart

open Json (Form Fields)

structure Dataset where
  label : String
  data : Series
  pointBackground : String
  border : String
  background : String
  hitRadius : UInt32
  radius : UInt32
  tension : Decimal.Binary
  deriving DecidableEq, Repr

def Dataset.form : Form Dataset :=
  .record "Dataset"
    (.required "label" .string (.required "data" (.list .int64)
      (.required "pointBackgroundColor" .string (.required "borderColor" .string
        (.required "backgroundColor" .string (.required "pointHitRadius" .uint32
          (.required "pointRadius" .uint32 (.required "lineTension" .single .nil))))))))
    (fun (label, data, pointBackground, border, background, hitRadius, radius, tension, ()) =>
      ⟨label, data, pointBackground, border, background, hitRadius, radius, tension⟩)
    (fun d => (d.label, d.data, d.pointBackground, d.border, d.background, d.hitRadius, d.radius,
      d.tension, ()))

structure Data where
  labels : List String
  datasets : List Dataset
  deriving DecidableEq, Repr

def Data.form : Form Data :=
  .record "ChartData"
    (.required "labels" (.list .string) (.required "datasets" (.list Dataset.form) .nil))
    (fun (labels, datasets, ()) => ⟨labels, datasets⟩)
    (fun d => (d.labels, d.datasets, ()))

/-- Labels that say nothing, for `n` points. -/
def blankLabels (n : Nat) : List String := List.replicate n ""

/-- The kind of a chart. There is one. -/
inductive Kind where
  | line
  deriving DecidableEq, Repr

def Kind.name : Kind → String
  | .line => "line"

def Kind.form : Form Kind where
  read := Json.readVariant [(Kind.line.name, .line)]
  write k := .string k.name

structure GridLines where
  display : Bool
  deriving DecidableEq, Repr

def GridLines.form : Form GridLines :=
  .record "GridLines" (.required "display" .boolean .nil) (fun (display, ()) => ⟨display⟩)
    (fun g => (g.display, ()))

structure Axis where
  gridLines : GridLines
  deriving DecidableEq, Repr

/-- An axis whose grid is shown or not. -/
def Axis.showing (display : Bool) : Axis := ⟨⟨display⟩⟩

def Axis.form : Form Axis :=
  .record "Axis" (.required "gridLines" GridLines.form .nil) (fun (grid, ()) => ⟨grid⟩)
    (fun a => (a.gridLines, ()))

structure Scales where
  y : List Axis
  x : List Axis
  deriving DecidableEq, Repr

def Scales.form : Form Scales :=
  .record "Scales"
    (.required "yAxes" (.list Axis.form) (.required "xAxes" (.list Axis.form) .nil))
    (fun (y, x, ()) => ⟨y, x⟩)
    (fun s => (s.y, s.x, ()))

structure Options where
  scales : Scales
  deriving DecidableEq, Repr

/-- One axis in each direction, without a grid. -/
def Options.default : Options := ⟨⟨[.showing false], [.showing false]⟩⟩

def Options.form : Form Options :=
  .record "ChartOptions" (.required "scales" Scales.form .nil) (fun (scales, ()) => ⟨scales⟩)
    (fun o => (o.scales, ()))

structure Line where
  kind : Kind
  data : Data
  options : Options
  deriving DecidableEq, Repr

def Line.form : Form Line :=
  .record "LineChart"
    (.required "type" Kind.form
      (.required "data" Data.form (.required "options" Options.form .nil)))
    (fun (kind, data, options, ()) => ⟨kind, data, options⟩)
    (fun c => (c.kind, c.data, c.options, ()))

end Chart
end Scoreline
