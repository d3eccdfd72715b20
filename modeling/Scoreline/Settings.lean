import Scoreline.File
import Scoreline.Json.Form

/-!
# Scoreline.Settings

How progressions are drawn: the number of points of a series, and how far the window of time reaches
beyond the submissions on either side. `Settings.validate` says which settings can be drawn with.
-/

namespace Scoreline

open Json (Form Fields)

structure Settings where
  pointCount : UInt64
  backoff : Int64
  extension : Int64
  deriving DecidableEq, Repr

/-- Why nothing can be drawn. -/
inductive Fault where
  | noPoints
  | negativeBackoff (seconds : Int64)
  | negativeExtension (seconds : Int64)
  | noSubmissions
  deriving DecidableEq, Repr

namespace Fault

/-- Whether the fault lies in the settings; otherwise it lies in what is to be drawn. -/
def isParameter : Fault → Bool
  | .noPoints | .negativeBackoff _ | .negativeExtension _ => true
  | .noSubmissions => false

def message : Fault → String
  | .noPoints => "invalid parameter: point_count must be at least 1"
  | .negativeBackoff n =>
    "invalid parameter: backoff_secs must not be negative, got " ++ toString n.toInt
  | .negativeExtension n =>
    "invalid parameter: extension_secs must not be negative, got " ++ toString n.toInt
  | .noSubmissions =>
    "invalid input: cannot derive a time window: no team has any submissions"

end Fault

namespace Settings

/-- 720 points, from five minutes before the first submission to a day after the last. -/
def default : Settings := ⟨720, 300, 86400⟩

/-- The first fault of the settings, in the order of their members. -/
def validate (s : Settings) : Except Fault Unit :=
  if s.pointCount = 0 then .error .noPoints
  else if s.backoff < 0 then .error (.negativeBackoff s.backoff)
  else if s.extension < 0 then .error (.negativeExtension s.extension)
  else .ok ()

def form : Form Settings :=
  .record "ProgressionConfig"
    (.defaulted "point_count" .count default.pointCount
      (.defaulted "backoff_secs" .int64 default.backoff
        (.defaulted "extension_secs" .int64 default.extension .nil)))
    (fun (points, backoff, extension, ()) => ⟨points, backoff, extension⟩)
    (fun s => (s.pointCount, s.backoff, s.extension, ()))

/-- Why settings cannot be taken from a file. -/
inductive LoadError where
  | file (e : FileError)
  | json (p : Json.Problem)
  | fault (f : Fault)
  deriving DecidableEq, Repr

def LoadError.message : LoadError → String
  | .file e => "I/O error: " ++ e.message
  | .json p => "JSON error: " ++ p.message
  | .fault f => f.message

/-- The settings in a file. Settings that cannot be drawn with are refused. -/
def load (file : Contents) : Except LoadError Settings :=
  match file.textual with
  | .error e => .error (.file e)
  | .ok text =>
    match form.parse text with
    | .error p => .error (.json p)
    | .ok s =>
      match s.validate with
      | .error f => .error (.fault f)
      | .ok () => .ok s

end Settings

end Scoreline
