import Scoreline.Command.Run

/-!
# Scoreline.Proofs.Command.Precedence

A number of points that is asked for counts for more than that of the settings file. The file is looked
at before the number takes its place, though, and refused by itself if it cannot be drawn with. So the
number in the file still decides in one case, which is that it is zero (`loadSettings_flag_iff`); as
long as it is not, which number it is makes no difference (`loadSettings_flag_congr`).

`settings_precedence` states this for all files that hold settings, and `replaced_zero_refused` is the
case in which a number that is replaced decides.
-/

namespace Scoreline

namespace Settings

/-- Whether a file holds the text of these settings. -/
def InFile (s : Settings) (file : Contents) : Prop :=
  ∃ text, file.textual = .ok text ∧ form.parse text = .ok s

/-- The settings with another number of points. -/
def withPoints (s : Settings) (n : UInt64) : Settings := { s with pointCount := n }

variable {s : Settings}

theorem validate_ok_iff :
    s.validate = .ok () ↔ s.pointCount ≠ 0 ∧ 0 ≤ s.backoff ∧ 0 ≤ s.extension := by
  simp only [validate, ← Int64.not_lt]
  split
  · simp [*]
  · split
    · simp [*]
    · split
      · simp [*]
      · simp [*]

/-- Settings with another number of points than none are at fault for the same reason. -/
theorem validate_withPoints {n : UInt64} (hs : s.pointCount ≠ 0) (hn : n ≠ 0) :
    (s.withPoints n).validate = s.validate := by
  have hpoints : (s.withPoints n).pointCount ≠ 0 := hn
  rw [validate, validate, if_neg hs, if_neg hpoints]
  rfl

theorem load_of_inFile {file : Contents} (h : s.InFile file) :
    load file =
      match s.validate with
      | .error f => .error (.fault f)
      | .ok () => .ok s := by
  obtain ⟨text, htext, hparse⟩ := h
  cases hvalid : s.validate with
  | error f => simp only [load, htext, hparse, hvalid]
  | ok _ => simp only [load, htext, hparse, hvalid]

end Settings

namespace Command

variable {files : Files} {path : String} {c : Settings}

/-- What is said of a file whose settings are at fault. -/
def refusal (path : String) (f : Fault) : Chain :=
  ("Failed to load settings from " ++ path) :: loadCauses (.fault f)

theorem fileSettings_of_inFile (h : c.InFile (files path)) :
    fileSettings files (some path) =
      match c.validate with
      | .error f => .error (refusal path f)
      | .ok () => .ok c := by
  rw [fileSettings, Settings.load_of_inFile h]
  cases c.validate with
  | error f => rfl
  | ok _ => rfl

/-- Settings at fault are refused whatever number is asked for. -/
theorem loadSettings_of_fault (h : c.InFile (files path)) {f : Fault} (hf : c.validate = .error f)
    (points : Option UInt64) :
    loadSettings files (some path) points = .error (refusal path f) := by
  rw [loadSettings, fileSettings_of_inFile h, hf]

theorem loadSettings_of_valid (h : c.InFile (files path)) (hc : c.validate = .ok ())
    (points : Option UInt64) :
    loadSettings files (some path) points =
      match (c.withPoints (points.getD c.pointCount)).validate with
      | .error f => .error [f.message]
      | .ok () => .ok (c.withPoints (points.getD c.pointCount)) := by
  rw [loadSettings, fileSettings_of_inFile h, hc]
  rfl

theorem loadSettings_none_iff (h : c.InFile (files path)) {s : Settings} :
    loadSettings files (some path) none = .ok s ↔ c.validate = .ok () ∧ s = c := by
  cases hc : c.validate with
  | error f =>
    rw [loadSettings_of_fault h hc]
    simp
  | ok _ =>
    have hown : c.withPoints c.pointCount = c := rfl
    rw [loadSettings_of_valid h hc, Option.getD_none, hown, hc]
    simp [eq_comm]

/-- With a number of points the settings are those of the file with that number, if they can be drawn
with and the file's own number is not zero. -/
theorem loadSettings_flag_iff (h : c.InFile (files path)) {n : UInt64} {s : Settings} :
    loadSettings files (some path) (some n) = .ok s ↔
      c.pointCount ≠ 0 ∧ (c.withPoints n).validate = .ok () ∧ s = c.withPoints n := by
  cases hc : c.validate with
  | error f =>
    rw [loadSettings_of_fault h hc]
    refine iff_of_false (by simp) ?_
    rintro ⟨hzero, hvalid, -⟩
    have hn : n ≠ 0 := (Settings.validate_ok_iff.1 hvalid).1
    rw [Settings.validate_withPoints hzero hn, hc] at hvalid
    cases hvalid
  | ok _ =>
    have hzero : c.pointCount ≠ 0 := (Settings.validate_ok_iff.1 hc).1
    rw [loadSettings_of_valid h hc, Option.getD_some]
    cases (c.withPoints n).validate with
    | error f => simp
    | ok _ => simp [hzero, eq_comm]

/-- Which number a number takes the place of makes no difference, as long as it is not zero. -/
theorem loadSettings_flag_congr {files' : Files} {c' : Settings} (h : c.InFile (files path))
    (h' : c'.InFile (files' path)) (hzero : c.pointCount ≠ 0) (hzero' : c'.pointCount ≠ 0)
    (hsame : c'.withPoints c.pointCount = c) (n : UInt64) :
    loadSettings files' (some path) (some n) = loadSettings files (some path) (some n) := by
  have hvalidate : c'.validate = c.validate := by
    rw [← Settings.validate_withPoints hzero' hzero, hsame]
  have hpoints : c'.withPoints n = c.withPoints n := by
    rw [← hsame]
    rfl
  cases hc : c.validate with
  | error f => rw [loadSettings_of_fault h hc, loadSettings_of_fault h' (hvalidate.trans hc)]
  | ok _ =>
    rw [loadSettings_of_valid h hc, loadSettings_of_valid h' (hvalidate.trans hc),
      Option.getD_some, Option.getD_some, hpoints]

/-- Take a file that holds the text of settings. Without a number of points the file is accepted if its
settings can be drawn with, and they are the result. With one the result is the settings with that
number, and there is a result if they can be drawn with and the number in the file is not zero: then it
makes no difference which number stands in the file. If it is zero the file is refused, whatever number
is asked for. -/
theorem settings_precedence {files : Files} {path : String} {c : Settings}
    (h : c.InFile (files path)) :
    (∀ s, loadSettings files (some path) none = .ok s ↔ c.validate = .ok () ∧ s = c) ∧
    (∀ n s, loadSettings files (some path) (some n) = .ok s ↔
      c.pointCount ≠ 0 ∧ (c.withPoints n).validate = .ok () ∧ s = c.withPoints n) ∧
    (∀ (files' : Files) (c' : Settings), c'.InFile (files' path) → c.pointCount ≠ 0 →
      c'.pointCount ≠ 0 → c'.withPoints c.pointCount = c → ∀ n,
        loadSettings files' (some path) (some n) = loadSettings files (some path) (some n)) ∧
    (c.pointCount = 0 → ∀ points,
      loadSettings files (some path) points = .error (refusal path .noPoints)) := by
  refine ⟨fun s => loadSettings_none_iff h, fun n s => loadSettings_flag_iff h, ?_, ?_⟩
  · intro files' c' h' hzero hzero' hsame n
    exact loadSettings_flag_congr h h' hzero hzero' hsame n
  · intro hzero points
    have hfault : c.validate = .error .noPoints := by
      rw [Settings.validate, if_pos hzero]
    exact loadSettings_of_fault h hfault points

/-- Settings of which only the number of points is kept in a file, and a number that replaces it. -/
theorem settings_precedence_partial :
    let files : Files := fun _ => .ok (Text.utf8 "\x7b\"point_count\": 96\x7d")
    let c : Settings := ⟨96, 300, 86400⟩
    c.InFile (files "settings") ∧
      loadSettings files (some "settings") none = .ok c ∧
      loadSettings files (some "settings") (some 12) = .ok ⟨12, 300, 86400⟩ ∧
      ∀ s, loadSettings files (some "settings") (some 0) ≠ .ok s := by
  intro files c
  have hfile : c.InFile (files "settings") := ⟨_, rfl, rfl⟩
  obtain ⟨hown, hflag, -⟩ := settings_precedence hfile
  refine ⟨hfile, (hown c).2 ⟨rfl, rfl⟩, (hflag 12 _).2 ⟨by decide, rfl, rfl⟩, fun s hs => ?_⟩
  obtain ⟨-, hvalid, -⟩ := (hflag 0 s).1 hs
  cases hvalid

/-- A number of points that is zero is refused although another takes its place, and with that the
settings can be drawn with. -/
theorem replaced_zero_refused :
    let files : Files := fun _ => .ok (Text.utf8 "\x7b\"point_count\": 0\x7d")
    let c : Settings := ⟨0, 300, 86400⟩
    c.InFile (files "settings.json") ∧ (c.withPoints 4).validate = .ok () ∧
      loadSettings files (some "settings.json") (some 4) =
        .error ["Failed to load settings from settings.json",
          "invalid parameter: point_count must be at least 1"] ∧
      ∀ s, loadSettings files (some "settings.json") (some 4) ≠ .ok s := by
  intro files c
  have hfile : c.InFile (files "settings.json") := ⟨_, rfl, rfl⟩
  have hrefused := loadSettings_of_fault hfile (f := .noPoints) rfl (some 4)
  have hchain : refusal "settings.json" .noPoints =
      ["Failed to load settings from settings.json",
        "invalid parameter: point_count must be at least 1"] := by decide
  rw [hchain] at hrefused
  refine ⟨hfile, rfl, hrefused, fun s hs => ?_⟩
  rw [hrefused] at hs
  cases hs

end Command

end Scoreline
