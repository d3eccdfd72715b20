import Scoreline.Command.Run
import Scoreline.Proofs.Chart
import Scoreline.Proofs.Feed.Call

/-!
# Scoreline.Proofs.Command.Agreement

The commands that print the points and the chart of a dump, run on the same files with the same
options.

* `gather_congr` — they read the same options, so one command line is a request of both or of none.
* `Fetches` — what both come to before they differ: settings, a source and a snapshot. Neither fails
  after that (`printed_of_fetches`), and neither succeeds without (`fetches_of_points`,
  `fetches_of_chart`).
* `Printed` — the texts that both print of a snapshot, case by case.

`points_chart_agree` puts them together.
-/

namespace Scoreline

/-! ## Runs -/

namespace Run

variable {ε α β : Type} {r : Run ε α} {next : α → Run ε β}

theorem andThen_ok {a : α} (h : r.result = .ok a) :
    (r.andThen next).result = (next a).result := by
  simp only [andThen, h]

/-- A run that succeeds has succeeded at each of its steps. -/
theorem exists_of_andThen_ok {b : β} (h : (r.andThen next).result = .ok b) :
    ∃ a, r.result = .ok a ∧ (next a).result = .ok b := by
  cases ha : r.result with
  | error e =>
    simp only [andThen, ha] at h
    cases h
  | ok a =>
    rw [andThen_ok ha] at h
    exact ⟨a, rfl, h⟩

/-- A run that fails has failed at one of its steps. -/
theorem error_of_andThen {e : ε} (h : (r.andThen next).result = .error e) :
    r.result = .error e ∨ ∃ a, r.result = .ok a ∧ (next a).result = .error e := by
  cases ha : r.result with
  | error e' =>
    simp only [andThen, ha] at h
    cases h
    exact .inl rfl
  | ok a =>
    rw [andThen_ok ha] at h
    exact .inr ⟨a, rfl, h⟩

theorem mapError_eq_ok_iff {ε' : Type} {f : ε → ε'} {x : Except ε α} {a : α} :
    x.mapError f = .ok a ↔ x = .ok a := by
  cases x with
  | error e =>
    have hmap : (Except.error e : Except ε α).mapError f = .error (f e) := rfl
    simp [hmap]
  | ok a' =>
    have hmap : (Except.ok a' : Except ε α).mapError f = .ok a' := rfl
    simp [hmap]

theorem mapError_ok_iff {ε' : Type} {f : ε → ε'} {a : α} :
    (r.mapError f).result = .ok a ↔ r.result = .ok a :=
  mapError_eq_ok_iff

end Run

/-! ## Snapshots -/

/-- No team has an event. -/
def Progressions.Eventless (p : Progressions) : Prop := ∀ events ∈ p.eventSets, events = []

theorem Progressions.hasSolves_eq_false_iff {p : Progressions} :
    p.hasSolves = false ↔ p.Eventless := by
  cases p with
  | ranking teams => simp [hasSolves, Eventless, eventSets, Team.hasSolves]
  | team events => simp [hasSolves, Eventless, eventSets]

theorem Progressions.hasSolves_eq_true_iff {p : Progressions} :
    p.hasSolves = true ↔ ¬ p.Eventless := by
  rw [← hasSolves_eq_false_iff, Bool.not_eq_false]

theorem Progressions.exists_event {p : Progressions} (h : ¬ p.Eventless) :
    ∃ events ∈ p.eventSets, events ≠ [] := by
  simpa [Eventless] using h

/-- Whether there is something to compare: for a team always, for a ranking from two teams on. -/
def Source.Compares : Source → Progressions → Prop
  | .team _, _ => True
  | .ranking _ _, p => 2 ≤ p.eventSets.length

theorem Source.compares_ranking_iff (r : Ranking) (limit : Option UInt32) (teams : List Team) :
    (Source.ranking r limit).Compares (.ranking teams) ↔ ¬ teams.length < 2 := by
  rw [Compares, Progressions.eventSets, List.length_map, Nat.not_lt]

/-- A snapshot holds what the feed answers for its source. -/
theorem Feed.progressions_of_snapshot {feed : Feed} {source : Source} {now : Option Int64}
    {shot : Snapshot} (h : (feed.snapshot source now).result = .ok shot) :
    (feed.progressions source).result = .ok shot.progressions := by
  cases now with
  | some time =>
    obtain ⟨p, hp, hshot⟩ := Run.exists_of_andThen_ok h
    cases hshot
    rwa [Call.result_run] at hp
  | none =>
    obtain ⟨⟨status, p⟩, hboth, hshot⟩ := Run.exists_of_andThen_ok h
    cases hshot
    exact (Call.both_eq_ok_iff.1 hboth).2

/-- A ranking has teams, and a team has events. -/
inductive Source.Shapes : Source → Progressions → Prop where
  | ranking (r : Ranking) (limit : Option UInt32) (teams : List Team) :
      Shapes (.ranking r limit) (.ranking teams)
  | team (category : Option String) (events : List Event) :
      Shapes (.team category) (.team events)

/-- The progressions of a feed have the shape of their source. -/
theorem Feed.shapes_of_snapshot {feed : Feed} {source : Source} {now : Option Int64}
    {shot : Snapshot} (h : (feed.snapshot source now).result = .ok shot) :
    source.Shapes shot.progressions := by
  have hp := progressions_of_snapshot h
  cases source with
  | ranking r limit =>
    have hmap : (feed.topTeams r limit).result.map .ranking = .ok shot.progressions :=
      (Call.result_map _ _).symm.trans hp
    cases hteams : (feed.topTeams r limit).result with
    | error e => rw [hteams] at hmap; cases hmap
    | ok teams =>
      rw [hteams] at hmap
      rw [← Except.ok.inj hmap]
      exact .ranking r limit teams
  | team category =>
    have hmap : (feed.teamProgression category).result.map .team = .ok shot.progressions :=
      (Call.result_map _ _).symm.trans hp
    cases hevents : (feed.teamProgression category).result with
    | error e => rw [hevents] at hmap; cases hmap
    | ok events =>
      rw [hevents] at hmap
      rw [← Except.ok.inj hmap]
      exact .team category events

namespace Command

/-! ## Command lines -/

/-- Which options are read depends on nothing but which are allowed. -/
theorem gather_congr {c d : Option Subcommand} (hsome : c.isSome = d.isSome)
    (hallowed : ∀ o : Opt, o.allowed c = o.allowed d) (g : Gathered) (args : List String) :
    gather c g args = gather d g args := by
  fun_induction gather c g args <;> rw [gather] <;> simp_all

/-- What the arguments after a subcommand ask for. -/
def requestOf (c : Subcommand) (args : List String) : Request :=
  match gather (some c) {} args with
  | .help => .help
  | .usage | .atWord _ _ _ => .usage
  | .atEnd inner =>
    match inner.task? c with
    | none => .usage
    | some task => .run ⟨Gathered.general {} inner, task⟩

/-- A command line is a request for points as it is one for a chart: with the same options, or for
neither. -/
theorem parse_points_chart (args : List String) :
    (∃ general input selection,
      parse ("points" :: args) = .run ⟨general, .points input selection⟩ ∧
        parse ("chart" :: args) = .run ⟨general, .chart input selection⟩) ∨
      (parse ("points" :: args) = parse ("chart" :: args) ∧
        ∀ i, parse ("points" :: args) ≠ .run i) := by
  have hpoints : parse ("points" :: args) = requestOf .points args := rfl
  have hchart : parse ("chart" :: args) = requestOf .chart args := rfl
  have hallowed (o : Opt) : o.allowed (some .points) = o.allowed (some .chart) := by
    cases o <;> rfl
  have hgather : gather (some .points) {} args = gather (some .chart) {} args :=
    gather_congr (by rfl) hallowed {} args
  rw [hpoints, hchart, requestOf, requestOf, hgather]
  cases gather (some .chart) {} args with
  | help => simp
  | usage => simp
  | atWord _ _ _ => simp
  | atEnd inner =>
    simp only [Gathered.task?]
    cases inner.selection? with
    | none => simp
    | some selection =>
      cases inner.input with
      | none => simp
      | some input => exact .inl ⟨_, input, selection, rfl, rfl⟩

/-! ## What is fetched -/

/-- The settings, the source and the snapshot that a command on a dump comes to. -/
structure Fetches (w : World) (general : General) (input : String) (selection : Selection)
    (s : Settings) (source : Source) (shot : Snapshot) : Prop where
  settings_ok : loadSettings w.files general.config general.points = .ok s
  source_ok : selection.source = .ok source
  snapshot_ok : ∃ d, (Dump.load input (w.files input)).result = .ok d ∧
    (d.feed.snapshot source general.now).result = .ok shot

theorem validate_of_loadSettings {files : Files} {config : Option String}
    {points : Option UInt64} {s : Settings} (h : loadSettings files config points = .ok s) :
    s.validate = .ok () := by
  simp only [loadSettings] at h
  split at h
  · cases h
  · split at h
    · cases h
    · rename_i hvalid
      cases h
      exact hvalid

section Asking

variable {feed : Feed} {source : Source} {now : Option Int64} {out : String}

theorem exists_of_printPoints_ok {s : Settings}
    (h : (printPoints feed source now s).result = .ok out) :
    ∃ shot, (feed.snapshot source now).result = .ok shot := by
  obtain ⟨shot, hshot, -⟩ := Run.exists_of_andThen_ok h
  exact ⟨shot, Run.mapError_ok_iff.1 hshot⟩

theorem exists_of_printChart_ok {b : Chart.Builder}
    (h : (printChart feed source now b).result = .ok out) :
    ∃ shot, (feed.snapshot source now).result = .ok shot := by
  obtain ⟨o, hdraw, -⟩ := Run.exists_of_andThen_ok h
  obtain ⟨shot, hshot, -⟩ := Run.exists_of_andThen_ok hdraw
  exact ⟨shot, Run.mapError_ok_iff.1 hshot⟩

end Asking

section Fetches

variable {w : World} {general : General} {input : String} {selection : Selection}
  {next : Feed → Source → Output} {out : String}

theorem withDump_ok {d : Dump} {source : Source}
    (hd : (Dump.load input (w.files input)).result = .ok d)
    (hsource : selection.source = .ok source) :
    (withDump w input selection next).result = (next d.feed source).result := by
  rw [withDump, Run.andThen_ok (Run.mapError_ok_iff.2 hd), hsource]

theorem exists_of_withDump_ok (h : (withDump w input selection next).result = .ok out) :
    ∃ d source, (Dump.load input (w.files input)).result = .ok d ∧
      selection.source = .ok source ∧ (next d.feed source).result = .ok out := by
  obtain ⟨d, hd, hnext⟩ := Run.exists_of_andThen_ok h
  cases hsource : selection.source with
  | error message =>
    rw [hsource] at hnext
    cases hnext
  | ok source =>
    rw [hsource] at hnext
    exact ⟨d, source, Run.mapError_ok_iff.1 hd, rfl, hnext⟩

theorem exists_of_run_ok {task : Task} (h : (Invocation.run w ⟨general, task⟩).result = .ok out) :
    ∃ s, loadSettings w.files general.config general.points = .ok s ∧
      (task.run w general.now s).result = .ok out := by
  simp only [Invocation.run] at h
  split at h
  · cases h
  · rename_i s hs
    exact ⟨s, hs, h⟩

/-- Points are printed only of a snapshot. -/
theorem fetches_of_points
    (h : (Invocation.run w ⟨general, .points input selection⟩).result = .ok out) :
    ∃ s source shot, Fetches w general input selection s source shot := by
  obtain ⟨s, hs, htask⟩ := exists_of_run_ok h
  obtain ⟨d, source, hd, hsource, hprint⟩ := exists_of_withDump_ok htask
  obtain ⟨shot, hshot⟩ := exists_of_printPoints_ok hprint
  exact ⟨s, source, shot, hs, hsource, d, hd, hshot⟩

/-- A chart is printed only of a snapshot. -/
theorem fetches_of_chart
    (h : (Invocation.run w ⟨general, .chart input selection⟩).result = .ok out) :
    ∃ s source shot, Fetches w general input selection s source shot := by
  obtain ⟨s, hs, htask⟩ := exists_of_run_ok h
  obtain ⟨d, source, hd, hsource, hprint⟩ := exists_of_withDump_ok htask
  obtain ⟨shot, hshot⟩ := exists_of_printChart_ok hprint
  exact ⟨s, source, shot, hs, hsource, d, hd, hshot⟩

end Fetches

/-! ## What is drawn -/

section Drawing

variable {b : Chart.Builder} {source : Source} {p : Progressions} {time : Int64}

theorem drawChart_skipped (hshape : source.Shapes p) (hfew : ¬ source.Compares p) :
    (drawChart b ⟨time, p⟩).result = .ok .skipped := by
  cases hshape with
  | ranking r limit teams =>
    have hlen : teams.length < 2 := by
      rw [Source.compares_ranking_iff, Classical.not_not] at hfew
      exact hfew
    show (b.topTeams teams (some time)).mapError chartCauses = _
    rw [Chart.Builder.topTeams, if_pos hlen]
    rfl
  | team category events => exact absurd trivial hfew

theorem drawChart_placeholder (hshape : source.Shapes p) (hall : source.Compares p)
    (hnone : p.Eventless) :
    (drawChart b ⟨time, p⟩).result = .ok (.placeholder Chart.noSolvesMessage) := by
  have hsolves := Progressions.hasSolves_eq_false_iff.2 hnone
  cases hshape with
  | ranking r limit teams =>
    have hlen := (Source.compares_ranking_iff r limit teams).1 hall
    have hany : teams.any Team.hasSolves = false := hsolves
    show (b.topTeams teams (some time)).mapError chartCauses = _
    rw [Chart.Builder.topTeams, if_neg hlen, hany, if_neg (by simp)]
    rfl
  | team category events =>
    have hempty : events.isEmpty = true := by simpa [Progressions.hasSolves] using hsolves
    show (b.team events (some time)).mapError chartCauses = _
    rw [Chart.Builder.team, if_pos hempty]
    rfl

theorem drawChart_chart (hpalette : b.palette.isUsable = true) (hshape : source.Shapes p)
    (hall : source.Compares p) (hsome : ¬ p.Eventless) {g : Graph}
    (hg : b.settings.graph p.eventSets (some time) = .ok g) :
    ∃ c, (drawChart b ⟨time, p⟩).result = .ok (.chart c) ∧
      c.data.datasets.map Chart.Dataset.data = g.series := by
  have hsolves := Progressions.hasSolves_eq_true_iff.2 hsome
  cases hshape with
  | ranking r limit teams =>
    have hlen := (Source.compares_ranking_iff r limit teams).1 hall
    obtain ⟨c, hc, hdata⟩ := Chart.Builder.topTeams_of_graph hpalette hlen hsolves hg
    refine ⟨c, ?_, hdata⟩
    show (b.topTeams teams (some time)).mapError chartCauses = _
    rw [hc]
    rfl
  | team category events =>
    have hempty : events.isEmpty = false := by simpa [Progressions.hasSolves] using hsolves
    obtain ⟨c, hc, hdata⟩ := Chart.Builder.team_of_graph hpalette hempty hg
    refine ⟨c, ?_, hdata⟩
    show (b.team events (some time)).mapError chartCauses = _
    rw [hc]
    rfl

end Drawing

/-! ## What is printed -/

/-- The texts that are printed of a snapshot, of its points and of its chart. -/
inductive Printed (s : Settings) (source : Source) (shot : Snapshot) : String → String → Prop where
  | neither (hnone : shot.progressions.Eventless) (hfew : ¬ source.Compares shot.progressions) :
      Printed s source shot (line Chart.noSolvesMessage) ""
  | messages (hnone : shot.progressions.Eventless) (hall : source.Compares shot.progressions) :
      Printed s source shot (line Chart.noSolvesMessage) (line Chart.noSolvesMessage)
  | points (hsome : ¬ shot.progressions.Eventless) (hfew : ¬ source.Compares shot.progressions)
      (p : Points) : Printed s source shot (line (Points.form.prettyText p)) ""
  | both (hsome : ¬ shot.progressions.Eventless) (hall : source.Compares shot.progressions)
      (p : Points) (c : Chart.Line)
      (hc : (drawChart (.withSettings s) shot).result = .ok (.chart c))
      (hdata : c.data.datasets.map Chart.Dataset.data = p.series) :
      Printed s source shot (line (Points.form.prettyText p)) (line (Chart.Line.form.prettyText c))

section Printing

variable {feed : Feed} {source : Source} {now : Option Int64} {s : Settings} {shot : Snapshot}

theorem printPoints_message (hshot : (feed.snapshot source now).result = .ok shot)
    (hnone : shot.progressions.Eventless) :
    (printPoints feed source now s).result = .ok (line Chart.noSolvesMessage) := by
  rw [printPoints, Run.andThen_ok (Run.mapError_ok_iff.2 hshot),
    Progressions.hasSolves_eq_false_iff.2 hnone]
  rfl

theorem printPoints_points (hshot : (feed.snapshot source now).result = .ok shot)
    (hsome : ¬ shot.progressions.Eventless) {p : Points}
    (hp : s.points shot.progressions.eventSets (some shot.time) = .ok p) :
    (printPoints feed source now s).result = .ok (line (Points.form.prettyText p)) := by
  rw [printPoints, Run.andThen_ok (Run.mapError_ok_iff.2 hshot),
    Progressions.hasSolves_eq_true_iff.2 hsome, if_pos rfl]
  simp only [Run.said, hp]

theorem printChart_result {b : Chart.Builder} {o : Chart.Outcome}
    (hshot : (feed.snapshot source now).result = .ok shot)
    (ho : (drawChart b shot).result = .ok o) :
    (printChart feed source now b).result = (printOutcome o).result := by
  unfold printChart
  exact Run.andThen_ok ((Run.andThen_ok (Run.mapError_ok_iff.2 hshot)).trans ho)

/-- Valid settings print both of every snapshot. -/
theorem printed_of_snapshot (hs : s.validate = .ok ())
    (hshot : (feed.snapshot source now).result = .ok shot) :
    ∃ points chart, (printPoints feed source now s).result = .ok points ∧
      (printChart feed source now (.withSettings s)).result = .ok chart ∧
      Printed s source shot points chart := by
  have hshape := Feed.shapes_of_snapshot hshot
  by_cases hnone : shot.progressions.Eventless
  · have hpoints := printPoints_message (s := s) hshot hnone
    by_cases hall : source.Compares shot.progressions
    · exact ⟨_, _, hpoints, printChart_result hshot (drawChart_placeholder hshape hall hnone),
        .messages hnone hall⟩
    · exact ⟨_, _, hpoints, printChart_result hshot (drawChart_skipped hshape hall),
        .neither hnone hall⟩
  · obtain ⟨g, hg⟩ : ∃ g, s.graph shot.progressions.eventSets (some shot.time) = .ok g :=
      Settings.exists_graph hs (Progressions.exists_event hnone)
    have hpoints := printPoints_points hshot hnone (Settings.points_of_graph hg)
    by_cases hall : source.Compares shot.progressions
    · obtain ⟨c, hc, hdata⟩ := drawChart_chart (b := .withSettings s) rfl hshape hall hnone hg
      refine ⟨_, _, hpoints, printChart_result hshot hc, .both hnone hall _ c hc ?_⟩
      rw [hdata, Graph.points, Points.series_ofSeries]
    · exact ⟨_, _, hpoints, printChart_result hshot (drawChart_skipped hshape hall),
        .points hnone hall _⟩

end Printing

/-! ## Texts apart -/

theorem line_inj {s t : String} (h : line s = line t) : s = t := by
  have hlist := congrArg String.toList h
  simp only [line, String.toList_append, List.append_cancel_right_eq] at hlist
  exact String.toList_inj.1 hlist

theorem line_ne_empty (s : String) : line s ≠ "" := by
  intro h
  have hlist := congrArg String.toList h
  simp [line] at hlist

/-- Points open with a bracket. -/
theorem head?_points (p : Points) : (Points.form.prettyText p).toList.head? = some '[' := by
  have harray (items : List Json.Value) :
      (Json.renderPretty (.array items)).toList.head? = some '[' := by
    cases items with
    | nil => rfl
    | cons v vs => simp [Json.renderPretty, Json.Value.chars]
  cases p with
  | single s => exact harray _
  | multi ss => exact harray _

/-- A chart opens with a brace. -/
theorem head?_chart (c : Chart.Line) :
    (Chart.Line.form.prettyText c).toList.head? = some '\x7b' := by
  show (Json.renderPretty (.object _)).toList.head? = _
  simp [Json.renderPretty, Json.Fields.write, Json.Fields.required, Json.Value.chars]

theorem points_ne_message (p : Points) :
    line (Points.form.prettyText p) ≠ line Chart.noSolvesMessage := by
  intro h
  have hhead := head?_points p
  rw [line_inj h] at hhead
  cases hhead

theorem chart_ne_message (c : Chart.Line) :
    line (Chart.Line.form.prettyText c) ≠ line Chart.noSolvesMessage := by
  intro h
  have hhead := head?_chart c
  rw [line_inj h] at hhead
  cases hhead

/-! ## The two commands -/

section Outcomes

variable {w : World} {general : General} {input : String} {selection : Selection}

theorem exitCode_of_ok {out : Output} {text : String} (h : out.result = .ok text) :
    (Outcome.finished out).exitCode = 0 := by
  simp only [Outcome.exitCode, h]

theorem stdout_of_ok {out : Output} {text : String} (h : out.result = .ok text) :
    (Outcome.finished out).stdout = text := by
  simp only [Outcome.stdout, h]

theorem exitCode_of_not_ok {out : Output} (h : ∀ text, out.result ≠ .ok text) :
    (Outcome.finished out).exitCode = 1 := by
  cases hresult : out.result with
  | ok text => exact absurd hresult (h text)
  | error chain => simp only [Outcome.exitCode, hresult]

/-- Both commands print of what is fetched. -/
theorem printed_of_fetches {s : Settings} {source : Source} {shot : Snapshot}
    (h : Fetches w general input selection s source shot) :
    ∃ points chart,
      (Invocation.run w ⟨general, .points input selection⟩).result = .ok points ∧
      (Invocation.run w ⟨general, .chart input selection⟩).result = .ok chart ∧
      Printed s source shot points chart := by
  obtain ⟨hs, hsource, d, hd, hshot⟩ := h
  obtain ⟨points, chart, hpoints, hchart, hprinted⟩ :=
    printed_of_snapshot (validate_of_loadSettings hs) hshot
  refine ⟨points, chart, ?_, ?_, hprinted⟩
  · simp only [Invocation.run, hs]
    exact (withDump_ok hd hsource).trans hpoints
  · simp only [Invocation.run, hs]
    exact (withDump_ok hd hsource).trans hchart

/-- Both commands succeed on what is fetched, and fail without. -/
theorem exitCode_eq_zero_iff :
    ((Outcome.finished (Invocation.run w ⟨general, .points input selection⟩)).exitCode = 0 ↔
      ∃ s source shot, Fetches w general input selection s source shot) ∧
    (Outcome.finished (Invocation.run w ⟨general, .points input selection⟩)).exitCode =
      (Outcome.finished (Invocation.run w ⟨general, .chart input selection⟩)).exitCode := by
  by_cases h : ∃ s source shot, Fetches w general input selection s source shot
  · have h' := h
    obtain ⟨s, source, shot, hfetch⟩ := h'
    obtain ⟨points, chart, hpoints, hchart, -⟩ := printed_of_fetches hfetch
    rw [exitCode_of_ok hpoints, exitCode_of_ok hchart]
    exact ⟨⟨fun _ => h, fun _ => rfl⟩, rfl⟩
  · have hpoints := exitCode_of_not_ok fun text ht => h (fetches_of_points ht)
    have hchart := exitCode_of_not_ok fun text ht => h (fetches_of_chart ht)
    rw [hpoints, hchart]
    exact ⟨⟨fun h1 => absurd h1 (by decide), fun h1 => absurd h1 h⟩, rfl⟩

theorem exitCode_points_eq_chart (w : World) (args : List String) :
    (run w ("points" :: args)).exitCode = (run w ("chart" :: args)).exitCode := by
  rcases parse_points_chart args with ⟨general, input, selection, hpoints, hchart⟩ | ⟨heq, hrun⟩
  · simp only [run, hpoints, hchart]
    exact exitCode_eq_zero_iff.2
  · simp only [run, ← heq]

end Outcomes

/-- On the same files and with the same options the commands exit with the same code, which is 0 if
there are settings, a source and a snapshot. Then the message stands for points without any event,
and for a chart if there is something to compare as well; nothing is printed for a chart if there is
nothing to compare; and with a chart come points whose series are those of its datasets. -/
theorem points_chart_agree (w : World) :
    (∀ args, (run w ("points" :: args)).exitCode = (run w ("chart" :: args)).exitCode) ∧
    ∀ (general : General) (input : String) (selection : Selection),
      let points := Outcome.finished (Invocation.run w ⟨general, .points input selection⟩)
      let chart := Outcome.finished (Invocation.run w ⟨general, .chart input selection⟩)
      points.exitCode = chart.exitCode ∧
      (points.exitCode = 0 ↔
        ∃ s source shot, Fetches w general input selection s source shot) ∧
      ∀ s source shot, Fetches w general input selection s source shot →
        (points.stdout = line Chart.noSolvesMessage ↔ shot.progressions.Eventless) ∧
        (chart.stdout = line Chart.noSolvesMessage ↔
          shot.progressions.Eventless ∧ source.Compares shot.progressions) ∧
        (chart.stdout = "" ↔ ¬ source.Compares shot.progressions) ∧
        ((∃ c, chart.stdout = line (Chart.Line.form.prettyText c)) →
          ∃ c p, (drawChart (.withSettings s) shot).result = .ok (.chart c) ∧
            chart.stdout = line (Chart.Line.form.prettyText c) ∧
            points.stdout = line (Points.form.prettyText p) ∧
            p.series = c.data.datasets.map Chart.Dataset.data) := by
  refine ⟨exitCode_points_eq_chart w, fun general input selection => ?_⟩
  refine ⟨exitCode_eq_zero_iff.2, exitCode_eq_zero_iff.1, fun s source shot hfetch => ?_⟩
  obtain ⟨points, chart, hpoints, hchart, hprinted⟩ := printed_of_fetches hfetch
  rw [stdout_of_ok hpoints, stdout_of_ok hchart]
  have hempty : "" ≠ line Chart.noSolvesMessage := (line_ne_empty _).symm
  cases hprinted with
  | neither hnone hfew =>
    refine ⟨iff_of_true rfl hnone, iff_of_false hempty fun h => hfew h.2, iff_of_true rfl hfew, ?_⟩
    rintro ⟨c, hc⟩
    exact absurd hc.symm (line_ne_empty _)
  | messages hnone hall =>
    refine ⟨iff_of_true rfl hnone, iff_of_true rfl ⟨hnone, hall⟩,
      iff_of_false (line_ne_empty _) (not_not_intro hall), ?_⟩
    rintro ⟨c, hc⟩
    exact absurd hc.symm (chart_ne_message c)
  | points hsome hfew p =>
    refine ⟨iff_of_false (points_ne_message p) hsome, iff_of_false hempty fun h => hfew h.2,
      iff_of_true rfl hfew, ?_⟩
    rintro ⟨c, hc⟩
    exact absurd hc.symm (line_ne_empty _)
  | both hsome hall p c hc hdata =>
    exact ⟨iff_of_false (points_ne_message p) hsome,
      iff_of_false (chart_ne_message c) fun h => hsome h.1,
      iff_of_false (line_ne_empty _) (not_not_intro hall),
      fun _ => ⟨c, p, hc, rfl, rfl, hdata.symm⟩⟩

/-- A ranking of two teams, of which one has an event: a chart is printed. -/
theorem points_chart_agree_pair :
    let w : World :=
      ⟨fun _ => .ok (Text.utf8 "[400, [[\"a\", [[100, 5]]], [\"b\", []]]]"), fun _ => none⟩
    let general : General := ⟨none, some 2, none⟩
    let group : Id .group := ⟨"g", rfl, by decide⟩
    let selection : Selection := ⟨none, some group, false, none, none⟩
    let shot : Snapshot := ⟨400, .ranking [⟨"a", [⟨100, 5⟩]⟩, ⟨"b", []⟩]⟩
    let points := Outcome.finished (Invocation.run w ⟨general, .points "dump" selection⟩)
    let chart := Outcome.finished (Invocation.run w ⟨general, .chart "dump" selection⟩)
    Fetches w general "dump" selection ⟨2, 300, 86400⟩ (.group group) shot ∧
      points.exitCode = 0 ∧ chart.exitCode = 0 ∧ points.stdout ≠ line Chart.noSolvesMessage ∧
      chart.stdout ≠ line Chart.noSolvesMessage ∧ chart.stdout ≠ "" := by
  intro w general group selection shot points chart
  have hfetch : Fetches w general "dump" selection ⟨2, 300, 86400⟩ (.group group) shot :=
    ⟨rfl, rfl, ⟨some 400, some [⟨"a", [⟨100, 5⟩]⟩, ⟨"b", []⟩], none⟩, rfl, rfl⟩
  have hsome : ¬ shot.progressions.Eventless := fun h => by
    have hnil := h [⟨100, 5⟩] List.mem_cons_self
    cases hnil
  have hall : (Source.group group).Compares shot.progressions := Nat.le_refl 2
  obtain ⟨hcode, hzero, hstdout⟩ := (points_chart_agree w).2 general "dump" selection
  obtain ⟨hpoints, hchart, hnothing, -⟩ := hstdout _ _ _ hfetch
  have hcode0 : points.exitCode = 0 := hzero.2 ⟨_, _, _, hfetch⟩
  exact ⟨hfetch, hcode0, hcode ▸ hcode0, fun h => hsome (hpoints.1 h),
    fun h => hsome (hchart.1 h).1, fun h => hnothing.1 h hall⟩

end Command
end Scoreline
