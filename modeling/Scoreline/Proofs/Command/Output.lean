import Scoreline.Proofs.Chart.Form
import Scoreline.Proofs.Command.Agreement
import Scoreline.Proofs.Points

/-!
# Scoreline.Proofs.Command.Output

What stands on standard output after a run.

* `Invocation.Fetches` — the settings, the source and the snapshot that a run comes to. It succeeds
  if and only if there are such (`exists_of_task_ok`, `shown_of_opens`).
* `Task.Document` — a text that is read back as what the task has computed.
* `Shown` — what is printed of a snapshot: a document, the message or nothing.

`stdout_clean` puts them together.
-/

namespace Scoreline

namespace Command

open Text (utf8)

/-! ## What is asked for -/

namespace Task

def selection : Task → Selection
  | .points _ selection | .chart _ selection | .fetch _ _ _ selection => selection

/-- Whether the task is to draw a chart. -/
def Draws : Task → Prop
  | .points _ _ => False
  | .chart _ _ | .fetch _ _ _ _ => True

/-- The feed that a task puts its questions to. -/
inductive Opens (w : World) : Task → Feed → Prop where
  | points {input : String} (selection : Selection) {d : Dump}
      (h : (Dump.load input (w.files input)).result = .ok d) :
      Opens w (.points input selection) d.feed
  | chart {input : String} (selection : Selection) {d : Dump}
      (h : (Dump.load input (w.files input)).result = .ok d) :
      Opens w (.chart input selection) d.feed
  | fetch {server : String} {cookie : Option String} {timeout : Option UInt64}
      (selection : Selection) {c : Client}
      (h : Client.make ⟨server, timeout.getD ClientConfig.defaultTimeoutSecs, cookie⟩ = .ok c) :
      Opens w (.fetch server cookie timeout selection) (c.feed w.server)

end Task

/-- The settings, the source and the snapshot that a run comes to. -/
structure Invocation.Fetches (w : World) (i : Invocation) (s : Settings) (source : Source)
    (shot : Snapshot) : Prop where
  settings_ok : loadSettings w.files i.general.config i.general.points = .ok s
  source_ok : i.task.selection.source = .ok source
  snapshot_ok : ∃ feed, i.task.Opens w feed ∧
    (feed.snapshot source i.general.now).result = .ok shot

section Asking

variable {w : World} {now : Option Int64} {s : Settings} {source : Source} {feed : Feed}
  {out : String}

/-- A task succeeds only with a snapshot of what it asks for. -/
theorem exists_of_task_ok {t : Task} (h : (t.run w now s).result = .ok out) :
    ∃ feed source shot, t.Opens w feed ∧ t.selection.source = .ok source ∧
      (feed.snapshot source now).result = .ok shot := by
  cases t with
  | points input selection =>
    obtain ⟨d, source, hd, hsource, hprint⟩ := exists_of_withDump_ok h
    obtain ⟨shot, hshot⟩ := exists_of_printPoints_ok hprint
    exact ⟨d.feed, source, shot, .points selection hd, hsource, hshot⟩
  | chart input selection =>
    obtain ⟨d, source, hd, hsource, hprint⟩ := exists_of_withDump_ok h
    obtain ⟨shot, hshot⟩ := exists_of_printChart_ok hprint
    exact ⟨d.feed, source, shot, .chart selection hd, hsource, hshot⟩
  | fetch server cookie timeout selection =>
    simp only [Task.run] at h
    split at h
    · cases h
    · rename_i c hc
      split at h
      · cases h
      · rename_i source hsource
        obtain ⟨-, -, hprint⟩ := Run.exists_of_andThen_ok h
        obtain ⟨shot, hshot⟩ := exists_of_printChart_ok hprint
        exact ⟨c.feed w.server, source, shot, .fetch selection hc, hsource, hshot⟩

end Asking

/-! ## What is printed -/

/-- Whether a text is read back as what a task computes of a snapshot: as the points of the graph,
or as the chart that is drawn, which is flat. -/
def Task.Document (s : Settings) (shot : Snapshot) : Task → String → Prop
  | .points _ _, text =>
    ∃ p, s.points shot.progressions.eventSets (some shot.time) = .ok p ∧
      Points.form.parse (utf8 text) = .ok p
  | .chart _ _, text | .fetch _ _ _ _, text =>
    ∃ c, (drawChart (.withSettings s) shot).result = .ok (.chart c) ∧ c.Flat ∧
      Chart.Line.form.parse (utf8 text) = .ok c

/-- What is printed of a snapshot. -/
inductive Shown (s : Settings) (source : Source) (shot : Snapshot) (t : Task) : String → Prop where
  | document {text : String} (h : t.Document s shot text) : Shown s source shot t (line text)
  | message (hnone : shot.progressions.Eventless) :
      Shown s source shot t (line Chart.noSolvesMessage)
  | nothing (hdraws : t.Draws) {r : Ranking} {limit : Option UInt32} {teams : List Team}
      (hsource : source = .ranking r limit) (hteams : shot.progressions = .ranking teams)
      (hfew : teams.length < 2) : Shown s source shot t ""

section Printing

variable {w : World} {now : Option Int64} {s : Settings} {source : Source} {feed : Feed}
  {shot : Snapshot}

theorem flat_of_drawChart {b : Chart.Builder} {c : Chart.Line}
    (h : (drawChart b shot).result = .ok (.chart c)) : c.Flat := by
  obtain ⟨time, p⟩ := shot
  cases p with
  | ranking teams =>
    have hbuilt : (b.topTeams teams (some time)).mapError chartCauses = .ok (.chart c) := h
    exact Chart.Builder.flat_of_topTeams (Run.mapError_eq_ok_iff.1 hbuilt)
  | team events =>
    have hbuilt : (b.team events (some time)).mapError chartCauses = .ok (.chart c) := h
    exact Chart.Builder.flat_of_team (Run.mapError_eq_ok_iff.1 hbuilt)

theorem shown_points (hs : s.validate = .ok ())
    (hshot : (feed.snapshot source now).result = .ok shot) (input : String)
    (selection : Selection) :
    ∃ text, (printPoints feed source now s).result = .ok text ∧
      Shown s source shot (.points input selection) text := by
  by_cases hnone : shot.progressions.Eventless
  · exact ⟨_, printPoints_message hshot hnone, .message hnone⟩
  · have hevent := Progressions.exists_event hnone
    obtain ⟨g, hg⟩ : ∃ g, s.graph shot.progressions.eventSets (some shot.time) = .ok g :=
      Settings.exists_graph hs hevent
    have hp := Settings.points_of_graph hg
    -- several series of which there is none would be read back as a single one
    have hne : g.points ≠ .multi [] := Settings.ne_multi_nil_of_points hp
    have hparse := (Points.form_lawfulAt hne).parse_prettyText
    exact ⟨_, printPoints_points hshot hnone hp, .document ⟨g.points, hp, hparse⟩⟩

theorem shown_chart (hs : s.validate = .ok ())
    (hshot : (feed.snapshot source now).result = .ok shot) {t : Task} (ht : t.Draws) :
    ∃ text, (printChart feed source now (.withSettings s)).result = .ok text ∧
      Shown s source shot t text := by
  have hshape := Feed.shapes_of_snapshot hshot
  by_cases hall : source.Compares shot.progressions
  · by_cases hnone : shot.progressions.Eventless
    · exact ⟨_, printChart_result hshot (drawChart_placeholder hshape hall hnone), .message hnone⟩
    · obtain ⟨g, hg⟩ : ∃ g, s.graph shot.progressions.eventSets (some shot.time) = .ok g :=
        Settings.exists_graph hs (Progressions.exists_event hnone)
      obtain ⟨c, hc, -⟩ := drawChart_chart (b := .withSettings s) rfl hshape hall hnone hg
      have hflat := flat_of_drawChart hc
      have hparse := (Chart.Line.form_lawfulAt hflat).parse_prettyText
      refine ⟨_, printChart_result hshot hc, .document ?_⟩
      cases t with
      | points input selection => exact ht.elim
      | chart input selection => exact ⟨c, hc, hflat, hparse⟩
      | fetch server cookie timeout selection => exact ⟨c, hc, hflat, hparse⟩
  · refine ⟨_, printChart_result hshot (drawChart_skipped hshape hall), ?_⟩
    cases hteams : shot.progressions with
    | ranking teams =>
      rw [hteams] at hshape hall
      cases hshape with
      | ranking r limit =>
        rw [Source.compares_ranking_iff, Classical.not_not] at hall
        exact .nothing ht rfl hteams hall
    | team events =>
      rw [hteams] at hshape hall
      cases hshape
      exact absurd trivial hall

/-- A task succeeds with a snapshot of what it asks for. -/
theorem shown_of_opens {t : Task} (hs : s.validate = .ok ()) (hopens : t.Opens w feed)
    (hsource : t.selection.source = .ok source)
    (hshot : (feed.snapshot source now).result = .ok shot) :
    ∃ text, (t.run w now s).result = .ok text ∧ Shown s source shot t text := by
  cases hopens with
  | @points input selection d hd =>
    obtain ⟨text, hprint, hshown⟩ := shown_points hs hshot input selection
    exact ⟨text, (withDump_ok hd hsource).trans hprint, hshown⟩
  | @chart input selection d hd =>
    obtain ⟨text, hprint, hshown⟩ :=
      shown_chart hs hshot (t := .chart input selection) trivial
    exact ⟨text, (withDump_ok hd hsource).trans hprint, hshown⟩
  | @fetch server cookie timeout selection c hc =>
    have hdraws : (Task.fetch server cookie timeout selection).Draws := trivial
    obtain ⟨text, hprint, hshown⟩ := shown_chart hs hshot hdraws
    have hselection : selection.source = .ok source := hsource
    refine ⟨text, ?_, hshown⟩
    simp only [Task.run, hc, hselection]
    exact (Run.andThen_ok rfl).trans hprint

end Printing

/-! ## Texts apart -/

section Apart

variable {s : Settings} {source : Source} {shot : Snapshot} {t : Task}

/-- The message is no document. -/
theorem not_document_message : ¬ t.Document s shot Chart.noSolvesMessage := by
  intro h
  cases t with
  | points input selection =>
    obtain ⟨p, -, hparse⟩ := h
    cases hparse
  | chart input selection =>
    obtain ⟨c, -, -, hparse⟩ := h
    cases hparse
  | fetch server cookie timeout selection =>
    obtain ⟨c, -, -, hparse⟩ := h
    cases hparse

/-- The message is printed only where nobody has solved anything. -/
theorem Shown.eventless_of_message (h : Shown s source shot t (line Chart.noSolvesMessage)) :
    shot.progressions.Eventless := by
  generalize hout : line Chart.noSolvesMessage = out at h
  cases h with
  | document hdoc =>
    rw [← line_inj hout] at hdoc
    exact absurd hdoc not_document_message
  | message hnone => exact hnone
  | nothing => exact absurd hout (line_ne_empty _)

/-- Nothing is printed only where there is nothing to compare. -/
theorem Shown.few_of_nothing (h : Shown s source shot t "") :
    t.Draws ∧ ∃ r limit teams, source = .ranking r limit ∧ shot.progressions = .ranking teams ∧
      teams.length < 2 := by
  generalize hout : "" = out at h
  cases h with
  | document => exact absurd hout.symm (line_ne_empty _)
  | message => exact absurd hout.symm (line_ne_empty _)
  | nothing hdraws hsource hteams hfew => exact ⟨hdraws, _, _, _, hsource, hteams, hfew⟩

end Apart

/-! ## Runs -/

section Runs

variable {w : World} {i : Invocation}

/-- A run succeeds only with settings, a source and a snapshot. -/
theorem fetches_of_run_ok {out : String} (h : (i.run w).result = .ok out) :
    ∃ s source shot, i.Fetches w s source shot := by
  obtain ⟨s, hs, htask⟩ := exists_of_run_ok h
  obtain ⟨feed, source, shot, hopens, hsource, hshot⟩ := exists_of_task_ok htask
  exact ⟨s, source, shot, hs, hsource, feed, hopens, hshot⟩

/-- A run succeeds with settings, a source and a snapshot. -/
theorem shown_of_fetches {s : Settings} {source : Source} {shot : Snapshot}
    (h : i.Fetches w s source shot) :
    ∃ text, (i.run w).result = .ok text ∧ Shown s source shot i.task text := by
  obtain ⟨hs, hsource, feed, hopens, hshot⟩ := h
  obtain ⟨text, htask, hshown⟩ :=
    shown_of_opens (validate_of_loadSettings hs) hopens hsource hshot
  refine ⟨text, ?_, hshown⟩
  simp only [Invocation.run, hs]
  exact htask

theorem exitCode_eq_zero_iff_fetches :
    (Outcome.finished (i.run w)).exitCode = 0 ↔ ∃ s source shot, i.Fetches w s source shot := by
  constructor
  · intro hcode
    cases hresult : (i.run w).result with
    | ok out => exact fetches_of_run_ok hresult
    | error chain =>
      rw [exitCode_of_not_ok fun text h => by rw [hresult] at h; cases h] at hcode
      cases hcode
  · rintro ⟨s, source, shot, h⟩
    obtain ⟨text, hresult, -⟩ := shown_of_fetches h
    exact exitCode_of_ok hresult

theorem stdout_of_exitCode_ne_zero {o : Outcome} (h : o.exitCode ≠ 0) : o.stdout = "" := by
  cases o with
  | help => rfl
  | usage => rfl
  | finished out =>
    cases hresult : out.result with
    | ok text => exact absurd (exitCode_of_ok hresult) h
    | error chain => simp only [Outcome.stdout, hresult]

end Runs

/-- A run that fails prints nothing. A run succeeds if there are settings, a source and a snapshot,
and then it prints a document, the message or nothing. The document is read back as what the task
has computed of the snapshot. The message is printed only where no team has an event, and nothing
only where a chart was to be drawn of a ranking of fewer than two teams. -/
theorem stdout_clean (w : World) {args : List String} {i : Invocation} (h : parse args = .run i) :
    ((run w args).exitCode ≠ 0 → (run w args).stdout = "") ∧
    ((run w args).exitCode = 0 ↔ ∃ s source shot, i.Fetches w s source shot) ∧
    ∀ s source shot, i.Fetches w s source shot →
      let document := ∃ text, (run w args).stdout = line text ∧ i.task.Document s shot text
      let message := (run w args).stdout = line Chart.noSolvesMessage
      let nothing := (run w args).stdout = ""
      (document ∨ message ∨ nothing) ∧
        ¬ (document ∧ message) ∧ ¬ (document ∧ nothing) ∧ ¬ (message ∧ nothing) ∧
        (message → shot.progressions.Eventless) ∧
        (nothing → i.task.Draws ∧
          ∃ r limit teams, source = .ranking r limit ∧ shot.progressions = .ranking teams ∧
            teams.length < 2) := by
  have hrun : run w args = .finished (i.run w) := by
    simp only [run, h]
  rw [hrun]
  refine ⟨stdout_of_exitCode_ne_zero, exitCode_eq_zero_iff_fetches, fun s source shot hfetch => ?_⟩
  obtain ⟨text, hresult, hshown⟩ := shown_of_fetches hfetch
  rw [stdout_of_ok hresult]
  intro document message nothing
  have hcases : document ∨ message ∨ nothing := by
    cases hshown with
    | document hdoc => exact .inl ⟨_, rfl, hdoc⟩
    | message => exact .inr (.inl rfl)
    | nothing => exact .inr (.inr rfl)
  refine ⟨hcases, ?_, ?_, ?_, ?_, ?_⟩
  · rintro ⟨⟨doc, hdoc, hread⟩, hmessage⟩
    rw [line_inj (hdoc.symm.trans hmessage)] at hread
    exact not_document_message hread
  · rintro ⟨⟨doc, hdoc, -⟩, hnothing⟩
    exact line_ne_empty doc (hdoc.symm.trans hnothing)
  · rintro ⟨hmessage, hnothing⟩
    exact line_ne_empty _ (hmessage.symm.trans hnothing)
  · intro hmessage
    rw [hmessage] at hshown
    exact hshown.eventless_of_message
  · intro hnothing
    rw [hnothing] at hshown
    exact hshown.few_of_nothing

/-- A ranking of two teams, of which one has an event. -/
theorem stdout_clean_pair :
    let w : World :=
      ⟨fun _ => .ok (utf8 "[400, [[\"a\", [[100, 5]]], [\"b\", []]]]"), fun _ => none⟩
    let args := ["--points", "2", "chart", "--group", "g", "--input", "dump"]
    let group : Id .group := ⟨"g", rfl, by decide⟩
    let i : Invocation :=
      ⟨⟨none, some 2, none⟩, .chart "dump" ⟨none, some group, false, none, none⟩⟩
    let shot : Snapshot := ⟨400, .ranking [⟨"a", [⟨100, 5⟩]⟩, ⟨"b", []⟩]⟩
    parse args = .run i ∧ i.Fetches w ⟨2, 300, 86400⟩ (.group group) shot ∧
      (run w args).exitCode = 0 ∧
      ∃ text, (run w args).stdout = line text ∧ i.task.Document ⟨2, 300, 86400⟩ shot text := by
  intro w args group i shot
  have hparse : parse args = .run i := by decide
  have hfetch : i.Fetches w ⟨2, 300, 86400⟩ (.group group) shot :=
    ⟨rfl, rfl, _, .chart _ rfl, rfl⟩
  obtain ⟨-, hcode, hprinted⟩ := stdout_clean w hparse
  obtain ⟨hcases, -, -, -, hmessage, hnothing⟩ := hprinted _ _ _ hfetch
  refine ⟨hparse, hfetch, hcode.2 ⟨_, _, _, hfetch⟩, ?_⟩
  rcases hcases with hdoc | hnone | hempty
  · exact hdoc
  · have hnil := hmessage hnone [⟨100, 5⟩] List.mem_cons_self
    cases hnil
  · obtain ⟨-, r, limit, teams, -, hteams, hfew⟩ := hnothing hempty
    cases hteams
    exact absurd hfew (by decide)

end Command
end Scoreline
