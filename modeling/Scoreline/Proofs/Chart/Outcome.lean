import Scoreline.Proofs.Chart
import Scoreline.Proofs.Faults

/-!
# Scoreline.Proofs.Chart.Outcome

What comes of drawing the top teams. The teams are counted first, then their events, then the colours
of the palette, and the settings are looked at last. `Builder.Draws` has a case for each outcome with
the reasons for it, and the builder always comes to one of them (`Builder.topTeams_draws`). The reasons
shut each other out, so each of them is also the only one for its outcome; `topTeams_outcomes` states
this.

`Line.Shows` says what stands in a chart of teams.
-/

namespace Scoreline
namespace Chart

namespace Palette

theorem isUsable_eq_false_iff {p : Palette} :
    p.isUsable = false ↔ p.border = [] ∨ p.background = [] := by
  rw [isUsable, Bool.and_eq_false_iff, Bool.not_eq_false', Bool.not_eq_false', List.isEmpty_iff,
    List.isEmpty_iff]

/-- A place behind the end of a list of colours is a place in the list begun again. -/
theorem getElem?_mod_length {colours : List String} (h : colours ≠ []) (i : Nat) :
    colours[i % colours.length]? = some (pick colours i) := by
  have hlt : i % colours.length < colours.length := Nat.mod_lt i (List.length_pos_iff.2 h)
  rw [pick, List.getElem?_eq_getElem hlt, Option.getD_some]

end Palette

/-- A chart of teams and their graph: a blank label for each point, and for each team, in order, one
dataset with its name, its series, and the colours at its number in either list of the palette, begun
again at the end. -/
structure Line.Shows (b : Builder) (teams : List Team) (g : Graph) (c : Line) : Prop where
  labels_length : c.data.labels.length = b.settings.pointCount.toNat
  labels_blank : ∀ label ∈ c.data.labels, label = ""
  datasets_length : c.data.datasets.length = teams.length
  dataset_of_team : ∀ (i : Nat) (t : Team), teams[i]? = some t →
    ∃ d, c.data.datasets[i]? = some d ∧ d.label = t.name ∧ g.series[i]? = some d.data ∧
      d.data.length = b.settings.pointCount.toNat ∧
      b.palette.border[i % b.palette.border.length]? = some d.border ∧
      b.palette.background[i % b.palette.background.length]? = some d.background

namespace Builder

/-- What may come of drawing the top teams, with the reasons for it. -/
inductive Draws (b : Builder) (teams : List Team) (now : Option Int64) :
    Except Error Outcome → Prop where
  | skipped (hfew : teams.length < 2) : Draws b teams now (.ok .skipped)
  | placeholder (hmany : ¬ teams.length < 2) (hidle : ∀ t ∈ teams, t.events = []) :
      Draws b teams now (.ok (.placeholder noSolvesMessage))
  | emptyPalette (hmany : ¬ teams.length < 2) (hevent : ¬ ∀ t ∈ teams, t.events = [])
      (hbare : b.palette.border = [] ∨ b.palette.background = []) :
      Draws b teams now (.error .emptyPalette)
  | fault (hmany : ¬ teams.length < 2) (hevent : ¬ ∀ t ∈ teams, t.events = [])
      (hcolours : ¬ (b.palette.border = [] ∨ b.palette.background = [])) {f : Fault}
      (hf : b.settings.validate = .error f) : Draws b teams now (.error (.fault f))
  | chart (hmany : ¬ teams.length < 2) (hevent : ¬ ∀ t ∈ teams, t.events = [])
      (hcolours : ¬ (b.palette.border = [] ∨ b.palette.background = []))
      (hs : b.settings.validate = .ok ()) {g : Graph}
      (hg : b.settings.graph (teams.map Team.events) now = .ok g) {c : Line}
      (hc : c.Shows b teams g) : Draws b teams now (.ok (.chart c))

variable {b : Builder} {teams : List Team} {now : Option Int64}

theorem any_hasSolves_eq_true_iff :
    teams.any Team.hasSolves = true ↔ ¬ ∀ t ∈ teams, t.events = [] := by
  simp [Team.hasSolves]

/-- The chart that is made of a graph of the teams. -/
theorem shows_of_graph {g : Graph}
    (hcolours : ¬ (b.palette.border = [] ∨ b.palette.background = []))
    (hg : b.settings.graph (teams.map Team.events) now = .ok g) :
    Line.Shows b teams g ⟨.line, ⟨blankLabels b.settings.pointCount.toNat,
      b.datasets 0 teams g.series⟩, b.options⟩ where
  labels_length := List.length_replicate
  labels_blank label hlabel := List.eq_of_mem_replicate hlabel
  datasets_length := b.length_datasets 0 (length_series_of_teams hg)
  dataset_of_team i t ht := by
    obtain ⟨hborder, hbackground⟩ := not_or.1 hcolours
    obtain ⟨series, hseries, hdataset⟩ := b.getElem?_datasets 0 (length_series_of_teams hg) ht
    rw [Nat.zero_add] at hdataset
    exact ⟨_, hdataset, rfl, hseries,
      Settings.length_of_mem_series hg (List.mem_of_getElem? hseries),
      Palette.getElem?_mod_length hborder i, Palette.getElem?_mod_length hbackground i⟩

theorem topTeams_draws (b : Builder) (teams : List Team) (now : Option Int64) :
    b.Draws teams now (b.topTeams teams now) := by
  by_cases hfew : teams.length < 2
  · rw [topTeams, if_pos hfew]
    exact .skipped hfew
  · by_cases hidle : ∀ t ∈ teams, t.events = []
    · have hsolves : ¬ teams.any Team.hasSolves = true := fun h =>
        any_hasSolves_eq_true_iff.1 h hidle
      rw [topTeams, if_neg hfew, if_neg hsolves]
      exact .placeholder hfew hidle
    · have hsolves := any_hasSolves_eq_true_iff.2 hidle
      cases husable : b.palette.isUsable with
      | false =>
        have hseries : b.series (teams.map Team.events) now = .error .emptyPalette := by
          rw [series, husable, if_neg (by simp)]
        rw [topTeams, if_neg hfew, if_pos hsolves, hseries]
        exact .emptyPalette hfew hidle (Palette.isUsable_eq_false_iff.1 husable)
      | true =>
        have hcolours : ¬ (b.palette.border = [] ∨ b.palette.background = []) := by
          rw [← Palette.isUsable_eq_false_iff, husable]
          simp
        cases hs : b.settings.validate with
        | error f =>
          have hpoints : b.settings.points (teams.map Team.events) now = .error f :=
            Settings.points_error_iff.2 (Settings.graph_error_iff.2 (.inl hs))
          have hseries : b.series (teams.map Team.events) now = .error (.fault f) := by
            rw [series, if_pos husable, hpoints]
          rw [topTeams, if_neg hfew, if_pos hsolves, hseries]
          exact .fault hfew hidle hcolours hs
        | ok _ =>
          obtain ⟨g, hg⟩ : ∃ g, b.settings.graph (teams.map Team.events) now = .ok g :=
            Settings.exists_graph hs (by simpa using hidle)
          rw [topTeams_eq_chart husable hfew hsolves hg]
          exact .chart hfew hidle hcolours hs hg (shows_of_graph hcolours hg)

/-- Fewer than two teams are skipped; else, if no team has an event, the message stands for the chart;
else a palette without a colour of either kind is refused; else a fault of the settings is the fault of
the chart; and else there is a chart, which shows the teams and their graph. That no team has an event
is never a fault here. -/
theorem topTeams_outcomes (b : Builder) (teams : List Team) (now : Option Int64) :
    let drawn := b.topTeams teams now
    let few := teams.length < 2
    let idle := ∀ t ∈ teams, t.events = []
    let bare := b.palette.border = [] ∨ b.palette.background = []
    (drawn = .ok .skipped ↔ few) ∧
      (drawn = .ok (.placeholder noSolvesMessage) ↔ ¬ few ∧ idle) ∧
      (drawn = .error .emptyPalette ↔ ¬ few ∧ ¬ idle ∧ bare) ∧
      (∀ f, drawn = .error (.fault f) ∧ f.isParameter = true ↔
        ¬ few ∧ ¬ idle ∧ ¬ bare ∧ b.settings.validate = .error f) ∧
      ((∃ c g, drawn = .ok (.chart c) ∧
          b.settings.graph (teams.map Team.events) now = .ok g ∧ c.Shows b teams g) ↔
        ¬ few ∧ ¬ idle ∧ ¬ bare ∧ b.settings.validate = .ok ()) ∧
      drawn ≠ .error (.fault .noSubmissions) := by
  intro drawn few idle bare
  have hdraws : b.Draws teams now drawn := b.topTeams_draws teams now
  clear_value drawn
  cases hdraws with
  | skipped hfew => simp [few, hfew]
  | placeholder hmany hidle =>
    have hidle : idle := hidle
    simp [few, hmany, hidle]
  | emptyPalette hmany hevent hbare => simp [few, idle, bare, hmany, hevent, hbare]
  | @fault hmany hevent hcolours f hf =>
    have hparameter := Settings.isParameter_of_validate hf
    have hne : f ≠ .noSubmissions := by
      rintro rfl
      cases hparameter
    simp [few, idle, bare, hmany, hevent, hcolours, hf, hparameter, hne]
  | chart hmany hevent hcolours hs hg hc =>
    simp [few, idle, bare, hmany, hevent, hcolours, hs, hg, hc]

/-- The last of three teams, in two colours for lines and one for areas. -/
theorem topTeams_outcomes_uneven :
    let b : Builder := ⟨⟨2, 0, 0⟩, ⟨["red", "blue"], ["grey"]⟩, .default⟩
    let teams : List Team := [⟨"a", [⟨5, 1⟩]⟩, ⟨"b", []⟩, ⟨"c", [⟨9, 4⟩, ⟨6, 2⟩]⟩]
    ∃ c, b.topTeams teams none = .ok (.chart c) ∧ c.data.labels.length = 2 ∧
      c.data.datasets.length = 3 ∧ ∃ d, c.data.datasets[2]? = some d ∧ d.label = "c" ∧
        d.data = [2, 4] ∧ d.border = "red" ∧ d.background = "grey" := by
  have hgraph : Settings.graph ⟨2, 0, 0⟩ [[⟨5, 1⟩], [], [⟨9, 4⟩, ⟨6, 2⟩]] none =
      .ok ⟨⟨⟨5, 9⟩, 2, 2⟩, [[1, 1], [0, 0], [2, 4]]⟩ := rfl
  intro b teams
  have hevent : ¬ ∀ t ∈ teams, t.events = [] := by simp [teams]
  have hcolours : ¬ (b.palette.border = [] ∨ b.palette.background = []) := by simp [b]
  obtain ⟨-, -, -, -, hchart, -⟩ := topTeams_outcomes b teams none
  obtain ⟨c, g, hdrawn, hg, hshows⟩ := hchart.2 ⟨by decide, hevent, hcolours, rfl⟩
  obtain ⟨d, hd, hlabel, hdata, -, hborder, hbackground⟩ := hshows.dataset_of_team 2 _ rfl
  cases hgraph.symm.trans hg
  have hborder : "red" = d.border := by simpa [b] using hborder
  have hbackground : "grey" = d.background := by simpa [b] using hbackground
  exact ⟨c, hdrawn, hshows.labels_length, hshows.datasets_length, d, hd, hlabel,
    (Option.some.inj hdata).symm, hborder.symm, hbackground.symm⟩

end Builder
end Chart
end Scoreline
