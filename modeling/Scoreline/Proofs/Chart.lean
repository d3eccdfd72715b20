import Scoreline.Chart.Builder
import Scoreline.Proofs.Points

/-!
# Scoreline.Proofs.Chart

Charts from graphs. A graph has a series for each team, so nothing is lost when teams and series are
put together (`map_data_datasets`, `getElem?_datasets`), nor when the series pass through the shape of
points (`Points.series_ofSeries`). With a usable palette a chart is drawn wherever there is a graph
(`topTeams_eq_chart`), and its datasets hold the series of the graph in order (`topTeams_of_graph`,
`team_of_graph`).
-/

namespace Scoreline

namespace Settings

variable {s : Settings} {teams : List (List Event)} {now : Option Int64}

theorem length_series_of_graph {g : Graph} (h : s.graph teams now = .ok g) :
    g.series.length = teams.length := by
  obtain ⟨-, w, -, rfl⟩ := graph_ok h
  simp

theorem length_of_mem_series {g : Graph} (h : s.graph teams now = .ok g) {series : Series}
    (hmem : series ∈ g.series) : series.length = s.pointCount.toNat := by
  obtain ⟨-, w, -, rfl⟩ := graph_ok h
  obtain ⟨events, -, rfl⟩ := List.mem_map.1 hmem
  exact Series.length_fit _ _

theorem points_of_graph {g : Graph} (h : s.graph teams now = .ok g) :
    s.points teams now = .ok g.points := by
  simp only [points, h]

end Settings

namespace Chart
namespace Builder

variable {b : Builder} {now : Option Int64} {g : Graph}

/-- Every team has a series, so each series makes a dataset. -/
theorem map_data_datasets (b : Builder) (i : Nat) {teams : List Team} {ss : List Series}
    (h : ss.length = teams.length) : (b.datasets i teams ss).map Dataset.data = ss := by
  induction teams generalizing i ss with
  | nil =>
    cases ss with
    | nil => rfl
    | cons s ss => simp at h
  | cons t teams ih =>
    cases ss with
    | nil => simp at h
    | cons s ss =>
      have hlen : ss.length = teams.length := by simpa using h
      rw [datasets, List.map_cons, ih (i + 1) hlen]
      rfl

theorem length_datasets (b : Builder) (i : Nat) {teams : List Team} {ss : List Series}
    (h : ss.length = teams.length) : (b.datasets i teams ss).length = teams.length := by
  have hdata := congrArg List.length (b.map_data_datasets i h)
  rwa [List.length_map, h] at hdata

/-- Team number `k` makes dataset number `k`, whose colours go on from line number `i`. -/
theorem getElem?_datasets (b : Builder) (i : Nat) {teams : List Team} {ss : List Series}
    (h : ss.length = teams.length) {k : Nat} {t : Team} (ht : teams[k]? = some t) :
    ∃ s, ss[k]? = some s ∧ (b.datasets i teams ss)[k]? = some (b.dataset (i + k) t.name s 1) := by
  induction teams generalizing i ss k with
  | nil => simp at ht
  | cons t' teams ih =>
    cases ss with
    | nil => simp at h
    | cons s ss =>
      cases k with
      | zero =>
        rw [List.getElem?_cons_zero, Option.some.injEq] at ht
        subst ht
        exact ⟨s, rfl, rfl⟩
      | succ k =>
        have hlen : ss.length = teams.length := by simpa using h
        obtain ⟨s', hs', hdataset⟩ := ih (i + 1) hlen (List.getElem?_cons_succ ▸ ht)
        refine ⟨s', hs', ?_⟩
        rw [datasets, List.getElem?_cons_succ, hdataset, Nat.add_right_comm, Nat.add_assoc]

theorem length_series_of_teams {teams : List Team}
    (hg : b.settings.graph (teams.map Team.events) now = .ok g) :
    g.series.length = teams.length := by
  rw [Settings.length_series_of_graph hg, List.length_map]

theorem series_of_graph (hpalette : b.palette.isUsable = true) {teams : List (List Event)}
    (hg : b.settings.graph teams now = .ok g) : b.series teams now = .ok g.series := by
  rw [series, if_pos hpalette, Settings.points_of_graph hg]
  simp only [Graph.points, Points.series_ofSeries]

theorem topTeams_eq_chart (hpalette : b.palette.isUsable = true) {teams : List Team}
    (hlen : ¬ teams.length < 2) (hsolves : teams.any Team.hasSolves = true)
    (hg : b.settings.graph (teams.map Team.events) now = .ok g) :
    b.topTeams teams now = .ok (b.chart (b.datasets 0 teams g.series)) := by
  rw [topTeams, if_neg hlen, if_pos hsolves, series_of_graph hpalette hg]

theorem topTeams_of_graph (hpalette : b.palette.isUsable = true) {teams : List Team}
    (hlen : ¬ teams.length < 2) (hsolves : teams.any Team.hasSolves = true)
    (hg : b.settings.graph (teams.map Team.events) now = .ok g) :
    ∃ c, b.topTeams teams now = .ok (.chart c) ∧ c.data.datasets.map Dataset.data = g.series :=
  ⟨_, topTeams_eq_chart hpalette hlen hsolves hg, b.map_data_datasets 0 (length_series_of_teams hg)⟩

theorem team_of_graph (hpalette : b.palette.isUsable = true) {events : List Event}
    (hsolves : events.isEmpty = false) (hg : b.settings.graph [events] now = .ok g) :
    ∃ c, b.team events now = .ok (.chart c) ∧ c.data.datasets.map Dataset.data = g.series := by
  refine ⟨⟨.line, ⟨blankLabels b.settings.pointCount.toNat,
    g.series.map fun s => b.dataset 0 "Score" s 0⟩, b.options⟩, ?_, ?_⟩
  · rw [team, hsolves, if_neg (by simp), series_of_graph hpalette hg]
    rfl
  · have hdata : (Dataset.data ∘ fun s => b.dataset 0 "Score" s 0) = id := rfl
    show (g.series.map fun s => b.dataset 0 "Score" s 0).map Dataset.data = g.series
    rw [List.map_map, hdata, List.map_id]

end Builder
end Chart

end Scoreline
