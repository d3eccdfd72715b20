import Mathlib.Data.List.Forall2
import Scoreline.Proofs.Cumulative

/-!
# Scoreline.Proofs.Lead

Teams that are never behind others. One team leads another when each event of the other is matched
by an event of its own that is no later and has no lower score (`Leads`).

The two events of a match may fall into different buckets, so the series cannot be compared bucket
by bucket. What a bucket shows of any team is nothing or the score of some event up to it
(`scoreBy_cases`); the match of that event has come by then as well, and of a cumulative team a
bucket shows the highest score of all that has come (`scoreBy_mono`). So a lead is seen at every
point (`shown_mono`).

`graph_keeps_lead` states this for the graphs of all settings.
-/

namespace Scoreline

/-- Every event of the second team is matched by one of the first that is no later and no lower. -/
def Leads (ahead behind : List Event) : Prop :=
  ∀ e ∈ behind, ∃ e' ∈ ahead, e'.time ≤ e.time ∧ e.score ≤ e'.score

instance (ahead behind : List Event) : Decidable (Leads ahead behind) :=
  inferInstanceAs
    (Decidable (∀ e ∈ behind, ∃ e' ∈ ahead, e'.time ≤ e.time ∧ e.score ≤ e'.score))

namespace Layout

variable {l : Layout} {ahead behind : List Event}

/-- The score by bucket `i` is nothing, before the first event, or that of an event in a bucket up
to `i`. -/
theorem scoreBy_cases (l : Layout) (events : List Event) (i : Int) :
    l.scoreBy events i = 0 ∨ ∃ e ∈ events, l.place e.time ≤ i ∧ e.score = l.scoreBy events i := by
  simp only [scoreBy]
  cases hb : l.lastPlace events i with
  | none => exact .inl rfl
  | some b =>
    obtain ⟨⟨e₀, he₀, hb₀⟩, hbi, -⟩ := lastPlace_eq_some_iff.1 hb
    have hmem : e₀ ∈ events.filter fun e => l.place e.time = b := by
      simp only [List.mem_filter, decide_eq_true_eq]
      exact ⟨he₀, hb₀⟩
    obtain ⟨e, he, heq⟩ := exists_score_eq_highest (List.ne_nil_of_mem hmem)
    simp only [List.mem_filter, decide_eq_true_eq] at he
    exact .inr ⟨e, he.1, by omega, heq⟩

/-- A lead is kept by every bucket, though the events that make it may lie in different ones. -/
theorem scoreBy_mono (h : l.IsProper) (hc : IsCumulative ahead) (hnonneg : ∀ e ∈ ahead, 0 ≤ e.score)
    (hlead : Leads ahead behind) (i : Int) : l.scoreBy behind i ≤ l.scoreBy ahead i := by
  rw [scoreBy_eq_highest h hc]
  have mem_come {e : Event} : e ∈ ahead.filter (fun e => l.place e.time ≤ i) ↔
      e ∈ ahead ∧ l.place e.time ≤ i := by
    simp only [List.mem_filter, decide_eq_true_eq]
  rcases l.scoreBy_cases behind i with hnone | ⟨e, he, hi, heq⟩
  · -- nothing is the highest score of no events, and no score of the team ahead is lower
    rw [hnone]
    show highest [] ≤ _
    refine highest_mono (fun e he => absurd he List.not_mem_nil) (.inr fun e he => ?_)
    exact hnonneg e (mem_come.1 he).1
  · obtain ⟨e', he', htime, hscore⟩ := hlead e he
    have hplace := place_mono h htime
    rw [← heq]
    exact Int64.le_trans hscore (le_highest (mem_come.2 ⟨he', by omega⟩))

theorem shown_mono (h : l.IsProper) (hc : IsCumulative ahead) (hnonneg : ∀ e ∈ ahead, 0 ≤ e.score)
    (hlead : Leads ahead behind) (points k : Nat) :
    l.shown points behind k ≤ l.shown points ahead k := by
  simp only [shown]
  split
  · exact Int64.le_refl 0
  · exact scoreBy_mono h hc hnonneg hlead _

end Layout

/-- In every graph the series of a cumulative team without negative scores is, point by point, no
lower than the series of a team that it leads, whatever the scores of that team are. -/
theorem graph_keeps_lead {s : Settings} {teams : List (List Event)} {now : Option Int64} {g : Graph}
    (h : s.graph teams now = .ok g) {i j : Nat} {ahead behind : List Event}
    (hi : teams[i]? = some ahead) (hj : teams[j]? = some behind) (hc : IsCumulative ahead)
    (hnonneg : ∀ e ∈ ahead, 0 ≤ e.score) (hlead : Leads ahead behind) :
    ∃ upper lower, g.series[i]? = some upper ∧ g.series[j]? = some lower ∧
      upper.length = s.pointCount.toNat ∧ List.Forall₂ (· ≤ ·) lower upper := by
  obtain ⟨-, w, -, rfl⟩ := Settings.graph_ok h
  let l := Layout.ofWindow w s.pointCount
  have hp : l.IsProper := Layout.ofWindow_isProper w s.pointCount
  refine ⟨s.seriesOf l ahead, s.seriesOf l behind, ?_, ?_, ?_, ?_⟩
  · rw [List.getElem?_map, hi, Option.map_some]
  · rw [List.getElem?_map, hj, Option.map_some]
  · rw [s.seriesOf_eq_shown hp, List.length_map, List.length_range]
  · rw [s.seriesOf_eq_shown hp, s.seriesOf_eq_shown hp]
    refine List.forall₂_map_left_iff.2 (List.forall₂_map_right_iff.2 (List.forall₂_same.2 ?_))
    intro k _
    exact Layout.shown_mono hp hc hnonneg hlead s.pointCount.toNat k

/-- The team that leads submits out of order, and its matches lie in earlier buckets. -/
theorem graph_keeps_lead_early :
    let ahead : List Event := [⟨6, 9⟩, ⟨0, 4⟩]
    let behind : List Event := [⟨9, 7⟩, ⟨3, 4⟩]
    Settings.graph ⟨4, 0, 0⟩ [behind, ahead] none =
        .ok ⟨⟨⟨0, 9⟩, 2, 5⟩, [[4, 4, 4, 7], [4, 4, 9, 9]]⟩ ∧
      IsCumulative ahead ∧ (∀ e ∈ ahead, 0 ≤ e.score) ∧ Leads ahead behind ∧
      List.Forall₂ (· ≤ ·) ([4, 4, 4, 7] : Series) [4, 4, 9, 9] := by
  have hg : Settings.graph ⟨4, 0, 0⟩ [[⟨9, 7⟩, ⟨3, 4⟩], [⟨6, 9⟩, ⟨0, 4⟩]] none =
      .ok ⟨⟨⟨0, 9⟩, 2, 5⟩, [[4, 4, 4, 7], [4, 4, 9, 9]]⟩ := rfl
  intro ahead behind
  have hc : IsCumulative ahead := by decide
  have hnonneg : ∀ e ∈ ahead, 0 ≤ e.score := by decide
  have hlead : Leads ahead behind := by decide
  obtain ⟨_, _, hupper, hlower, -, hle⟩ :=
    graph_keeps_lead hg (i := 1) (j := 0) rfl rfl hc hnonneg hlead
  cases hupper
  cases hlower
  exact ⟨hg, hc, hnonneg, hlead, hle⟩

end Scoreline
