import Scoreline.Proofs.Graph

/-!
# Scoreline.Proofs.Cumulative

Teams whose scores are totals: a later submission never has a lower score (`IsCumulative`). The scan
of a series looks at one bucket only, the last with an event; for such a team the highest score of
that bucket is the highest of all buckets before it too (`scoreBy_eq_highest`), so every point shows
how the team stood at the end of its tick (`Layout.standing`).

`graph_standing` states this for the graphs of all settings, and what follows from it: a series does
not fall once it has begun, does not fall at all without negative scores, and ends with the highest
score of the team.
-/

namespace Scoreline

/-- Of any two events the earlier one has no higher score. -/
def IsCumulative (events : List Event) : Prop :=
  ∀ e ∈ events, ∀ e' ∈ events, e.time < e'.time → e.score ≤ e'.score

instance (events : List Event) : Decidable (IsCumulative events) :=
  inferInstanceAs
    (Decidable (∀ e ∈ events, ∀ e' ∈ events, e.time < e'.time → e.score ≤ e'.score))

/-- The highest score of events, 0 if there are none. -/
def highest (events : List Event) : Int64 := (events.map Event.score).max?.getD 0

theorem le_highest {events : List Event} {e : Event} (he : e ∈ events) :
    e.score ≤ highest events := by
  have hmem : e.score ∈ events.map Event.score := List.mem_map_of_mem he
  obtain ⟨m, hm⟩ := Option.isSome_iff_exists.1 (List.isSome_max?_of_mem hmem)
  rw [highest, hm]
  exact (List.max?_eq_some_iff.1 hm).2 _ hmem

theorem exists_score_eq_highest {events : List Event} (h : events ≠ []) :
    ∃ e ∈ events, e.score = highest events := by
  have hne : events.map Event.score ≠ [] := by simpa using h
  obtain ⟨m, hm⟩ := Option.isSome_iff_exists.1 (List.isSome_max?_of_ne_nil hne)
  obtain ⟨e, he, heq⟩ := List.mem_map.1 (List.max?_mem hm)
  exact ⟨e, he, by rw [highest, hm, heq, Option.getD_some]⟩

/-- More events have a higher highest score, unless there were none and the new scores are
negative. -/
theorem highest_mono {xs ys : List Event} (hsub : ∀ e ∈ xs, e ∈ ys)
    (h : xs ≠ [] ∨ ∀ e ∈ ys, 0 ≤ e.score) : highest xs ≤ highest ys := by
  by_cases hxs : xs = []
  · subst hxs
    by_cases hys : ys = []
    · subst hys
      exact Int64.le_refl _
    · obtain ⟨e, he, heq⟩ := exists_score_eq_highest hys
      rw [← heq]
      exact (h.resolve_left (fun hne => hne rfl)) e he
  · obtain ⟨e, he, heq⟩ := exists_score_eq_highest hxs
    rw [← heq]
    exact le_highest (hsub e he)

namespace Layout

/-! ## The standing at a tick -/

/-- Whether an event has happened by the end of bucket `i`; the last bucket has no end. -/
def happened (l : Layout) (i : Int) (e : Event) : Bool :=
  e.time.toInt < l.window.min.toInt + (i + 1) * l.width.toInt || i = l.count.toNat - 1

/-- The highest score of all events that have happened by the end of the tick of point `k`; nothing
before the first tick or when no event has happened. -/
def standing (l : Layout) (points : Nat) (events : List Event) (k : Nat) : Int64 :=
  if l.tick points k < 0 then 0 else highest (events.filter (l.happened (l.tick points k)))

/-- Whether point `k` has a tick by the end of which some event has happened. -/
def hasBegun (l : Layout) (points : Nat) (events : List Event) (k : Nat) : Prop :=
  0 ≤ l.tick points k ∧ ∃ e ∈ events, l.happened (l.tick points k) e = true

variable {l : Layout} {events : List Event}

theorem happened_iff_place (h : l.IsProper) {i : Int} (h0 : 0 ≤ i) (hi : i < l.count.toNat)
    (e : Event) : l.happened i e = true ↔ l.place e.time ≤ i := by
  rw [place_le_iff h h0]
  simp only [happened, Bool.or_eq_true, decide_eq_true_eq]
  omega

/-- In a cumulative feed no event is ahead of the last bucket up to `i` that has one. -/
theorem scoreBy_eq_highest (h : l.IsProper) (hc : IsCumulative events) (i : Int) :
    l.scoreBy events i = highest (events.filter fun e => l.place e.time ≤ i) := by
  simp only [scoreBy]
  cases hb : l.lastPlace events i with
  | none =>
    have hnil : (events.filter fun e => l.place e.time ≤ i) = [] := by
      rw [List.filter_eq_nil_iff]
      intro e he
      have := lastPlace_eq_none_iff.1 hb e he
      simp only [decide_eq_true_eq]
      omega
    rw [hnil]
    rfl
  | some b =>
    obtain ⟨⟨e₀, he₀, hb₀⟩, hbi, hmax⟩ := lastPlace_eq_some_iff.1 hb
    let bucket := events.filter fun e => l.place e.time = b
    have mem_bucket {e : Event} : e ∈ bucket ↔ e ∈ events ∧ l.place e.time = b := by
      simp only [bucket, List.mem_filter, decide_eq_true_eq]
    have hne : bucket ≠ [] := List.ne_nil_of_mem (mem_bucket.2 ⟨he₀, hb₀⟩)
    show highest bucket = _
    -- the last bucket is a part of all that has come, and nothing before it is higher
    apply Int64.le_antisymm
    · refine highest_mono (fun e he => ?_) (.inl hne)
      have := mem_bucket.1 he
      simp only [List.mem_filter, decide_eq_true_eq]
      exact ⟨this.1, by omega⟩
    · have hall : (events.filter fun e => l.place e.time ≤ i) ≠ [] :=
        List.ne_nil_of_mem (List.mem_filter.2 ⟨he₀, by simp only [decide_eq_true_eq]; omega⟩)
      obtain ⟨e, he, heq⟩ := exists_score_eq_highest hall
      simp only [List.mem_filter, decide_eq_true_eq] at he
      rw [← heq]
      have hle := hmax e he.1 he.2
      by_cases hbe : l.place e.time = b
      · exact le_highest (mem_bucket.2 ⟨he.1, hbe⟩)
      · -- an event of an earlier bucket is earlier, hence no higher
        have hlt : e.time < e₀.time := lt_of_place_lt h (by omega)
        exact Int64.le_trans (hc e he.1 e₀ he₀ hlt) (le_highest (mem_bucket.2 ⟨he₀, hb₀⟩))

theorem shown_eq_standing (h : l.IsProper) (hc : IsCumulative events) {points k : Nat}
    (hk : k < points) : l.shown points events k = l.standing points events k := by
  have htick : l.tick points k < l.count.toNat := by
    simp only [tick]
    omega
  simp only [shown, standing]
  by_cases hi : l.tick points k < 0
  · rw [if_pos hi, if_pos hi]
  · rw [if_neg hi, if_neg hi, scoreBy_eq_highest h hc]
    congr 1
    apply List.filter_congr
    intro e _
    rw [Bool.eq_iff_iff, happened_iff_place h (by omega) htick, decide_eq_true_eq]

/-! ## Standings over time -/

theorem happened_mono (h : l.IsProper) {i j : Int} (hij : i ≤ j) (hj : j < l.count.toNat)
    {e : Event} (he : l.happened i e = true) : l.happened j e = true := by
  have hw := h.width_pos
  have hmul : (i + 1) * l.width.toInt ≤ (j + 1) * l.width.toInt :=
    Int.mul_le_mul_of_nonneg_right (by omega) (by omega)
  simp only [happened, Bool.or_eq_true, decide_eq_true_eq] at he ⊢
  omega

/-- A standing does not fall once there is one, and at no time without negative scores. -/
theorem standing_mono (h : l.IsProper) {points k m : Nat} (hkm : k ≤ m) (hm : m < points)
    (hb : l.hasBegun points events k ∨ ∀ e ∈ events, 0 ≤ e.score) :
    l.standing points events k ≤ l.standing points events m := by
  have hnonneg (hs : ∀ e ∈ events, 0 ≤ e.score) (xs : List Event) (hxs : ∀ e ∈ xs, e ∈ events) :
      highest [] ≤ highest xs :=
    highest_mono (fun _ he => absurd he List.not_mem_nil) (.inr fun e he => hs e (hxs e he))
  simp only [standing]
  by_cases hk : l.tick points k < 0
  · -- before the first tick the standing is zero, and only negative scores lie below that
    rw [if_pos hk]
    have hs := hb.resolve_left fun hbegun => absurd hbegun.1 (by omega)
    split
    · exact Int64.le_refl 0
    · exact hnonneg hs _ fun e he => (List.mem_filter.1 he).1
  · have hmk : l.tick points k ≤ l.tick points m := by
      simp only [tick]
      omega
    have hmc : l.tick points m < l.count.toNat := by
      simp only [tick]
      omega
    rw [if_neg hk, if_neg (by omega)]
    apply highest_mono
    · intro e he
      obtain ⟨hmem, hhap⟩ := List.mem_filter.1 he
      exact List.mem_filter.2 ⟨hmem, happened_mono h hmk hmc hhap⟩
    · rcases hb with ⟨_, e, he, hhap⟩ | hs
      · exact .inl (List.ne_nil_of_mem (List.mem_filter.2 ⟨he, hhap⟩))
      · exact .inr fun e he => hs e (List.mem_filter.1 he).1

/-- By the end of the last tick everything has happened. -/
theorem standing_last (h : l.IsProper) {points : Nat} (hp : 0 < points) :
    l.standing points events (points - 1) = highest events := by
  have hc := h.count_pos
  have htick : l.tick points (points - 1) = l.count.toNat - 1 := by
    simp only [tick]
    omega
  have hall : events.filter (l.happened (l.tick points (points - 1))) = events := by
    rw [List.filter_eq_self]
    intro e _
    simp [happened, htick]
  rw [standing, if_neg (by omega), hall]

end Layout

/-! ## Series of standings -/

theorem pairwise_standing {l : Layout} (h : l.IsProper) {points k : Nat} {events : List Event}
    (hb : l.hasBegun points events k ∨ ∀ e ∈ events, 0 ≤ e.score) :
    (((List.range points).map (l.standing points events)).drop k).Pairwise (· ≤ ·) := by
  rw [← List.map_drop, List.range_eq_range', List.drop_range', List.pairwise_map]
  refine List.Pairwise.imp_of_mem ?_ (List.pairwise_lt_range' 1)
  intro a b ha hb' hab
  simp only [List.mem_range'_1] at ha hb'
  refine Layout.standing_mono h (by omega) (by omega) ?_
  rcases hb with ⟨h0, e, he, hhap⟩ | hs
  · have hle : l.tick points k ≤ l.tick points a := by
      simp only [Layout.tick]
      omega
    have hlt : l.tick points a < l.count.toNat := by
      simp only [Layout.tick]
      omega
    exact .inl ⟨by omega, e, he, Layout.happened_mono h hle hlt hhap⟩
  · exact .inr hs

/-- The series of a cumulative team in a graph shows its standings. From the first tick with an
event on it does not fall; without negative scores it never falls; and it ends with the highest
score of the team. -/
theorem graph_standing {s : Settings} {teams : List (List Event)} {now : Option Int64} {g : Graph}
    (h : s.graph teams now = .ok g) {j : Nat} {events : List Event} (hj : teams[j]? = some events)
    (hc : IsCumulative events) :
    ∃ series, g.series[j]? = some series ∧
      series = (List.range s.pointCount.toNat).map
        (g.layout.standing s.pointCount.toNat events) ∧
      (∀ k, g.layout.hasBegun s.pointCount.toNat events k → (series.drop k).Pairwise (· ≤ ·)) ∧
      ((∀ e ∈ events, 0 ≤ e.score) → series.Pairwise (· ≤ ·)) ∧
      (events ≠ [] → series.getLast? = (events.map Event.score).max?) := by
  obtain ⟨hs, w, -, rfl⟩ := Settings.graph_ok h
  have hp : (Layout.ofWindow w s.pointCount).IsProper := Layout.ofWindow_isProper w s.pointCount
  have hn := Settings.pointCount_pos hs
  let standings := (List.range s.pointCount.toNat).map
    (Layout.standing (.ofWindow w s.pointCount) s.pointCount.toNat events)
  have hseries : s.seriesOf (.ofWindow w s.pointCount) events = standings := by
    rw [s.seriesOf_eq_shown hp]
    apply List.map_congr_left
    intro k hk
    exact Layout.shown_eq_standing hp hc (List.mem_range.1 hk)
  refine ⟨standings, ?_, rfl, ?_, ?_, ?_⟩
  · rw [List.getElem?_map, hj, Option.map_some, hseries]
  · intro k hk
    exact pairwise_standing hp (.inl hk)
  · intro hnonneg
    have hall : (standings.drop 0).Pairwise (· ≤ ·) := pairwise_standing hp (.inr hnonneg)
    rwa [List.drop_zero] at hall
  · intro hne
    have hlast : standings.getLast? = some (highest events) := by
      rw [List.getLast?_map, List.getLast?_range, if_neg (by omega), Option.map_some,
        Layout.standing_last hp hn]
    obtain ⟨m, hm⟩ : ∃ m, (events.map Event.score).max? = some m :=
      Option.isSome_iff_exists.1 (List.isSome_max?_of_ne_nil (by simpa using hne))
    rw [hlast, highest, hm, Option.getD_some]

/-- Events out of order, two of them at one time, and a score below zero. -/
theorem graph_standing_mixed :
    let events : List Event := [⟨10, 5⟩, ⟨0, -2⟩, ⟨10, 7⟩]
    let l : Layout := ⟨⟨0, 10⟩, 3, 4⟩
    let drawn : List Series := [[0, 0, 0], [-2, -2, 7]]
    Settings.graph ⟨3, 0, 0⟩ [[], events] none = .ok ⟨l, drawn⟩ ∧
      [[], events][1]? = some events ∧ IsCumulative events ∧
      ∃ series, drawn[1]? = some series ∧
        series = (List.range 3).map (l.standing 3 events) ∧
        (∀ k, l.hasBegun 3 events k → (series.drop k).Pairwise (· ≤ ·)) ∧
        ((∀ e ∈ events, 0 ≤ e.score) → series.Pairwise (· ≤ ·)) ∧
        (events ≠ [] → series.getLast? = (events.map Event.score).max?) := by
  intro events l drawn
  have hg : Settings.graph ⟨3, 0, 0⟩ [[], events] none = .ok ⟨l, drawn⟩ := rfl
  have hj : [[], events][1]? = some events := rfl
  have hc : IsCumulative events := by decide
  exact ⟨hg, hj, hc, graph_standing hg hj hc⟩

end Scoreline
