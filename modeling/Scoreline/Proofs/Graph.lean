import Scoreline.Graph
import Scoreline.Proofs.Series

/-!
# Scoreline.Proofs.Graph

Graphs in closed form. `Settings.graph` sorts the events of a team into buckets, scans the buckets
for a score each, and cuts or fills the scan to the wanted length. `Layout.shown` says in one step
which score a point shows: the highest one in the last bucket up to it that has an event.

`graph_eq_shown` states that valid settings draw exactly this for all teams as soon as one of them
has an event. Its core is `carry_eq_scoreBy`, by induction on the buckets scanned: after `n` of them
the scan carries the highest score of the last one with an event.
-/

namespace Scoreline

/-! ## The rule for one point -/

namespace Layout

/-- The last bucket up to bucket `i` with an event in it. -/
def lastPlace (l : Layout) (events : List Event) (i : Int) : Option Int :=
  ((events.map fun e => l.place e.time).filter (· ≤ i)).max?

/-- The highest score in bucket `b`. -/
def bestAt (l : Layout) (events : List Event) (b : Int) : Option Int64 :=
  ((events.filter fun e => l.place e.time = b).map Event.score).max?

/-- The highest score in the last bucket up to bucket `i` with an event in it; nothing if there is
no such bucket. -/
def scoreBy (l : Layout) (events : List Event) (i : Int) : Int64 :=
  match l.lastPlace events i with
  | none => 0
  | some b => (l.bestAt events b).getD 0

/-- The bucket of point `k` of `points`. The last point belongs to the last bucket; the number is
negative for points before the first one. -/
def tick (l : Layout) (points k : Nat) : Int := k + l.count.toNat - points

/-- What point `k` of `points` shows: nothing before the first bucket. -/
def shown (l : Layout) (points : Nat) (events : List Event) (k : Nat) : Int64 :=
  if l.tick points k < 0 then 0 else l.scoreBy events (l.tick points k)

variable {l : Layout} {events : List Event}

theorem lastPlace_eq_some_iff {i b : Int} :
    l.lastPlace events i = some b ↔
      (∃ e ∈ events, l.place e.time = b) ∧ b ≤ i ∧
        ∀ e ∈ events, l.place e.time ≤ i → l.place e.time ≤ b := by
  simp only [lastPlace, List.max?_eq_some_iff, List.mem_filter, List.mem_map, decide_eq_true_eq]
  constructor
  · rintro ⟨⟨hb, hi⟩, hmax⟩
    exact ⟨hb, hi, fun e he hle => hmax _ ⟨⟨e, he, rfl⟩, hle⟩⟩
  · rintro ⟨hb, hi, hmax⟩
    refine ⟨⟨hb, hi⟩, ?_⟩
    rintro _ ⟨⟨e, he, rfl⟩, hle⟩
    exact hmax e he hle

theorem lastPlace_eq_none_iff {i : Int} :
    l.lastPlace events i = none ↔ ∀ e ∈ events, i < l.place e.time := by
  simp [lastPlace, List.filter_eq_nil_iff]

theorem scoreBy_of_event {i : Int} (h : ∃ e ∈ events, l.place e.time = i) :
    l.scoreBy events i = (l.bestAt events i).getD 0 := by
  have : l.lastPlace events i = some i :=
    lastPlace_eq_some_iff.2 ⟨h, Int.le_refl i, fun _ _ hle => hle⟩
  simp only [scoreBy, this]

theorem scoreBy_of_no_event {i : Int} (h : ∀ e ∈ events, l.place e.time ≠ i) :
    l.scoreBy events i = l.scoreBy events (i - 1) := by
  have : l.lastPlace events i = l.lastPlace events (i - 1) := by
    simp only [lastPlace]
    congr 1
    apply List.filter_congr
    intro b hb
    obtain ⟨e, he, rfl⟩ := List.mem_map.1 hb
    have := h e he
    simp only [decide_eq_decide]
    omega
  simp only [scoreBy, this]

theorem scoreBy_of_neg {i : Int} (h : i < 0) : l.scoreBy events i = 0 := by
  have : l.lastPlace events i = none := by
    rw [lastPlace_eq_none_iff]
    intro e _
    have := l.place_nonneg e.time
    omega
  simp only [scoreBy, this]

theorem best?_eventsAt (h : l.IsProper) (i : Nat) :
    Series.best? (l.eventsAt events i) = l.bestAt events i := by
  simp only [Series.best?, eventsAt, bestAt]
  congr 2
  apply List.filter_congr
  intro e _
  rw [← indexOf_eq_place h, decide_eq_decide]
  omega

theorem best?_eq_none_iff {bucket : List Event} : Series.best? bucket = none ↔ bucket = [] := by
  simp [Series.best?]

/-- What the scan carries after `n` buckets. -/
theorem carry_eq_scoreBy (h : l.IsProper) (n : Nat) :
    Series.carry 0 ((List.range n).map (l.eventsAt events)) = l.scoreBy events (n - 1) := by
  induction n with
  | zero => rw [scoreBy_of_neg (by omega)]; rfl
  | succ n ih =>
    have hn : ((n + 1 : Nat) : Int) - 1 = n := by omega
    rw [List.range_succ, List.map_append, List.map_singleton, Series.carry_append_singleton, ih, hn]
    cases hb : Series.best? (l.eventsAt events n) with
    | none =>
      -- an empty bucket changes neither side
      have hno : ∀ e ∈ events, l.place e.time ≠ n := by
        intro e he heq
        have hmem : e ∈ l.eventsAt events n := by
          rw [← indexOf_eq_place h] at heq
          simp only [eventsAt, List.mem_filter, decide_eq_true_eq]
          exact ⟨he, by omega⟩
        rw [best?_eq_none_iff.1 hb] at hmem
        cases hmem
      rw [Option.getD_none, scoreBy_of_no_event hno]
    | some score =>
      rw [Option.getD_some, scoreBy_of_event, ← best?_eventsAt h, hb, Option.getD_some]
      have hne : l.eventsAt events n ≠ [] := by
        rw [Ne, ← best?_eq_none_iff, hb]
        exact Option.some_ne_none score
      obtain ⟨e, he⟩ := List.exists_mem_of_ne_nil _ hne
      simp only [eventsAt, List.mem_filter, decide_eq_true_eq] at he
      exact ⟨e, he.1, by rw [← indexOf_eq_place h, he.2]⟩

theorem fill_assign (h : l.IsProper) :
    Series.fill (l.assign events) =
      (List.range l.count.toNat).map fun i : Nat => l.scoreBy events i := by
  rw [Series.fill_eq]
  apply List.map_congr_left
  intro i _
  rw [carry_eq_scoreBy h]
  congr 1
  omega

end Layout

/-! ## Whole graphs -/

theorem Settings.seriesOf_eq_shown (s : Settings) {l : Layout} (h : l.IsProper)
    (events : List Event) :
    s.seriesOf l events =
      (List.range s.pointCount.toNat).map (l.shown s.pointCount.toNat events) := by
  rw [seriesOf, Layout.fill_assign h]
  apply List.ext_getElem?
  intro k
  rw [Series.fit_getElem?, List.length_map, List.length_range]
  by_cases hk : k < s.pointCount.toNat
  · rw [List.getElem?_map, List.getElem?_map, List.getElem?_range hk]
    have htick : l.tick s.pointCount.toNat k = k + l.count.toNat - s.pointCount.toNat := rfl
    simp only [Layout.shown, Option.map_some]
    -- a point stands before the first bucket or shows what the scan carries at one
    by_cases hi : k + l.count.toNat < s.pointCount.toNat
    · rw [if_pos hi, if_pos (by omega)]
    · rw [if_neg hi, if_neg (by omega), List.getElem?_range (by omega), Option.map_some]
      congr 2
      omega
  · rw [if_neg (by omega), List.getElem?_eq_none (by simp; omega),
      List.getElem?_eq_none (by simp; omega)]

theorem Window.times_ne_nil {teams : List (List Event)} (h : ∃ events ∈ teams, events ≠ []) :
    times teams ≠ [] := by
  obtain ⟨events, hmem, hne⟩ := h
  obtain ⟨e, he⟩ := List.exists_mem_of_ne_nil _ hne
  exact List.ne_nil_of_mem (List.mem_map.2 ⟨e, List.mem_flatten.2 ⟨events, hmem, he⟩, rfl⟩)

theorem Window.resolve_of_event (s : Settings) {teams : List (List Event)} (now : Option Int64)
    (h : ∃ events ∈ teams, events ≠ []) : ∃ w, Window.resolve s teams now = .ok w := by
  have hne := times_ne_nil h
  obtain ⟨earliest, hmin⟩ := Option.isSome_iff_exists.1 (List.isSome_min?_of_ne_nil hne)
  obtain ⟨latest, hmax⟩ := Option.isSome_iff_exists.1 (List.isSome_max?_of_ne_nil hne)
  refine ⟨⟨opening s earliest, closing s latest now⟩, ?_⟩
  simp only [resolve, resolve?, hmin, hmax]

theorem Settings.graph_of_resolve {s : Settings} {teams : List (List Event)} {now : Option Int64}
    {w : Window} (hs : s.validate = .ok ()) (hw : Window.resolve s teams now = .ok w) :
    s.graph teams now =
      .ok ⟨.ofWindow w s.pointCount, teams.map (s.seriesOf (.ofWindow w s.pointCount))⟩ := by
  simp only [graph, hs, hw]

theorem Settings.exists_graph {s : Settings} {teams : List (List Event)} {now : Option Int64}
    (hs : s.validate = .ok ()) (ht : ∃ events ∈ teams, events ≠ []) :
    ∃ g, s.graph teams now = .ok g := by
  obtain ⟨w, hw⟩ := Window.resolve_of_event s now ht
  exact ⟨_, graph_of_resolve hs hw⟩

/-- What a graph that has been drawn is made of. -/
theorem Settings.graph_ok {s : Settings} {teams : List (List Event)} {now : Option Int64}
    {g : Graph} (h : s.graph teams now = .ok g) :
    s.validate = .ok () ∧ ∃ w, Window.resolve s teams now = .ok w ∧
      g = ⟨.ofWindow w s.pointCount, teams.map (s.seriesOf (.ofWindow w s.pointCount))⟩ := by
  simp only [graph] at h
  cases hs : s.validate with
  | error f => rw [hs] at h; cases h
  | ok _ =>
    rw [hs] at h
    cases hw : Window.resolve s teams now with
    | error f => rw [hw] at h; cases h
    | ok w =>
      rw [hw] at h
      cases h
      exact ⟨rfl, w, rfl, rfl⟩

theorem Settings.pointCount_pos {s : Settings} (h : s.validate = .ok ()) :
    0 < s.pointCount.toNat := by
  have hne : s.pointCount ≠ 0 := by
    intro h0
    simp [validate, h0] at h
  rw [Nat.pos_iff_ne_zero]
  intro h0
  exact hne (UInt64.toNat_inj.1 h0)

/-- With valid settings and an event of some team there is a graph; its layout is the one made for
the window, and point `k` of a team shows what `Layout.shown` says. -/
theorem graph_eq_shown (s : Settings) (teams : List (List Event)) (now : Option Int64)
    (hs : s.validate = .ok ()) (ht : ∃ events ∈ teams, events ≠ []) :
    ∃ w, Window.resolve s teams now = .ok w ∧
      s.graph teams now = .ok ⟨.ofWindow w s.pointCount, teams.map fun events =>
        (List.range s.pointCount.toNat).map
          (Layout.shown (.ofWindow w s.pointCount) s.pointCount.toNat events)⟩ := by
  obtain ⟨w, hw⟩ := Window.resolve_of_event s now ht
  refine ⟨w, hw, ?_⟩
  rw [Settings.graph_of_resolve hs hw]
  congr 2
  apply List.map_congr_left
  intro events _
  exact s.seriesOf_eq_shown (Layout.ofWindow_isProper w s.pointCount) events

/-- Events at both ends of time, more buckets than points, and a team without events. -/
theorem graph_eq_shown_extremes :
    let teams : List (List Event) := [[⟨Int64.maxValue, 7⟩, ⟨Int64.minValue, -5⟩], []]
    Settings.validate ⟨3, 300, 86400⟩ = .ok () ∧ (∃ events ∈ teams, events ≠ []) ∧
      ∃ w, Window.resolve ⟨3, 300, 86400⟩ teams none = .ok w ∧
        Settings.graph ⟨3, 300, 86400⟩ teams none =
          .ok ⟨.ofWindow w 3, teams.map fun events =>
            (List.range 3).map (Layout.shown (.ofWindow w 3) 3 events)⟩ := by
  intro teams
  have hs : Settings.validate ⟨3, 300, 86400⟩ = .ok () := rfl
  have ht : ∃ events ∈ teams, events ≠ [] := ⟨_, List.mem_cons_self, List.cons_ne_nil _ _⟩
  exact ⟨hs, ht, graph_eq_shown _ _ none hs ht⟩

end Scoreline
