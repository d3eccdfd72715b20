import Scoreline.Proofs.Graph

/-!
# Scoreline.Proofs.Rescoring

Graphs compare scores and do nothing else with them. When every score is replaced through a function
that keeps the order of scores, not necessarily strictly, and that leaves nothing at nothing, the
graph is the same with its scores so replaced.

Such a function goes past each stage: the highest score of a bucket (`max?_map`), the scan, where the
score before the first event has to stay nothing (`Series.fillFrom_rescored`, by induction on the
buckets), and the zeros in front of a short series (`Series.fit_map`). Buckets and windows do not see
scores.
-/

namespace Scoreline

open Std

/-- The event at the same time with its score replaced. -/
def Event.rescored (f : Int64 → Int64) (e : Event) : Event := ⟨e.time, f e.score⟩

/-- The graph with its scores replaced. -/
def Graph.rescored (f : Int64 → Int64) (g : Graph) : Graph :=
  ⟨g.layout, g.series.map fun series => series.map f⟩

section Greatest

variable {α β : Type} [LE α] [IsLinearOrder α] [Max α] [LawfulOrderMax α]
  [LE β] [IsLinearOrder β] [Max β] [LawfulOrderMax β]

/-- A function that keeps the order takes the greatest element to the greatest one. -/
theorem max?_map {f : α → β} (hf : ∀ a b, a ≤ b → f a ≤ f b) (xs : List α) :
    (xs.map f).max? = xs.max?.map f := by
  cases hmax : xs.max? with
  | none =>
    rw [List.max?_eq_none_iff] at hmax
    subst hmax
    rfl
  | some m =>
    obtain ⟨hmem, hle⟩ := List.max?_eq_some_iff.1 hmax
    refine List.max?_eq_some_iff.2 ⟨List.mem_map_of_mem hmem, ?_⟩
    intro b hb
    obtain ⟨a, ha, rfl⟩ := List.mem_map.1 hb
    exact hf a m (hle a ha)

end Greatest

section Stages

variable {f : Int64 → Int64}

theorem Window.times_rescored (f : Int64 → Int64) (teams : List (List Event)) :
    times (teams.map fun events => events.map (Event.rescored f)) = times teams := by
  have htime : Event.time ∘ Event.rescored f = Event.time := rfl
  rw [times, ← List.map_flatten, List.map_map, htime, times]

theorem Window.resolve_rescored (f : Int64 → Int64) (s : Settings) (teams : List (List Event))
    (now : Option Int64) :
    resolve s (teams.map fun events => events.map (Event.rescored f)) now =
      resolve s teams now := by
  simp only [resolve, resolve?, times_rescored]

theorem Layout.eventsAt_rescored (l : Layout) (f : Int64 → Int64) (events : List Event) (i : Nat) :
    l.eventsAt (events.map (Event.rescored f)) i =
      (l.eventsAt events i).map (Event.rescored f) := by
  rw [eventsAt, List.filter_map]
  rfl

theorem Layout.toList_assign_rescored (l : Layout) (f : Int64 → Int64) (events : List Event) :
    (l.assign (events.map (Event.rescored f))).toList =
      (l.assign events).toList.map fun bucket => bucket.map (Event.rescored f) := by
  rw [toList_assign, toList_assign, List.map_map]
  exact List.map_congr_left fun i _ => l.eventsAt_rescored f events i

namespace Series

theorem best?_rescored (hf : ∀ a b, a ≤ b → f a ≤ f b) (bucket : List Event) :
    best? (bucket.map (Event.rescored f)) = (best? bucket).map f := by
  have hscore : Event.score ∘ Event.rescored f = f ∘ Event.score := rfl
  rw [best?, List.map_map, hscore, ← List.map_map, max?_map hf, best?]

theorem fillFrom_rescored (hf : ∀ a b, a ≤ b → f a ≤ f b) (last : Int64)
    (buckets : List (List Event)) :
    fillFrom (f last) (buckets.map fun bucket => bucket.map (Event.rescored f)) =
      (fillFrom last buckets).map f := by
  induction buckets generalizing last with
  | nil => rfl
  | cons bucket buckets ih =>
    have hcarried : (best? (bucket.map (Event.rescored f))).getD (f last) =
        f ((best? bucket).getD last) := by
      rw [best?_rescored hf, Option.getD_map]
    simp only [List.map_cons, fillFrom, hcarried, ih]

theorem fit_map (hzero : f 0 = 0) (n : Nat) (series : Series) :
    fit n (series.map f) = (fit n series).map f := by
  simp only [fit, List.length_map]
  split
  · rw [List.map_drop]
  · rw [List.map_append, List.map_replicate, hzero]

end Series

theorem Settings.seriesOf_rescored (hf : ∀ a b, a ≤ b → f a ≤ f b) (hzero : f 0 = 0)
    (s : Settings) (l : Layout) (events : List Event) :
    s.seriesOf l (events.map (Event.rescored f)) = (s.seriesOf l events).map f := by
  have hfill := Series.fillFrom_rescored hf 0 (l.assign events).toList
  rw [hzero, ← l.toList_assign_rescored f] at hfill
  rw [seriesOf, Series.fill, hfill, Series.fit_map hzero, seriesOf, Series.fill]

end Stages

/-- When all scores are replaced through a function that keeps their order and leaves nothing at
nothing, the layout or the fault stays and the scores of all series are replaced. -/
theorem graph_rescored {f : Int64 → Int64} (hf : ∀ a b, a ≤ b → f a ≤ f b) (hzero : f 0 = 0)
    (s : Settings) (teams : List (List Event)) (now : Option Int64) :
    s.graph (teams.map fun events => events.map (Event.rescored f)) now =
      (s.graph teams now).map (Graph.rescored f) := by
  simp only [Settings.graph, Window.resolve_rescored]
  cases s.validate with
  | error fault => rfl
  | ok _ =>
    cases Window.resolve s teams now with
    | error fault => rfl
    | ok w =>
      have hseries (l : Layout) : s.seriesOf l ∘ (fun events => events.map (Event.rescored f)) =
          (fun series => series.map f) ∘ s.seriesOf l :=
        funext fun events => s.seriesOf_rescored hf hzero l events
      simp only [Except.map, Graph.rescored, List.map_map, hseries]

/-- Negative scores become nothing, so scores that differ become one. -/
theorem graph_rescored_merging :
    let f : Int64 → Int64 := fun score => max score 0
    let teams : List (List Event) := [[⟨0, -4⟩, ⟨2, -1⟩, ⟨9, 6⟩], [⟨5, -3⟩, ⟨5, 2⟩]]
    (∀ a b, a ≤ b → f a ≤ f b) ∧ f 0 = 0 ∧
      Settings.graph ⟨3, 0, 0⟩ teams none =
        .ok ⟨⟨⟨0, 9⟩, 3, 3⟩, [[-1, -1, 6], [0, 2, 2]]⟩ ∧
      Settings.graph ⟨3, 0, 0⟩ (teams.map fun events => events.map (Event.rescored f)) none =
        .ok ⟨⟨⟨0, 9⟩, 3, 3⟩, [[0, 0, 6], [0, 2, 2]]⟩ := by
  have hgraph : Settings.graph ⟨3, 0, 0⟩ [[⟨0, -4⟩, ⟨2, -1⟩, ⟨9, 6⟩], [⟨5, -3⟩, ⟨5, 2⟩]] none =
      .ok ⟨⟨⟨0, 9⟩, 3, 3⟩, [[-1, -1, 6], [0, 2, 2]]⟩ := rfl
  intro f teams
  have hf : ∀ a b, a ≤ b → f a ≤ f b := by
    intro a b hab
    rw [Int64.le_iff_toInt_le] at hab ⊢
    rw [toInt_max, toInt_max]
    omega
  have hzero : f 0 = 0 := rfl
  refine ⟨hf, hzero, hgraph, ?_⟩
  rw [graph_rescored hf hzero, hgraph]
  rfl

end Scoreline
