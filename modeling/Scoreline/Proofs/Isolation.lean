import Scoreline.Proofs.Graph

/-!
# Scoreline.Proofs.Isolation

Teams are drawn apart from each other. All that they share is the window, and of all their events
the window sees two times only: the first and the last (`Spans`, `Spans.resolve_eq`). So two lists
of teams with the same first and last time have graphs of one layout, in which a team of both lists
has the same series (`DrawnAlike`).

`Edits` are changes to a list of teams that keep clear of these two times: teams without events come
and go, and so do events strictly between. One edit keeps the span (`Edit.spans_iff`), and so does a
run of edits, by induction on the run. `graph_of_span` states both.
-/

namespace Scoreline

/-! ## The span of a list of teams -/

/-- The first event of all teams is at `first`, and the last one at `last`. -/
structure Spans (teams : List (List Event)) (first last : Int64) : Prop where
  first_mem : ∃ events ∈ teams, ∃ e ∈ events, e.time = first
  last_mem : ∃ events ∈ teams, ∃ e ∈ events, e.time = last
  between : ∀ events ∈ teams, ∀ e ∈ events, first ≤ e.time ∧ e.time ≤ last

theorem Window.mem_times {teams : List (List Event)} {t : Int64} :
    t ∈ times teams ↔ ∃ events ∈ teams, ∃ e ∈ events, e.time = t := by
  simp only [times, List.mem_map, List.mem_flatten]
  constructor
  · rintro ⟨e, ⟨events, hevents, he⟩, rfl⟩
    exact ⟨events, hevents, e, he, rfl⟩
  · rintro ⟨events, hevents, e, he, rfl⟩
    exact ⟨e, ⟨events, hevents, he⟩, rfl⟩

namespace Spans

variable {teams : List (List Event)} {first last : Int64}

theorem iff_times :
    Spans teams first last ↔ first ∈ Window.times teams ∧ last ∈ Window.times teams ∧
      ∀ t ∈ Window.times teams, first ≤ t ∧ t ≤ last := by
  simp only [Window.mem_times]
  constructor
  · rintro ⟨hfirst, hlast, hbetween⟩
    refine ⟨hfirst, hlast, ?_⟩
    rintro _ ⟨events, hevents, e, he, rfl⟩
    exact hbetween events hevents e he
  · rintro ⟨hfirst, hlast, hbetween⟩
    exact ⟨hfirst, hlast, fun events hevents e he => hbetween _ ⟨events, hevents, e, he, rfl⟩⟩

/-- Of the events the window sees the first and the last time. -/
theorem resolve_eq (h : Spans teams first last) (s : Settings) (now : Option Int64) :
    Window.resolve s teams now =
      .ok ⟨Window.opening s first, Window.closing s last now⟩ := by
  obtain ⟨hfirst, hlast, hbetween⟩ := iff_times.1 h
  have hmin : (Window.times teams).min? = some first :=
    List.min?_eq_some_iff.2 ⟨hfirst, fun t ht => (hbetween t ht).1⟩
  have hmax : (Window.times teams).max? = some last :=
    List.max?_eq_some_iff.2 ⟨hlast, fun t ht => (hbetween t ht).2⟩
  simp only [Window.resolve, Window.resolve?, hmin, hmax]

end Spans

/-! ## Edits -/

/-- One addition to a list of teams: a team without events at any place, or to any team an event
after `first` and before `last`. -/
inductive Edit (first last : Int64) : List (List Event) → List (List Event) → Prop where
  | team (before after : List (List Event)) :
      Edit first last (before ++ after) (before ++ [] :: after)
  | event (before after : List (List Event)) (xs ys : List Event) (e : Event)
      (hfirst : first < e.time) (hlast : e.time < last) :
      Edit first last (before ++ (xs ++ ys) :: after) (before ++ (xs ++ e :: ys) :: after)

/-- What additions and removals, one after the other, make of a list of teams. To change an event is
to remove it and to add another. -/
inductive Edits (first last : Int64) (teams : List (List Event)) : List (List Event) → Prop where
  | refl : Edits first last teams teams
  | add {teams' teams'' : List (List Event)} (h : Edits first last teams teams')
      (step : Edit first last teams' teams'') : Edits first last teams teams''
  | remove {teams' teams'' : List (List Event)} (h : Edits first last teams teams')
      (step : Edit first last teams'' teams') : Edits first last teams teams''

section Edits

variable {first last : Int64} {teams teams' : List (List Event)}

/-- An addition loses no time, and brings none but strictly between. -/
theorem Edit.mem_times (h : Edit first last teams teams') (t : Int64) :
    (t ∈ Window.times teams → t ∈ Window.times teams') ∧
      (t ∈ Window.times teams' → t ∈ Window.times teams ∨ (first < t ∧ t < last)) := by
  cases h with
  | team before after =>
    have hsame : Window.times (before ++ [] :: after) = Window.times (before ++ after) := by
      simp [Window.times]
    rw [hsame]
    exact ⟨id, .inl⟩
  | event before after xs ys e hfirst hlast =>
    have hsame : t ∈ Window.times (before ++ (xs ++ e :: ys) :: after) ↔
        t ∈ Window.times (before ++ (xs ++ ys) :: after) ∨ t = e.time := by
      simp only [Window.times, List.flatten_append, List.flatten_cons, List.map_append,
        List.map_cons, List.mem_append, List.mem_cons]
      grind
    rw [hsame]
    refine ⟨.inl, ?_⟩
    rintro (ht | rfl)
    · exact .inl ht
    · exact .inr ⟨hfirst, hlast⟩

/-- An addition keeps the span of the teams, and so does its removal. -/
theorem Edit.spans_iff (h : Edit first last teams teams') :
    Spans teams first last ↔ Spans teams' first last := by
  rw [Spans.iff_times, Spans.iff_times]
  constructor
  · rintro ⟨hfirst, hlast, hbetween⟩
    refine ⟨(h.mem_times first).1 hfirst, (h.mem_times last).1 hlast, fun t ht => ?_⟩
    rcases (h.mem_times t).2 ht with ht | ⟨h1, h2⟩
    · exact hbetween t ht
    · exact ⟨Int64.le_of_lt h1, Int64.le_of_lt h2⟩
  · rintro ⟨hfirst, hlast, hbetween⟩
    refine ⟨?_, ?_, fun t ht => hbetween t ((h.mem_times t).1 ht)⟩
    -- the ends of the span are not strictly between its ends
    · exact ((h.mem_times first).2 hfirst).resolve_right fun h1 => Int64.lt_irrefl h1.1
    · exact ((h.mem_times last).2 hlast).resolve_right fun h1 => Int64.lt_irrefl h1.2

theorem Edits.spans (h : Edits first last teams teams') (hs : Spans teams first last) :
    Spans teams' first last := by
  induction h with
  | refl => exact hs
  | add _ step ih => exact step.spans_iff.1 ih
  | remove _ step ih => exact step.spans_iff.2 ih

end Edits

/-! ## Graphs -/

/-- Both lists of teams have a graph, the graphs have one layout, and a team that is in both lists
has one series in both graphs, wherever it stands. -/
def DrawnAlike (s : Settings) (now : Option Int64) (teams teams' : List (List Event)) : Prop :=
  ∃ g g', s.graph teams now = .ok g ∧ s.graph teams' now = .ok g' ∧ g.layout = g'.layout ∧
    ∀ (i j : Nat) (events : List Event), teams[i]? = some events → teams'[j]? = some events →
      ∃ series, g.series[i]? = some series ∧ g'.series[j]? = some series

theorem Spans.drawnAlike {s : Settings} (hs : s.validate = .ok ()) {first last : Int64}
    {teams teams' : List (List Event)} (h : Spans teams first last) (h' : Spans teams' first last)
    (now : Option Int64) : DrawnAlike s now teams teams' := by
  let l := Layout.ofWindow ⟨Window.opening s first, Window.closing s last now⟩ s.pointCount
  refine ⟨⟨l, teams.map (s.seriesOf l)⟩, ⟨l, teams'.map (s.seriesOf l)⟩,
    Settings.graph_of_resolve hs (h.resolve_eq s now),
    Settings.graph_of_resolve hs (h'.resolve_eq s now), rfl, ?_⟩
  intro i j events hi hj
  refine ⟨s.seriesOf l events, ?_, ?_⟩
  · rw [List.getElem?_map, hi, Option.map_some]
  · rw [List.getElem?_map, hj, Option.map_some]

/-- Of the other teams a team's series and the layout depend on the first and the last time alone:
lists of teams of one span are drawn alike, and so are lists that edits strictly inside the span
lead to. -/
theorem graph_of_span (s : Settings) (hs : s.validate = .ok ()) (now : Option Int64)
    {first last : Int64} {teams : List (List Event)} (h : Spans teams first last) :
    (∀ teams', Spans teams' first last → DrawnAlike s now teams teams') ∧
      ∀ teams', Edits first last teams teams' → DrawnAlike s now teams teams' :=
  ⟨fun _ h' => h.drawnAlike hs h' now, fun _ hedits => h.drawnAlike hs (hedits.spans h) now⟩

/-- Other teams come and go, and the only event of one of them is moved. -/
theorem graph_of_span_rivals :
    let mine : List Event := [⟨40, 3⟩, ⟨10, 1⟩]
    let teams : List (List Event) := [mine, [⟨20, 7⟩], [⟨90, 2⟩]]
    let teams' : List (List Event) := [[], [⟨10, 5⟩, ⟨90, 0⟩], mine]
    let teams'' : List (List Event) := [[], mine, [⟨30, 8⟩], [⟨90, 2⟩]]
    Settings.default.validate = .ok () ∧ Spans teams 10 90 ∧ Spans teams' 10 90 ∧
      Edits 10 90 teams teams'' ∧ DrawnAlike .default (some 1000) teams teams' ∧
      DrawnAlike .default (some 1000) teams teams'' := by
  intro mine teams teams' teams''
  have hs : Settings.default.validate = .ok () := rfl
  have hspans : Spans teams 10 90 :=
    ⟨⟨mine, by decide, ⟨10, 1⟩, by decide, rfl⟩, ⟨[⟨90, 2⟩], by decide, ⟨90, 2⟩, by decide, rfl⟩,
      by decide⟩
  have hspans' : Spans teams' 10 90 :=
    ⟨⟨mine, by decide, ⟨10, 1⟩, by decide, rfl⟩,
      ⟨[⟨10, 5⟩, ⟨90, 0⟩], by decide, ⟨90, 0⟩, by decide, rfl⟩, by decide⟩
  have hremoved : Edits 10 90 teams [mine, [], [⟨90, 2⟩]] :=
    .remove .refl (.event [mine] [[⟨90, 2⟩]] [] [] ⟨20, 7⟩ (by decide) (by decide))
  have hmoved : Edits 10 90 teams [mine, [⟨30, 8⟩], [⟨90, 2⟩]] :=
    .add hremoved (.event [mine] [[⟨90, 2⟩]] [] [] ⟨30, 8⟩ (by decide) (by decide))
  have hedits : Edits 10 90 teams teams'' := .add hmoved (.team [] [mine, [⟨30, 8⟩], [⟨90, 2⟩]])
  have h := graph_of_span .default hs (some 1000) hspans
  exact ⟨hs, hspans, hspans', hedits, h.1 teams' hspans', h.2 teams'' hedits⟩

end Scoreline
