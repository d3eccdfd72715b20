import Scoreline.Proofs.Window

/-!
# Scoreline.Proofs.Translation

Graphs do not depend on where time is counted from. When all events and the present are `d` seconds
later, the window is too, and everything else about the graph is as before.

The stages form their numbers in different ways, so a relation is carried from one to the next:
`Window.Moved` for the windows, from which `Layout.Moved` follows for the layouts made for them, since
a span is a difference of times (`Window.Moved.ofWindow`). In layouts so related a time and the time
`d` seconds later have one place (`Layout.Moved.place_later`), and all that a series shows is decided
by places.

`graph_later` states this for the graphs of all valid settings. Of the teams it needs to know the first
and the last event, which there are as soon as there is an event (`exists_spans`).
-/

namespace Scoreline

/-- Whether an exact number of seconds is a time. -/
def IsTime (n : Int) : Prop := Int64.minValue.toInt ≤ n ∧ n ≤ Int64.maxValue.toInt

instance (n : Int) : Decidable (IsTime n) :=
  inferInstanceAs (Decidable (Int64.minValue.toInt ≤ n ∧ n ≤ Int64.maxValue.toInt))

/-- The time `d` seconds after `t`, or the nearest one where there is no such time. -/
def later (d : Int) (t : Int64) : Int64 := Int64.ofIntClamp (t.toInt + d)

/-- The event with the same score `d` seconds later. -/
def Event.later (d : Int) (e : Event) : Event := ⟨Scoreline.later d e.time, e.score⟩

theorem toInt_later {d : Int} {t : Int64} (h : IsTime (t.toInt + d)) :
    (later d t).toInt = t.toInt + d := Int64.toInt_ofIntClamp h.1 h.2

/-! ## Windows and layouts -/

/-- The second window is the first one, `d` seconds later. -/
structure Window.Moved (d : Int) (w w' : Window) : Prop where
  min_eq : w'.min.toInt = w.min.toInt + d
  max_eq : w'.max.toInt = w.max.toInt + d

/-- The second layout has the buckets of the first one, `d` seconds later. -/
structure Layout.Moved (d : Int) (l l' : Layout) : Prop where
  window : l.window.Moved d l'.window
  width_eq : l'.width = l.width
  count_eq : l'.count = l.count

theorem Window.Moved.ofWindow {d : Int} {w w' : Window} (h : w.Moved d w') (n : UInt64) :
    (Layout.ofWindow w n).Moved d (.ofWindow w' n) := by
  have hlength : w'.max.toInt - w'.min.toInt = w.max.toInt - w.min.toInt := by
    rw [h.min_eq, h.max_eq]
    omega
  have hspan : w'.span = w.span := by rw [Window.span, Window.span, hlength]
  refine ⟨h, ?_, ?_⟩
  · simp only [Layout.ofWindow, hspan]
  · simp only [Layout.ofWindow, hspan]

/-! ## Series -/

namespace Layout

variable {d : Int} {l l' : Layout} {events : List Event}

theorem Moved.place_later (h : l.Moved d l') {t : Int64} (ht : IsTime (t.toInt + d)) :
    l'.place (later d t) = l.place t := by
  have hoffset : (later d t).toInt - l'.window.min.toInt = t.toInt - l.window.min.toInt := by
    rw [toInt_later ht, h.window.min_eq]
    omega
  simp only [place, hoffset, h.width_eq, h.count_eq]

theorem Moved.lastPlace_later (h : l.Moved d l')
    (hevents : ∀ e ∈ events, IsTime (e.time.toInt + d)) (i : Int) :
    l'.lastPlace (events.map (Event.later d)) i = l.lastPlace events i := by
  have hplaces : (events.map (Event.later d)).map (fun e => l'.place e.time) =
      events.map fun e => l.place e.time := by
    rw [List.map_map]
    exact List.map_congr_left fun e he => h.place_later (hevents e he)
  simp only [lastPlace, hplaces]

theorem Moved.bestAt_later (h : l.Moved d l')
    (hevents : ∀ e ∈ events, IsTime (e.time.toInt + d)) (b : Int) :
    l'.bestAt (events.map (Event.later d)) b = l.bestAt events b := by
  have hbucket : (events.map (Event.later d)).filter (fun e => l'.place e.time = b) =
      (events.filter fun e => l.place e.time = b).map (Event.later d) := by
    rw [List.filter_map]
    congr 1
    apply List.filter_congr
    intro e he
    have hplace : l'.place (e.later d).time = l.place e.time := h.place_later (hevents e he)
    simp only [Function.comp_apply, hplace]
  have hscore : Event.score ∘ Event.later d = Event.score := rfl
  rw [bestAt, hbucket, List.map_map, hscore, bestAt]

theorem Moved.shown_later (h : l.Moved d l')
    (hevents : ∀ e ∈ events, IsTime (e.time.toInt + d)) (points k : Nat) :
    l'.shown points (events.map (Event.later d)) k = l.shown points events k := by
  have htick : l'.tick points k = l.tick points k := by simp only [tick, h.count_eq]
  simp only [shown, scoreBy, htick, h.lastPlace_later hevents, h.bestAt_later hevents]

end Layout

theorem Settings.seriesOf_later (s : Settings) {d : Int} {l l' : Layout} (hl : l.IsProper)
    (hl' : l'.IsProper) (h : l.Moved d l') {events : List Event}
    (hevents : ∀ e ∈ events, IsTime (e.time.toInt + d)) :
    s.seriesOf l' (events.map (Event.later d)) = s.seriesOf l events := by
  rw [seriesOf_eq_shown s hl', seriesOf_eq_shown s hl]
  exact List.map_congr_left fun k _ => h.shown_later hevents _ k

/-! ## Graphs -/

section Teams

variable {d : Int} {teams : List (List Event)} {first last : Int64}

/-- The first and the last event stay the first and the last one. -/
theorem Spans.later (hevents : ∀ events ∈ teams, ∀ e ∈ events, IsTime (e.time.toInt + d))
    (h : Spans teams first last) :
    Spans (teams.map fun events => events.map (Event.later d)) (later d first) (later d last) := by
  have hmono {e e' : Event} {events events' : List Event} (hin : events ∈ teams) (he : e ∈ events)
      (hin' : events' ∈ teams) (he' : e' ∈ events') (hle : e.time ≤ e'.time) :
      Scoreline.later d e.time ≤ Scoreline.later d e'.time := by
    rw [Int64.le_iff_toInt_le] at hle ⊢
    rw [toInt_later (hevents events hin e he), toInt_later (hevents events' hin' e' he')]
    omega
  obtain ⟨⟨xs, hxs, x, hx, rfl⟩, ⟨ys, hys, y, hy, rfl⟩, hbetween⟩ := h
  refine ⟨⟨_, List.mem_map_of_mem hxs, _, List.mem_map_of_mem hx, rfl⟩,
    ⟨_, List.mem_map_of_mem hys, _, List.mem_map_of_mem hy, rfl⟩, ?_⟩
  intro moved hmoved e' he'
  obtain ⟨events, hin, rfl⟩ := List.mem_map.1 hmoved
  obtain ⟨e, he, rfl⟩ := List.mem_map.1 he'
  obtain ⟨hfirst, hlast⟩ := hbetween events hin e he
  exact ⟨hmono hxs hx hin he hfirst, hmono hin he hys hy hlast⟩

theorem Window.moved_of_later {s : Settings} (hs : s.validate = .ok ()) {now : Option Int64}
    (hfirst : IsTime (first.toInt + d)) (hlast : IsTime (last.toInt + d))
    (hnow : ∀ t ∈ now, IsTime (t.toInt + d)) (hopening : IsTime (first.toInt - s.backoff.toInt))
    (hopening' : IsTime (first.toInt + d - s.backoff.toInt)) :
    Window.Moved d ⟨opening s first, closing s last now⟩
      ⟨opening s (later d first), closing s (later d last) (now.map (later d))⟩ where
  min_eq := by
    have hmin := minValue_toInt
    simp only [IsTime] at hopening hopening'
    rw [toInt_opening hs, toInt_opening hs, toInt_later hfirst]
    omega
  max_eq := by
    cases now with
    | none => exact toInt_later hlast
    | some now =>
      have hpresent : IsTime (now.toInt + d) := hnow now rfl
      rw [Option.map_some, toInt_closing hs, toInt_closing hs, toInt_later hlast,
        toInt_later hpresent]
      omega

end Teams

/-- When all events and the present are `d` seconds later, the graph has the same series in buckets of
the same width and number, and its window is `d` seconds later. The opening of the window must be a
time before and after, though its close may be cut. -/
theorem graph_later (s : Settings) (hs : s.validate = .ok ()) (d : Int)
    {teams : List (List Event)} {now : Option Int64} {first last : Int64}
    (hspan : Spans teams first last)
    (hevents : ∀ events ∈ teams, ∀ e ∈ events, IsTime (e.time.toInt + d))
    (hnow : ∀ t ∈ now, IsTime (t.toInt + d))
    (hopening : IsTime (first.toInt - s.backoff.toInt))
    (hopening' : IsTime (first.toInt + d - s.backoff.toInt)) :
    ∃ g g', s.graph teams now = .ok g ∧
      s.graph (teams.map fun events => events.map (Event.later d)) (now.map (later d)) = .ok g' ∧
      g.layout.Moved d g'.layout ∧ g'.series = g.series := by
  obtain ⟨xs, hxs, x, hx, hfirst⟩ := hspan.first_mem
  obtain ⟨ys, hys, y, hy, hlast⟩ := hspan.last_mem
  have hmoved := Window.moved_of_later hs (hfirst ▸ hevents xs hxs x hx)
    (hlast ▸ hevents ys hys y hy) hnow hopening hopening'
  have hlayout := hmoved.ofWindow s.pointCount
  refine ⟨_, _, Settings.graph_of_resolve hs (hspan.resolve_eq s now),
    Settings.graph_of_resolve hs ((hspan.later hevents).resolve_eq s _), hlayout, ?_⟩
  rw [List.map_map]
  apply List.map_congr_left
  intro events hmem
  exact s.seriesOf_later (Layout.ofWindow_isProper _ _) (Layout.ofWindow_isProper _ _) hlayout
    (hevents events hmem)

/-- Events before and after the origin are moved to the end of time, where the latest close of the
window is cut; the close itself is the present. -/
theorem graph_later_cut :
    let s : Settings := ⟨4, 4, 86400⟩
    let teams : List (List Event) := [[⟨20, 7⟩, ⟨-6, 3⟩], []]
    let d : Int := 9223372036854775780
    let l : Layout := ⟨⟨-10, 27⟩, 9, 5⟩
    let drawn : List Series := [[3, 3, 7, 7], [0, 0, 0, 0]]
    s.validate = .ok () ∧ Spans teams (-6) 20 ∧
      (∀ events ∈ teams, ∀ e ∈ events, IsTime (e.time.toInt + d)) ∧
      (∀ t ∈ some (27 : Int64), IsTime (t.toInt + d)) ∧ IsTime (-6 - 4) ∧ IsTime (-6 + d - 4) ∧
      s.graph teams (some 27) = .ok ⟨l, drawn⟩ ∧
      ∃ l', l.Moved d l' ∧
        s.graph (teams.map fun events => events.map (Event.later d)) (some Int64.maxValue) =
          .ok ⟨l', drawn⟩ := by
  have hgraph : Settings.graph ⟨4, 4, 86400⟩ [[⟨20, 7⟩, ⟨-6, 3⟩], []] (some 27) =
      .ok ⟨⟨⟨-10, 27⟩, 9, 5⟩, [[3, 3, 7, 7], [0, 0, 0, 0]]⟩ := rfl
  intro s teams d l drawn
  have hs : s.validate = .ok () := rfl
  have hspan : Spans teams (-6) 20 :=
    ⟨⟨_, List.mem_cons_self, ⟨-6, 3⟩, by decide, rfl⟩,
      ⟨_, List.mem_cons_self, ⟨20, 7⟩, by decide, rfl⟩, by decide⟩
  have hevents : ∀ events ∈ teams, ∀ e ∈ events, IsTime (e.time.toInt + d) := by decide
  have hnow : ∀ t ∈ some (27 : Int64), IsTime (t.toInt + d) := by
    rintro t ⟨⟩
    decide
  have hopening : IsTime (-6 - 4) := by decide
  have hopening' : IsTime (-6 + d - 4) := by decide
  obtain ⟨g, ⟨l', drawn'⟩, hg, hg', hmoved, hseries⟩ :=
    graph_later s hs d hspan hevents hnow hopening hopening'
  rw [hgraph, Except.ok.injEq] at hg
  subst hg
  have hdrawn : drawn' = drawn := hseries
  subst hdrawn
  exact ⟨hs, hspan, hevents, hnow, hopening, hopening', hgraph, l', hmoved, hg'⟩

end Scoreline
