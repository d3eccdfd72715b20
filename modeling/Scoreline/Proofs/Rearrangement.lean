import Scoreline.Proofs.Graph

/-!
# Scoreline.Proofs.Rearrangement

A graph depends on the set of events of each team, not on their order, and an event that stands
twice counts once. What is computed of events is the greatest or the least of something on the way:
the first and the last time for the window, the last bucket with an event and the highest score in
it for a point. Each of these sees only what is in a list (`max?_congr`, `min?_congr`), so the
closed form of a series does (`Settings.seriesOf_congr`).

When the teams change places (`inOrder`), their series change places with them. `graph_of_same_sets`
states both.
-/

namespace Scoreline

open Std

/-! ## Greatest and least elements -/

section Extremes

variable {α : Type} [LE α] [IsLinearOrder α] {xs ys : List α}

theorem max?_congr [Max α] [LawfulOrderMax α] (h : ∀ x, x ∈ xs ↔ x ∈ ys) :
    xs.max? = ys.max? := by
  apply Option.ext
  intro m
  simp only [List.max?_eq_some_iff, h]

theorem min?_congr [Min α] [LawfulOrderMin α] (h : ∀ x, x ∈ xs ↔ x ∈ ys) :
    xs.min? = ys.min? := by
  apply Option.ext
  intro m
  simp only [List.min?_eq_some_iff, h]

end Extremes

theorem mem_map_congr {α β : Type} {xs ys : List α} (h : ∀ x, x ∈ xs ↔ x ∈ ys) (f : α → β)
    (b : β) : b ∈ xs.map f ↔ b ∈ ys.map f := by
  simp only [List.mem_map, h]

theorem mem_filter_congr {α : Type} {xs ys : List α} (h : ∀ x, x ∈ xs ↔ x ∈ ys) (p : α → Bool)
    (a : α) : a ∈ xs.filter p ↔ a ∈ ys.filter p := by
  simp only [List.mem_filter, h]

/-! ## Series and windows -/

section Congr

variable {xs ys : List Event}

theorem Layout.lastPlace_congr (h : ∀ e, e ∈ xs ↔ e ∈ ys) (l : Layout) (i : Int) :
    l.lastPlace xs i = l.lastPlace ys i :=
  max?_congr (mem_filter_congr (mem_map_congr h _) _)

theorem Layout.bestAt_congr (h : ∀ e, e ∈ xs ↔ e ∈ ys) (l : Layout) (b : Int) :
    l.bestAt xs b = l.bestAt ys b :=
  max?_congr (mem_map_congr (mem_filter_congr h _) _)

theorem Layout.shown_congr (h : ∀ e, e ∈ xs ↔ e ∈ ys) (l : Layout) (points k : Nat) :
    l.shown points xs k = l.shown points ys k := by
  simp only [shown, scoreBy, lastPlace_congr h, bestAt_congr h]

theorem Settings.seriesOf_congr (h : ∀ e, e ∈ xs ↔ e ∈ ys) (s : Settings) {l : Layout}
    (hl : l.IsProper) : s.seriesOf l xs = s.seriesOf l ys := by
  rw [seriesOf_eq_shown s hl, seriesOf_eq_shown s hl]
  exact List.map_congr_left fun k _ => l.shown_congr h _ k

end Congr

/-- The window sees which events there are. -/
theorem Window.resolve_congr {teams teams' : List (List Event)}
    (h : ∀ e, e ∈ teams.flatten ↔ e ∈ teams'.flatten) (s : Settings) (now : Option Int64) :
    resolve s teams now = resolve s teams' now := by
  have hmin : (times teams).min? = (times teams').min? := min?_congr (mem_map_congr h _)
  have hmax : (times teams).max? = (times teams').max? := max?_congr (mem_map_congr h _)
  simp only [resolve, resolve?, hmin, hmax]

/-! ## Lists of teams -/

/-- Two lists of teams with the same sets of events: as many teams, and at each place teams with the
same events, in any order and any number of times. -/
structure SameSets (teams teams' : List (List Event)) : Prop where
  length_eq : teams.length = teams'.length
  mem_iff : ∀ (j : Nat) (xs ys : List Event), teams[j]? = some xs → teams'[j]? = some ys →
    ∀ e, e ∈ xs ↔ e ∈ ys

namespace SameSets

variable {teams teams' : List (List Event)}

theorem symm (h : SameSets teams teams') : SameSets teams' teams where
  length_eq := h.length_eq.symm
  mem_iff j ys xs hys hxs e := (h.mem_iff j xs ys hxs hys e).symm

theorem mem_flatten (h : SameSets teams teams') {e : Event} (he : e ∈ teams.flatten) :
    e ∈ teams'.flatten := by
  obtain ⟨xs, hxs, he⟩ := List.mem_flatten.1 he
  obtain ⟨j, hj⟩ := List.mem_iff_getElem?.1 hxs
  have hlt : j < teams'.length := by
    rw [← h.length_eq]
    exact (List.getElem?_eq_some_iff.1 hj).1
  have hys : teams'[j]? = some teams'[j] := List.getElem?_eq_getElem hlt
  exact List.mem_flatten.2 ⟨_, List.getElem_mem hlt, (h.mem_iff j xs _ hj hys e).1 he⟩

theorem map_eq {β : Type} (h : SameSets teams teams') {f : List Event → β}
    (hf : ∀ xs ys, (∀ e, e ∈ xs ↔ e ∈ ys) → f xs = f ys) : teams.map f = teams'.map f := by
  apply List.ext_getElem
  · simp [h.length_eq]
  · intro j hj hj'
    rw [List.length_map] at hj hj'
    rw [List.getElem_map, List.getElem_map]
    exact hf _ _ (h.mem_iff j _ _ (List.getElem?_eq_getElem hj) (List.getElem?_eq_getElem hj'))

theorem graph_eq (h : SameSets teams teams') (s : Settings) (now : Option Int64) :
    s.graph teams now = s.graph teams' now := by
  have hw : Window.resolve s teams now = Window.resolve s teams' now :=
    Window.resolve_congr (fun _ => ⟨h.mem_flatten, h.symm.mem_flatten⟩) s now
  simp only [Settings.graph, hw]
  cases s.validate with
  | error f => rfl
  | ok _ =>
    cases Window.resolve s teams' now with
    | error f => rfl
    | ok w =>
      have hseries := h.map_eq fun xs ys hmem =>
        s.seriesOf_congr hmem (Layout.ofWindow_isProper w s.pointCount)
      simp only [hseries]

end SameSets

/-! ## Changing places -/

/-- The elements at some places of a list, in the order of the places. -/
def inOrder {α : Type} (places : List Nat) (as : List α) : List α := places.filterMap (as[·]?)

/-- All places in their own order. -/
theorem inOrder_range {α : Type} (as : List α) : inOrder (List.range as.length) as = as := by
  have hmap : (List.range as.length).map (as[·]?) = as.map some := by
    apply List.ext_getElem
    · simp
    · intro k _ hk
      rw [List.length_map] at hk
      simp [hk]
  calc inOrder (List.range as.length) as
    _ = ((List.range as.length).map (as[·]?)).filterMap id := by rw [List.filterMap_map]; rfl
    _ = as := by rw [hmap, List.filterMap_map]; exact List.filterMap_some

theorem inOrder_map {α β : Type} (places : List Nat) (as : List α) (f : α → β) :
    inOrder places (as.map f) = (inOrder places as).map f := by
  simp only [inOrder, List.map_filterMap, List.getElem?_map]

/-- In another order there are the same elements. -/
theorem inOrder_perm {α : Type} {places : List Nat} {as : List α}
    (h : places.Perm (List.range as.length)) : (inOrder places as).Perm as := by
  have hperm := h.filterMap (as[·]?)
  rwa [show (List.range as.length).filterMap (as[·]?) = as from inOrder_range as] at hperm

theorem graph_inOrder {places : List Nat} {teams : List (List Event)}
    (h : places.Perm (List.range teams.length)) (s : Settings) (now : Option Int64) :
    s.graph (inOrder places teams) now =
      (s.graph teams now).map fun g => ⟨g.layout, inOrder places g.series⟩ := by
  have hw : Window.resolve s (inOrder places teams) now = Window.resolve s teams now :=
    Window.resolve_congr (fun _ => (inOrder_perm h).flatten.mem_iff) s now
  simp only [Settings.graph, hw]
  cases s.validate with
  | error f => rfl
  | ok _ =>
    cases Window.resolve s teams now with
    | error f => rfl
    | ok w => simp only [Except.map, inOrder_map]

/-- The graph, or the fault in its place, depends on the set of events of each team; and when the
teams are listed in another order, the layout stays and the series are listed in that order. -/
theorem graph_of_same_sets (s : Settings) (now : Option Int64) (teams : List (List Event)) :
    (∀ teams', SameSets teams teams' → s.graph teams' now = s.graph teams now) ∧
      ∀ places : List Nat, places.Perm (List.range teams.length) →
        s.graph (inOrder places teams) now =
          (s.graph teams now).map fun g => ⟨g.layout, inOrder places g.series⟩ :=
  ⟨fun _ h => h.symm.graph_eq s now, fun _ h => graph_inOrder h s now⟩

/-- Three teams with shuffled and repeated events, listed from the last to the first. -/
theorem graph_of_same_sets_shuffled :
    let teams : List (List Event) := [[⟨5, 1⟩, ⟨9, 4⟩, ⟨9, 2⟩], [], [⟨7, -3⟩]]
    let teams' : List (List Event) := [[⟨9, 2⟩, ⟨9, 4⟩, ⟨5, 1⟩, ⟨9, 2⟩], [], [⟨7, -3⟩, ⟨7, -3⟩]]
    SameSets teams teams' ∧ [2, 1, 0].Perm (List.range teams.length) ∧
      Settings.graph ⟨4, 0, 0⟩ teams' none = Settings.graph ⟨4, 0, 0⟩ teams none ∧
      Settings.graph ⟨4, 0, 0⟩ [[⟨7, -3⟩], [], [⟨5, 1⟩, ⟨9, 4⟩, ⟨9, 2⟩]] none =
        .ok ⟨⟨⟨5, 9⟩, 1, 4⟩, [[0, 0, -3, -3], [0, 0, 0, 0], [1, 1, 1, 4]]⟩ := by
  intro teams teams'
  have hsets : SameSets teams teams' := by
    refine ⟨rfl, fun j xs ys hxs hys e => ?_⟩
    match j with
    | 0 => cases hxs; cases hys; simp only [List.mem_cons]; grind
    | 1 => cases hxs; cases hys; rfl
    | 2 => cases hxs; cases hys; simp
    | j + 3 => cases hxs
  have hplaces : [2, 1, 0].Perm (List.range teams.length) := List.reverse_perm [0, 1, 2]
  have h := graph_of_same_sets ⟨4, 0, 0⟩ none teams
  refine ⟨hsets, hplaces, h.1 teams' hsets, ?_⟩
  have hgraph : Settings.graph ⟨4, 0, 0⟩ teams none =
      .ok ⟨⟨⟨5, 9⟩, 1, 4⟩, [[1, 1, 1, 4], [0, 0, 0, 0], [0, 0, -3, -3]]⟩ := rfl
  have hrev := h.2 [2, 1, 0] hplaces
  rw [hgraph] at hrev
  exact hrev

end Scoreline
