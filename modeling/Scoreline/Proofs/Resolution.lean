import Scoreline.Proofs.Window

/-!
# Scoreline.Proofs.Resolution

How fine a graph is. Where the buckets of a layout cover its window (`Layout.Covers`), two events in
one bucket are no further apart than the bucket is wide (`Layout.Covers.resolves`).

A layout is made for a span, which is the length of the window brought into the range of a word with a
sign. A window that is no longer than such a word counts has the layout that is wanted for it
(`Layout.IsWanted`, `Layout.ofWindow_isWanted`). For a longer one the buckets may end before it does;
whatever comes after their end falls into the last of them (`graph_folds_far_events`).

`graph_keeps_resolution` states what is true of the graphs of all valid settings.
-/

namespace Scoreline

namespace Layout

/-! ## Layouts that cover their window -/

/-- The buckets reach to the end of the window. -/
def Covers (l : Layout) : Prop := l.window.max.toInt ≤ l.startOf l.count.toNat

instance (l : Layout) : Decidable l.Covers :=
  inferInstanceAs (Decidable (l.window.max.toInt ≤ l.startOf l.count.toNat))

/-- The layout that is wanted for a number of points. Its width is the length of the window divided by
that number and rounded down, but at least a second; its buckets cover the window, and one bucket less
would not, unless there is only one. -/
structure IsWanted (l : Layout) (points : Nat) : Prop where
  width_eq : l.width.toInt = max ((l.window.max.toInt - l.window.min.toInt) / points) 1
  covers : l.Covers
  no_more : 1 < l.count.toNat → l.startOf (l.count.toNat - 1) < l.window.max.toInt

theorem ofWindow_isWanted {w : Window} (hle : w.min.toInt ≤ w.max.toInt)
    (hlength : w.max.toInt - w.min.toInt ≤ Int64.maxValue.toInt) {n : UInt64}
    (hn : 0 < n.toNat) : (ofWindow w n).IsWanted n.toNat := by
  have hmax := maxValue_toInt
  have hspan : w.span.toInt = w.max.toInt - w.min.toInt := by
    rw [Window.span, toInt_ofIntClamp]
    omega
  have hwidth := toInt_width_ofWindow w n
  have hcount := toNat_count_ofWindow w n
  have hpos := widthFor_pos w.span.toInt (pointsFor n)
  rw [← hwidth] at hcount hpos
  have hwindow : (ofWindow w n).window = w := rfl
  refine ⟨?_, ?_, fun hmany => ?_⟩
  · rw [hwidth, hwindow, ← hspan]
    exact widthFor_pointsFor (by omega) (by omega) hn
  · have hcovers := le_countFor_mul w.span.toInt hpos
    rw [← hcount] at hcovers
    simp only [Covers, startOf, hwindow]
    omega
  · have hless := countFor_sub_one_mul_lt hpos (by omega : 1 < countFor w.span.toInt _)
    have hcast : (((ofWindow w n).count.toNat - 1 : Nat) : Int) =
        countFor w.span.toInt (ofWindow w n).width.toInt - 1 := by omega
    simp only [startOf, hwindow, hcast]
    omega

/-! ## Events in one bucket -/

/-- No two events of teams, of one team or of two, fall into one bucket and are further apart than it
is wide. -/
def Resolves (l : Layout) (teams : List (List Event)) : Prop :=
  ∀ xs ∈ teams, ∀ ys ∈ teams, ∀ (i : Nat) (bucket bucket' : List Event),
    (l.assign xs).get? i = some bucket → (l.assign ys).get? i = some bucket' →
      ∀ e ∈ bucket, ∀ e' ∈ bucket', e'.time.toInt - e.time.toInt ≤ l.width.toInt

variable {l : Layout}

/-- The end of a bucket may itself be the end of the window. -/
theorem Covers.le_startOf_indexOf (hc : l.Covers) (h : l.IsProper) {t : Int64}
    (hmax : t.toInt ≤ l.window.max.toInt) : t.toInt ≤ l.startOf (l.indexOf t + 1) := by
  have hlt := indexOf_lt_count h t
  rcases (indexOf_le_iff h (l.indexOf t) t).1 (Nat.le_refl _) with hend | hlast
  · exact Int.le_of_lt hend
  · have hcount : l.indexOf t + 1 = l.count.toNat := by omega
    rw [hcount]
    exact Int.le_trans hmax hc

theorem Covers.resolves (hc : l.Covers) (h : l.IsProper) {teams : List (List Event)}
    (hwindow : ∀ events ∈ teams, ∀ e ∈ events,
      l.window.min.toInt ≤ e.time.toInt ∧ e.time.toInt ≤ l.window.max.toInt) :
    l.Resolves teams := by
  intro xs hxs ys hys i bucket bucket' hbucket hbucket' e he e' he'
  rw [eq_eventsAt_of_get? hbucket, eventsAt, List.mem_filter, decide_eq_true_eq] at he
  rw [eq_eventsAt_of_get? hbucket', eventsAt, List.mem_filter, decide_eq_true_eq] at he'
  have hmin := (hwindow xs hxs e he.1).1
  have hmax' := (hwindow ys hys e' he'.1).2
  have hstart := startOf_indexOf_le h hmin
  have hend := hc.le_startOf_indexOf h hmax'
  rw [he.2] at hstart
  rw [he'.2, startOf_succ] at hend
  omega

end Layout

/-- With valid settings and an event of some team there is a graph, and its layout is made for the
resolved window. If the window is no longer than a word with a sign counts, the layout is the one that
is wanted for it; and if its buckets cover the window, they keep apart all events that are further
apart than a bucket is wide. -/
theorem graph_keeps_resolution (s : Settings) (hs : s.validate = .ok ())
    {teams : List (List Event)} (ht : ∃ events ∈ teams, events ≠ []) (now : Option Int64) :
    ∃ g, s.graph teams now = .ok g ∧ Window.resolve s teams now = .ok g.layout.window ∧
      (g.layout.window.max.toInt - g.layout.window.min.toInt ≤ Int64.maxValue.toInt →
        g.layout.IsWanted s.pointCount.toNat) ∧
      (g.layout.Covers → g.layout.Resolves teams) := by
  obtain ⟨first, last, hspans⟩ := exists_spans ht
  have hresolve := hspans.resolve_eq s now
  let w : Window := ⟨Window.opening s first, Window.closing s last now⟩
  have hwindow : ∀ events ∈ teams, ∀ e ∈ events,
      w.min.toInt ≤ e.time.toInt ∧ e.time.toInt ≤ w.max.toInt :=
    fun events hevents e he => hspans.mem_window hs now hevents he
  have hle : w.min.toInt ≤ w.max.toInt := by
    obtain ⟨events, hevents, e, he, -⟩ := hspans.first_mem
    obtain ⟨hmin, hmax⟩ := hwindow events hevents e he
    exact Int.le_trans hmin hmax
  have hproper := Layout.ofWindow_isProper w s.pointCount
  refine ⟨_, Settings.graph_of_resolve hs hresolve, hresolve, fun hlength => ?_, fun hcovers => ?_⟩
  · exact Layout.ofWindow_isWanted hle hlength (Settings.pointCount_pos hs)
  · exact Layout.Covers.resolves hcovers hproper hwindow

/-- A window that does not divide evenly, with events at both of its ends and in two teams. -/
theorem graph_keeps_resolution_uneven :
    let s : Settings := ⟨4, 0, 86400⟩
    let teams : List (List Event) := [[⟨9, 3⟩, ⟨-5, 1⟩], [], [⟨8, 2⟩]]
    let l : Layout := ⟨⟨-5, 9⟩, 3, 5⟩
    s.validate = .ok () ∧ (∃ events ∈ teams, events ≠ []) ∧
      s.graph teams none = .ok ⟨l, [[1, 1, 1, 3], [0, 0, 0, 0], [0, 0, 0, 2]]⟩ ∧
      l.window.max.toInt - l.window.min.toInt ≤ Int64.maxValue.toInt ∧ l.IsWanted 4 ∧
      l.Resolves teams := by
  have hgraph : Settings.graph ⟨4, 0, 86400⟩ [[⟨9, 3⟩, ⟨-5, 1⟩], [], [⟨8, 2⟩]] none =
      .ok ⟨⟨⟨-5, 9⟩, 3, 5⟩, [[1, 1, 1, 3], [0, 0, 0, 0], [0, 0, 0, 2]]⟩ := rfl
  intro s teams l
  have hs : s.validate = .ok () := rfl
  have ht : ∃ events ∈ teams, events ≠ [] := ⟨_, List.mem_cons_self, List.cons_ne_nil _ _⟩
  have hlength : l.window.max.toInt - l.window.min.toInt ≤ Int64.maxValue.toInt := by decide
  obtain ⟨g, hg, -, hwanted, hresolves⟩ := graph_keeps_resolution s hs ht none
  rw [hgraph, Except.ok.injEq] at hg
  subst hg
  have hl : l.IsWanted 4 := hwanted hlength
  exact ⟨hs, ht, hgraph, hlength, hl, hresolves hl.covers⟩

/-- From the first time to the last is twice as long as the longest span. The buckets end at the middle
of the window, and the event there falls into one bucket with the last one. -/
theorem graph_folds_far_events :
    let events : List Event := [⟨Int64.minValue, 1⟩, ⟨0, 5⟩, ⟨Int64.maxValue, 9⟩]
    let l : Layout := ⟨⟨Int64.minValue, Int64.maxValue⟩, 2305843009213693951, 5⟩
    Settings.validate ⟨4, 0, 86400⟩ = .ok () ∧
      Settings.graph ⟨4, 0, 86400⟩ [events] none = .ok ⟨l, [[1, 1, 1, 9]]⟩ ∧
      ¬ l.Covers ∧ ¬ l.Resolves [events] := by
  have hgraph : Settings.graph ⟨4, 0, 86400⟩
      [[⟨Int64.minValue, 1⟩, ⟨0, 5⟩, ⟨Int64.maxValue, 9⟩]] none =
      .ok ⟨⟨⟨Int64.minValue, Int64.maxValue⟩, 2305843009213693951, 5⟩, [[1, 1, 1, 9]]⟩ := rfl
  have hassign : (Layout.assign ⟨⟨Int64.minValue, Int64.maxValue⟩, 2305843009213693951, 5⟩
      [⟨Int64.minValue, 1⟩, ⟨0, 5⟩, ⟨Int64.maxValue, 9⟩]).get? 4 =
      some [⟨0, 5⟩, ⟨Int64.maxValue, 9⟩] := rfl
  intro events l
  refine ⟨rfl, hgraph, by decide, fun h => ?_⟩
  have hclose := h events List.mem_cons_self events List.mem_cons_self 4 _ _ hassign hassign
    ⟨0, 5⟩ List.mem_cons_self ⟨Int64.maxValue, 9⟩ (List.mem_cons_of_mem _ List.mem_cons_self)
  exact absurd hclose (by decide)

end Scoreline
