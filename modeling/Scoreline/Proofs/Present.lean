import Scoreline.Proofs.Window

/-!
# Scoreline.Proofs.Present

How a graph depends on the present. The present decides when the window closes, and nothing else. It
moves the close on from the last event to the set time after it (`Window.closing_mono`): up to the
last event it has no say (`Window.closing_of_le`), and from the set time on it has no more
(`Window.closing_of_late`). So a graph stands still before the last event, and again as soon as the
competition has been over for that long.

`graph_follows_present` states this for all valid settings and all teams with an event.
-/

namespace Scoreline

namespace Window

variable {s : Settings} {last now now' : Int64}

theorem closing_of_le (h : now ≤ last) : closing s last (some now) = last := by
  simp only [closing, if_neg (Int64.not_lt.2 h)]

theorem closing_of_late (hs : s.validate = .ok ())
    (h : last.toInt + s.extension.toInt ≤ now.toInt)
    (h' : last.toInt + s.extension.toInt ≤ now'.toInt) :
    closing s last (some now) = closing s last (some now') := by
  rw [← Int64.toInt_inj, toInt_closing hs, toInt_closing hs]
  omega

theorem closing_mono (hs : s.validate = .ok ()) (last : Int64) (h : now ≤ now') :
    closing s last (some now) ≤ closing s last (some now') := by
  rw [Int64.le_iff_toInt_le] at h ⊢
  rw [toInt_closing hs, toInt_closing hs]
  omega

end Window

/-- With valid settings and an event of some team there is a window. It opens at the first event less
the set time, or at the first time of all. Without a present it closes at the last event, and else at
the present, but not before the last event and not later than the set time after it. All events lie
in it. A later present leaves the opening alone and does not bring the close forward; the graph is
that without a present for all presents up to the last event, and one graph for all presents from the
set time after it on. -/
theorem graph_follows_present (s : Settings) (hs : s.validate = .ok ())
    {teams : List (List Event)} (ht : ∃ events ∈ teams, events ≠ []) :
    ∃ first last : Int64, Spans teams first last ∧
      (∀ now : Option Int64, ∃ w, Window.resolve s teams now = .ok w ∧
        w.min.toInt = max Int64.minValue.toInt
          (min (first.toInt - s.backoff.toInt) Int64.maxValue.toInt) ∧
        w.max.toInt = now.elim last.toInt (fun t =>
          max last.toInt (min t.toInt (last.toInt + s.extension.toInt))) ∧
        ∀ events ∈ teams, ∀ e ∈ events, w.min ≤ e.time ∧ e.time ≤ w.max) ∧
      (∀ now now' : Int64, now ≤ now' → ∃ w w', Window.resolve s teams (some now) = .ok w ∧
        Window.resolve s teams (some now') = .ok w' ∧ w'.min = w.min ∧ w.max ≤ w'.max) ∧
      (∃ g, s.graph teams none = .ok g ∧
        ∀ now : Int64, now ≤ last → s.graph teams (some now) = .ok g) ∧
      ∃ g, ∀ now : Int64, last.toInt + s.extension.toInt ≤ now.toInt →
        s.graph teams (some now) = .ok g := by
  obtain ⟨first, last, hspans⟩ := exists_spans ht
  have hgraph (now : Option Int64) := Settings.graph_of_resolve hs (hspans.resolve_eq s now)
  refine ⟨first, last, hspans, fun now => ?_, fun now now' hle => ?_, ?_, ?_⟩
  · refine ⟨_, hspans.resolve_eq s now, toInt_ofIntClamp _, ?_, ?_⟩
    · cases now with
      | none => rfl
      | some now => exact Window.toInt_closing hs last now
    · intro events hevents e he
      rw [Int64.le_iff_toInt_le, Int64.le_iff_toInt_le]
      exact hspans.mem_window hs now hevents he
  · exact ⟨_, _, hspans.resolve_eq s _, hspans.resolve_eq s _, rfl,
      Window.closing_mono hs last hle⟩
  · refine ⟨_, hgraph none, fun now hnow => ?_⟩
    rw [hgraph (some now), Window.closing_of_le hnow]
    rfl
  · obtain ⟨g, hg⟩ : ∃ g, s.graph teams (some Int64.maxValue) = .ok g := ⟨_, hgraph _⟩
    refine ⟨g, fun now hnow => ?_⟩
    -- where there is a late present, the last time of all is one
    have hmax : last.toInt + s.extension.toInt ≤ Int64.maxValue.toInt :=
      Int.le_trans hnow (Int64.toInt_le now)
    rw [hgraph, Window.closing_of_late hs hnow hmax, ← hgraph, hg]

/-- The opening is cut, one team has no event, and the close stands still from the present 160 on. -/
theorem graph_follows_present_late :
    let s : Settings := ⟨3, 300, 60⟩
    let teams : List (List Event) := [[], [⟨100, 7⟩, ⟨Int64.minValue + 5, -2⟩]]
    s.validate = .ok () ∧ (∃ events ∈ teams, events ≠ []) ∧
      Window.resolve s teams (some 130) = .ok ⟨Int64.minValue, 130⟩ ∧
      s.graph teams (some 50) = s.graph teams none ∧
      s.graph teams (some 160) = s.graph teams (some Int64.maxValue) := by
  intro s teams
  have hs : s.validate = .ok () := rfl
  have ht : ∃ events ∈ teams, events ≠ [] :=
    ⟨_, List.mem_cons_of_mem _ List.mem_cons_self, List.cons_ne_nil _ _⟩
  obtain ⟨first, last, -, hwindow, -, ⟨g, hnone, hearly⟩, g', hlate⟩ :=
    graph_follows_present s hs ht
  obtain ⟨w, hw, -, hmax, -⟩ := hwindow none
  have hresolve : Window.resolve s teams none = .ok ⟨Int64.minValue, 100⟩ := rfl
  rw [hresolve, Except.ok.injEq] at hw
  subst hw
  have hlast : 100 = last := Int64.toInt_inj.1 hmax
  subst hlast
  refine ⟨hs, ht, rfl, ?_, ?_⟩
  · rw [hearly 50 (by decide), hnone]
  · rw [hlate 160 (by decide), hlate Int64.maxValue (by decide)]

end Scoreline
