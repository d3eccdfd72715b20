import Scoreline.Proofs.Isolation

/-!
# Scoreline.Proofs.Window

The window of a list of teams in exact numbers, for valid settings. It opens the set time before the
first event, or with time itself (`toInt_opening`). It closes at the last event, or at the present if
that is later, but no more than the set time after the last event (`toInt_closing`): although that
sum is brought into the range of a time, the present is in it, so the cut is never seen.

Every list of teams with an event has a first and a last one (`exists_spans`), and all its events lie
in the window (`Spans.mem_window`).
-/

namespace Scoreline

theorem Settings.nonneg_of_validate {s : Settings} (h : s.validate = .ok ()) :
    0 ≤ s.backoff.toInt ∧ 0 ≤ s.extension.toInt := by
  have hzero : (0 : Int64).toInt = 0 := rfl
  simp only [validate] at h
  split at h
  · cases h
  · split at h
    · cases h
    · rename_i hbackoff
      split at h
      · cases h
      · rename_i hextension
        rw [Int64.lt_iff_toInt_lt, hzero] at hbackoff hextension
        omega

namespace Window

variable {s : Settings}

theorem toInt_opening (hs : s.validate = .ok ()) (first : Int64) :
    (opening s first).toInt = Max.max (-9223372036854775808) (first.toInt - s.backoff.toInt) := by
  have hbackoff := (Settings.nonneg_of_validate hs).1
  have hfirst := toInt_bounds first
  rw [opening, toInt_ofIntClamp]
  omega

theorem toInt_closing (hs : s.validate = .ok ()) (last now : Int64) :
    (closing s last (some now)).toInt =
      Max.max last.toInt (Min.min now.toInt (last.toInt + s.extension.toInt)) := by
  have hextension := (Settings.nonneg_of_validate hs).2
  have hlast := toInt_bounds last
  have hnow := toInt_bounds now
  simp only [closing, Int64.lt_iff_toInt_lt]
  split
  · rw [toInt_min, toInt_ofIntClamp]
    omega
  · omega

theorem opening_le (hs : s.validate = .ok ()) (first : Int64) :
    (opening s first).toInt ≤ first.toInt := by
  have hbackoff := (Settings.nonneg_of_validate hs).1
  have hfirst := toInt_bounds first
  rw [toInt_opening hs]
  omega

theorem le_closing (hs : s.validate = .ok ()) (last : Int64) (now : Option Int64) :
    last.toInt ≤ (closing s last now).toInt := by
  cases now with
  | none => exact Int.le_refl _
  | some now =>
    rw [toInt_closing hs]
    exact Int.le_max_left _ _

end Window

theorem exists_spans {teams : List (List Event)} (h : ∃ events ∈ teams, events ≠ []) :
    ∃ first last, Spans teams first last := by
  have hne := Window.times_ne_nil h
  obtain ⟨first, hfirst⟩ := Option.isSome_iff_exists.1 (List.isSome_min?_of_ne_nil hne)
  obtain ⟨last, hlast⟩ := Option.isSome_iff_exists.1 (List.isSome_max?_of_ne_nil hne)
  have hmin := List.min?_eq_some_iff.1 hfirst
  have hmax := List.max?_eq_some_iff.1 hlast
  exact ⟨first, last, Spans.iff_times.2 ⟨hmin.1, hmax.1, fun t ht => ⟨hmin.2 t ht, hmax.2 t ht⟩⟩⟩

/-- All events lie in the window, its ends included. -/
theorem Spans.mem_window {s : Settings} (hs : s.validate = .ok ()) {teams : List (List Event)}
    {first last : Int64} (h : Spans teams first last) (now : Option Int64) {events : List Event}
    (hevents : events ∈ teams) {e : Event} (he : e ∈ events) :
    (Window.opening s first).toInt ≤ e.time.toInt ∧
      e.time.toInt ≤ (Window.closing s last now).toInt := by
  have hopening := Window.opening_le hs first
  have hclosing := Window.le_closing hs last now
  obtain ⟨hfirst, hlast⟩ := h.between events hevents e he
  rw [Int64.le_iff_toInt_le] at hfirst hlast
  omega

end Scoreline
