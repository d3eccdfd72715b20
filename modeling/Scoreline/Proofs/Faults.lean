import Scoreline.Proofs.Graph

/-!
# Scoreline.Proofs.Faults

What stands in the way of a graph. Settings are looked at before teams, so a fault of the settings is
the fault of the graph, whatever the teams are; with valid settings there is one fault left, which is
that no team has an event (`Settings.graph_error_iff`). Where neither is so there is a graph
(`Settings.exists_graph_iff`).
-/

namespace Scoreline

variable {s : Settings} {teams : List (List Event)} {now : Option Int64} {f : Fault}

theorem Settings.isParameter_of_validate (h : s.validate = .error f) : f.isParameter = true := by
  simp only [validate] at h
  split at h
  · cases h
    rfl
  · split at h
    · cases h
      rfl
    · split at h
      · cases h
        rfl
      · cases h

theorem Window.resolve_error_iff :
    resolve s teams now = .error f ↔ f = .noSubmissions ∧ ∀ events ∈ teams, events = [] := by
  by_cases hnone : ∀ events ∈ teams, events = []
  · have htimes : times teams = [] := by
      rw [times, List.map_eq_nil_iff, List.flatten_eq_nil_iff]
      exact hnone
    have hresolve : resolve s teams now = .error .noSubmissions := by
      simp only [resolve, resolve?, htimes, List.min?_nil]
    rw [hresolve]
    constructor
    · intro h
      cases h
      exact ⟨rfl, hnone⟩
    · rintro ⟨rfl, -⟩
      rfl
  · obtain ⟨w, hw⟩ := resolve_of_event s now (by simpa using hnone)
    rw [hw]
    constructor
    · intro h
      cases h
    · rintro ⟨-, h⟩
      exact absurd h hnone

namespace Settings

theorem graph_error_iff :
    s.graph teams now = .error f ↔
      s.validate = .error f ∨
        s.validate = .ok () ∧ f = .noSubmissions ∧ ∀ events ∈ teams, events = [] := by
  rw [← @Window.resolve_error_iff s teams now f]
  simp only [graph]
  cases s.validate with
  | error f' => simp
  | ok _ =>
    cases Window.resolve s teams now with
    | error f' => simp
    | ok w => simp

theorem exists_graph_iff :
    (∃ g, s.graph teams now = .ok g) ↔
      s.validate = .ok () ∧ ∃ events ∈ teams, events ≠ [] := by
  constructor
  · rintro ⟨g, hg⟩
    obtain ⟨hs, -⟩ := graph_ok hg
    refine ⟨hs, Classical.byContradiction fun hnone => ?_⟩
    have hfault : s.graph teams now = .error .noSubmissions :=
      graph_error_iff.2 (.inr ⟨hs, rfl, by simpa using hnone⟩)
    rw [hfault] at hg
    cases hg
  · rintro ⟨hs, ht⟩
    exact exists_graph hs ht

theorem points_error_iff : s.points teams now = .error f ↔ s.graph teams now = .error f := by
  simp only [points]
  cases s.graph teams now with
  | error f' => simp
  | ok g => simp

/-- That no team has an event is a fault only where the settings are not at fault. -/
theorem points_error_noSubmissions_iff :
    s.points teams now = .error .noSubmissions ↔
      s.validate = .ok () ∧ ∀ events ∈ teams, events = [] := by
  rw [points_error_iff, graph_error_iff]
  constructor
  · rintro (hf | ⟨hs, -, hnone⟩)
    · have hparameter := isParameter_of_validate hf
      cases hparameter
    · exact ⟨hs, hnone⟩
  · rintro ⟨hs, hnone⟩
    exact .inr ⟨hs, rfl, hnone⟩

theorem points_error_parameter_iff :
    s.points teams now = .error f ∧ f.isParameter = true ↔ s.validate = .error f := by
  rw [points_error_iff, graph_error_iff]
  constructor
  · rintro ⟨hf | ⟨-, rfl, -⟩, hparameter⟩
    · exact hf
    · cases hparameter
  · intro hf
    exact ⟨.inl hf, isParameter_of_validate hf⟩

theorem exists_points_iff :
    (∃ p, s.points teams now = .ok p) ↔
      s.validate = .ok () ∧ ∃ events ∈ teams, events ≠ [] := by
  rw [← @exists_graph_iff s teams now]
  simp only [points]
  cases s.graph teams now with
  | error f' => simp
  | ok g => simp

end Settings

end Scoreline
