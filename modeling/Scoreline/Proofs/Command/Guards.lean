import Scoreline.Proofs.Command.Agreement
import Scoreline.Proofs.Faults
import Scoreline.Proofs.Feed.Agreement

/-!
# Scoreline.Proofs.Command.Guards

The three places that ask whether anybody has solved anything. The window wants a first event, the
progressions want a team with events, and the chart of a single team wants a list that is not empty.
They ask the same (`Progressions.hasSolves_eq_false_iff`, `Settings.points_error_noSubmissions_iff`), so
whoever asks first never meets the fault that is meant for those who do not.

`points_guarded` states this for points by themselves, for those of what was fetched, for the command
that prints them, and for the chart of a team.
-/

namespace Scoreline

/-! ## Messages -/

theorem getElem?_toList_append {s : String} (t : String) {i : Nat} (h : i < s.toList.length) :
    (s ++ t).toList[i]? = s.toList[i]? := by
  rw [String.toList_append, List.getElem?_append_left h]

/-- Texts are told apart by one place. -/
theorem ne_of_getElem?_toList {s t : String} {c : Char} (i : Nat) (hs : s.toList[i]? ≠ some c)
    (ht : t.toList[i]? = some c) : s ≠ t := by
  rintro rfl
  exact hs ht

/-- The message of a fault of the settings says that it is about a parameter. -/
theorem Fault.message_getElem?_of_isParameter {f : Fault} (h : f.isParameter = true) :
    f.message.toList[8]? = some 'p' := by
  cases f with
  | noPoints => decide
  | negativeBackoff n => exact (getElem?_toList_append _ (by decide)).trans (by decide)
  | negativeExtension n => exact (getElem?_toList_append _ (by decide)).trans (by decide)
  | noSubmissions => cases h

theorem Fault.noSubmissions_message_ne {f : Fault} (h : f.isParameter = true) :
    noSubmissions.message ≠ f.message :=
  ne_of_getElem?_toList 8 (by decide) (message_getElem?_of_isParameter h)

theorem FetchError.noSubmissions_message_ne_missing (name : String) :
    Fault.noSubmissions.message ≠ (missing name).message := by
  have hfirst : (missing name).message.toList[0]? = some 'm' := by
    rw [show (missing name).message = _ ++ name ++ _ from rfl, String.append_assoc,
      getElem?_toList_append _ (by decide)]
    decide
  exact ne_of_getElem?_toList 0 (by decide) hfirst

/-! ## Snapshots -/

/-- A snapshot fails as one of its questions does. -/
theorem Feed.error_of_snapshot {feed : Feed} {source : Source} {now : Option Int64}
    {e : FetchError} (h : (feed.snapshot source now).result = .error e) :
    feed.status.result = .error e ∨ (feed.progressions source).result = .error e := by
  cases now with
  | some time =>
    rcases Run.error_of_andThen h with hp | ⟨p, -, hfinish⟩
    · rw [Call.result_run] at hp
      exact .inr hp
    · cases hfinish
  | none =>
    rcases Run.error_of_andThen h with hboth | ⟨answers, -, hfinish⟩
    · exact Call.error_of_both hboth
    · cases hfinish

namespace Dump

variable {d : Dump} {source : Source} {now : Option Int64}

theorem missing_of_part {α : Type} {name : String} {a : Option α} {e : FetchError}
    (h : part name a = .error e) : e = .missing name := by
  cases a with
  | none =>
    cases h
    rfl
  | some a => cases h

theorem error_of_map {ε α β : Type} {x : Except ε α} {g : α → β} {e : ε}
    (h : x.map g = .error e) : x = .error e := by
  cases x with
  | error e' =>
    cases h
    rfl
  | ok a => cases h

/-- A snapshot of a dump fails only by what is not in the dump. -/
theorem missing_of_snapshot {e : FetchError} (h : (d.feed.snapshot source now).result = .error e) :
    ∃ name, e = .missing name := by
  rcases Feed.error_of_snapshot h with hstatus | hp
  · exact ⟨_, missing_of_part (error_of_map hstatus)⟩
  · cases source with
    | ranking r limit =>
      have hteams : (d.feed.topTeams r limit).result = .error e := error_of_map hp
      exact ⟨_, missing_of_part (error_of_map hteams)⟩
    | team category => exact ⟨_, missing_of_part (error_of_map hp)⟩

end Dump

/-! ## Guards -/

theorem Feed.points_error_fault_iff {feed : Feed} {source : Source} {shot : Snapshot}
    {s : Settings} {f : Fault} (h : (feed.snapshot source none).result = .ok shot) :
    (feed.points source s).result = .error (.fault f) ↔
      s.points shot.progressions.eventSets (some shot.time) = .error f := by
  rw [points_result h]
  cases s.points shot.progressions.eventSets (some shot.time) with
  | error f' => simp [Except.mapError]
  | ok p => simp [Except.mapError]

theorem Chart.Builder.error_of_series {b : Builder} {teams : List (List Event)}
    {now : Option Int64} {f : Fault} (h : b.series teams now = .error (.fault f)) :
    b.settings.points teams now = .error f := by
  simp only [series] at h
  split at h
  · split at h
    · rename_i hf
      cases h
      exact hf
    · cases h
  · cases h

/-- The chart of a team is drawn of its events, or not at all. -/
theorem Chart.Builder.team_ne_noSubmissions (b : Builder) (events : List Event)
    (now : Option Int64) : b.team events now ≠ .error (.fault .noSubmissions) := by
  intro h
  simp only [team] at h
  split at h
  · cases h
  · rename_i hevents
    split at h
    · rename_i hseries
      cases h
      have hpoints := error_of_series hseries
      obtain ⟨-, hnone⟩ := Settings.points_error_noSubmissions_iff.1 hpoints
      have hnil : events = [] := hnone events List.mem_cons_self
      rw [hnil] at hevents
      exact hevents rfl
    · cases h

namespace Command

variable {feed : Feed} {source : Source} {now : Option Int64} {s : Settings}

/-- Points fail to be printed for want of a snapshot, or by a fault of the settings. -/
theorem printPoints_error {chain : Chain}
    (h : (printPoints feed source now s).result = .error chain) :
    (∃ e, (feed.snapshot source now).result = .error e ∧
      chain = "Failed to load progressions (pass --now if the dump has no time)" :: e.causes) ∨
    ∃ f, s.validate = .error f ∧ chain = [f.message] := by
  rcases Run.error_of_andThen h with hshot | ⟨shot, hshot, hprint⟩
  · cases hresult : (feed.snapshot source now).result with
    | error e =>
      simp only [Run.mapError, hresult] at hshot
      cases hshot
      exact .inl ⟨e, rfl, rfl⟩
    | ok shot =>
      simp only [Run.mapError, hresult] at hshot
      cases hshot
  · split at hprint
    · rename_i hsolves
      simp only [Run.said] at hprint
      split at hprint
      · rename_i f hpoints
        cases hprint
        rcases Settings.graph_error_iff.1 (Settings.points_error_iff.1 hpoints) with
          hf | ⟨-, -, hnone⟩
        · exact .inr ⟨f, hf, rfl⟩
        · exact absurd hnone (Progressions.hasSolves_eq_true_iff.1 hsolves)
      · cases hprint
    · cases hprint

/-- Settings that are at fault are the fault of all points. With other settings the fault is that of
teams without an event where the progressions have none, and there is no fault where they have one. So
points of what was fetched fail for that reason just where the progressions have no event. The command
that prints points fails as its snapshot does, or by a fault of the settings; with a dump it never tells
of teams without an event, and neither does the chart of a team. -/
theorem points_guarded :
    (∀ (s : Settings) (p : Progressions) (now : Option Int64),
      let drawn := s.points p.eventSets now
      (∀ f, drawn = .error f ∧ f.isParameter = true ↔ s.validate = .error f) ∧
        (drawn = .error .noSubmissions ↔ s.validate = .ok () ∧ p.hasSolves = false) ∧
        ((∃ points, drawn = .ok points) ↔ s.validate = .ok () ∧ p.hasSolves = true)) ∧
      (∀ (feed : Feed) (source : Source) (shot : Snapshot) (s : Settings),
        (feed.snapshot source none).result = .ok shot →
          ((feed.points source s).result = .error (.fault .noSubmissions) ↔
            s.validate = .ok () ∧ shot.progressions.hasSolves = false)) ∧
      (∀ (feed : Feed) (source : Source) (now : Option Int64) (s : Settings) (chain : Chain),
        (printPoints feed source now s).result = .error chain →
          (∃ e, (feed.snapshot source now).result = .error e ∧
            chain = "Failed to load progressions (pass --now if the dump has no time)" :: e.causes) ∨
          ∃ f, f.isParameter = true ∧ s.validate = .error f ∧ chain = [f.message]) ∧
      (∀ (d : Dump) (source : Source) (now : Option Int64) (s : Settings) (chain : Chain),
        (printPoints d.feed source now s).result = .error chain →
          Fault.noSubmissions.message ∉ chain) ∧
      ∀ (b : Chart.Builder) (events : List Event) (now : Option Int64),
        b.team events now ≠ .error (.fault .noSubmissions) := by
  refine ⟨fun s p now => ⟨fun f => Settings.points_error_parameter_iff, ?_, ?_⟩, ?_, ?_, ?_,
    Chart.Builder.team_ne_noSubmissions⟩
  · rw [Settings.points_error_noSubmissions_iff, Progressions.hasSolves_eq_false_iff]
    rfl
  · rw [Settings.exists_points_iff, Progressions.hasSolves_eq_true_iff, Progressions.Eventless]
    simp
  · intro feed source shot s hshot
    rw [Feed.points_error_fault_iff hshot, Settings.points_error_noSubmissions_iff,
      Progressions.hasSolves_eq_false_iff]
    rfl
  · intro feed source now s chain h
    rcases printPoints_error h with hshot | ⟨f, hf, hchain⟩
    · exact .inl hshot
    · exact .inr ⟨f, Settings.isParameter_of_validate hf, hf, hchain⟩
  · intro d source now s chain h hmem
    rcases printPoints_error h with ⟨e, he, rfl⟩ | ⟨f, hf, rfl⟩
    · obtain ⟨name, rfl⟩ := Dump.missing_of_snapshot he
      rcases List.mem_cons.1 hmem with hfailed | hcause
      · exact ne_of_getElem?_toList 0 (by decide) rfl hfailed
      · exact FetchError.noSubmissions_message_ne_missing name (List.mem_singleton.1 hcause)
    · have hparameter := Settings.isParameter_of_validate hf
      exact Fault.noSubmissions_message_ne hparameter (List.mem_singleton.1 hmem)

/-- A ranking of which no team is wanted, and a team that the dump does not have. -/
theorem points_guarded_unwanted :
    let d : Dump := ⟨some 400, some [⟨"a", [⟨100, 5⟩]⟩], none⟩
    let source : Source := .ranking ⟨.group, ⟨"g", rfl, by decide⟩⟩ (some 0)
    (d.feed.snapshot source none).result = .ok ⟨400, .ranking []⟩ ∧
      (d.feed.points source .default).result = .error (.fault .noSubmissions) ∧
      ∃ chain, (printPoints d.feed (.team none) none .default).result = .error chain ∧
        Fault.noSubmissions.message ∉ chain := by
  intro d source
  have hshot : (d.feed.snapshot source none).result = .ok ⟨400, .ranking []⟩ := rfl
  have hprint : (printPoints d.feed (.team none) none .default).result =
      .error ("Failed to load progressions (pass --now if the dump has no time)" ::
        (FetchError.missing "team").causes) := rfl
  obtain ⟨-, hpoints, -, hchain, -⟩ := points_guarded
  exact ⟨hshot, (hpoints d.feed source _ .default hshot).2 ⟨rfl, rfl⟩, _, hprint,
    hchain d (.team none) none .default _ hprint⟩

end Command

end Scoreline
