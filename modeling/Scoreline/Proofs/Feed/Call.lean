import Scoreline.Feed

/-!
# Scoreline.Proofs.Feed.Call

What comes of a question to a feed, by itself and together with another one. By itself it has its
own result (`Call.result_run`), and a request if it waits (`Call.requests_waiting`). Two questions
together have both results, if there are two (`Call.both_eq_ok_iff`), and else the failure of one of
them (`Call.error_of_both`).

A question that fails at once keeps the other one from being asked. Otherwise the requests of two
questions are those of both (`Call.requests_both`).
-/

namespace Scoreline

theorem Run.andThen_error {ε α β : Type} {r : Run ε α} {e : ε} (h : r.result = .error e)
    (next : α → Run ε β) : r.andThen next = ⟨r.steps, .error e⟩ := by
  rw [andThen, h]

namespace Call

variable {α β : Type}

theorem result_run (call : Call α) : call.run.result = call.result := by
  cases call with
  | atOnce => rfl
  | waiting => rfl

theorem result_map (f : α → β) (call : Call α) : (call.map f).result = call.result.map f := by
  cases call with
  | atOnce => rfl
  | waiting => rfl

/-! ## Requests -/

theorem filterMap_notices (notices : List Notice) :
    (notices.map Step.notice).filterMap Step.request? = [] := by
  refine List.filterMap_eq_nil_iff.2 fun step hstep => ?_
  obtain ⟨n, -, rfl⟩ := List.mem_map.1 hstep
  rfl

theorem requests_atOnce (notices : List Notice) (result : Except FetchError α) :
    (atOnce notices result).run.requests = [] :=
  filterMap_notices notices

theorem requests_waiting (opening : List Notice) (request : Http.Request) (closing : List Notice)
    (result : Except FetchError α) :
    (waiting opening request closing result).run.requests = [request] := by
  simp only [run, Run.requests, List.filterMap_append, List.filterMap_cons, filterMap_notices,
    Step.request?, List.nil_append]

theorem requests_map (f : α → β) (call : Call α) :
    (call.map f).run.requests = call.run.requests := by
  cases call with
  | atOnce notices result => rw [map, requests_atOnce, requests_atOnce]
  | waiting opening request closing result => rw [map, requests_waiting, requests_waiting]

/-! ## Two questions -/

/-- Whether a question fails without a wait. -/
inductive FailsAtOnce : Call α → Prop where
  | atOnce (notices : List Notice) (e : FetchError) : FailsAtOnce (.atOnce notices (.error e))

theorem requests_both (a : Call α) (b : Call β) :
    (a.FailsAtOnce ∨ b.FailsAtOnce → (a.both b).requests = []) ∧
      (¬ (a.FailsAtOnce ∨ b.FailsAtOnce) →
        (a.both b).requests = a.run.requests ++ b.run.requests) := by
  have hsaid {γ : Type} (notices : List Notice) (result : Except FetchError γ) :
      (Run.said notices result).requests = [] := filterMap_notices notices
  cases a with
  | atOnce notices result =>
    cases result with
    | error e => exact ⟨fun _ => hsaid notices _, fun h => absurd (.inl (.atOnce notices e)) h⟩
    | ok x =>
      have hrequests : ((atOnce notices (.ok x)).both b).requests = b.run.requests := by
        simp only [both, Run.requests, List.filterMap_append, filterMap_notices, List.nil_append]
      rw [hrequests, requests_atOnce, List.nil_append]
      refine ⟨?_, fun _ => rfl⟩
      rintro (h | ⟨notices, e⟩)
      · cases h
      · exact requests_atOnce notices _
  | waiting opening request closing result =>
    have hwaits : ¬ (waiting opening request closing result).FailsAtOnce := nofun
    rw [requests_waiting]
    cases b with
    | atOnce notices result' =>
      cases result' with
      | error e => exact ⟨fun _ => hsaid _ _, fun h => absurd (.inr (.atOnce notices e)) h⟩
      | ok y =>
        have hready : ¬ (atOnce notices (.ok y) : Call β).FailsAtOnce := nofun
        refine ⟨fun h => absurd h (not_or.2 ⟨hwaits, hready⟩), fun _ => ?_⟩
        rw [requests_atOnce, List.append_nil]
        exact requests_waiting (opening ++ notices) request closing result
    | waiting opening' request' closing' result' =>
      have hwaits' : ¬ (waiting opening' request' closing' result').FailsAtOnce := nofun
      refine ⟨fun h => absurd h (not_or.2 ⟨hwaits, hwaits'⟩), fun _ => ?_⟩
      rw [requests_waiting]
      simp only [both, Run.requests, List.filterMap_append, List.filterMap_cons, filterMap_notices,
        Step.request?, List.nil_append, List.singleton_append]

theorem paired_eq_ok_iff {x : Except FetchError α} {y : Except FetchError β} {a : α} {b : β} :
    paired x y = .ok (a, b) ↔ x = .ok a ∧ y = .ok b := by
  cases x with
  | error e => simp [paired]
  | ok x =>
    cases y with
    | error e => simp [paired]
    | ok y => simp [paired]

theorem error_of_paired {x : Except FetchError α} {y : Except FetchError β} {e : FetchError}
    (h : paired x y = .error e) : x = .error e ∨ y = .error e := by
  cases x with
  | error e' => exact .inl (congrArg _ (Except.error.inj h))
  | ok x =>
    cases y with
    | error e' => exact .inr (congrArg _ (Except.error.inj h))
    | ok y => cases h

/-- The results are paired, unless the second question fails while the first one waits. -/
theorem result_both (a : Call α) (b : Call β) :
    (a.both b).result = paired a.result b.result ∨
      ∃ e, b.result = .error e ∧ (a.both b).result = .error e := by
  cases a with
  | atOnce notices result =>
    cases result with
    | error e => exact .inl rfl
    | ok x => exact .inl (congrArg (paired (.ok x)) b.result_run)
  | waiting opening request closing result =>
    cases b with
    | atOnce notices result' =>
      cases result' with
      | error e => exact .inr ⟨e, rfl, rfl⟩
      | ok y => exact .inl rfl
    | waiting opening' request' closing' result' => exact .inl rfl

theorem both_eq_ok_iff {a : Call α} {b : Call β} {x : α} {y : β} :
    (a.both b).result = .ok (x, y) ↔ a.result = .ok x ∧ b.result = .ok y := by
  rcases result_both a b with h | ⟨e, hb, h⟩
  · rw [h, paired_eq_ok_iff]
  · rw [h, hb]
    simp

/-- A question that fails at once settles the result, whatever the first one waits for. -/
theorem result_both_atOnce_error {a : Call α} (notices : List Notice) {e : FetchError}
    (h : a.FailsAtOnce → a.result = .error e) :
    (a.both (.atOnce notices (.error e) : Call β)).result = .error e := by
  cases a with
  | atOnce notices' result =>
    cases result with
    | error e' =>
      have hsame : (Except.error e' : Except FetchError α) = .error e := h (.atOnce notices' e')
      rw [Except.error.inj hsame]
      rfl
    | ok x => rfl
  | waiting opening request closing result => rfl

theorem error_of_both {a : Call α} {b : Call β} {e : FetchError}
    (h : (a.both b).result = .error e) : a.result = .error e ∨ b.result = .error e := by
  rcases result_both a b with hpaired | ⟨e', hb, hboth⟩
  · exact error_of_paired (hpaired.symm.trans h)
  · rw [hboth, Except.error.injEq] at h
    exact .inr (h ▸ hb)

end Call
end Scoreline
