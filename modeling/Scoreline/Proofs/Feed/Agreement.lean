import Scoreline.Feed.Dump
import Scoreline.Proofs.Event
import Scoreline.Proofs.Feed.Root

/-!
# Scoreline.Proofs.Feed.Agreement

A dump and a server that tells the same show the same, if the server can be asked at all.

`Client.Answered` says that a server answers one question of a client with a text, either by
answering the very request that the client makes or by reading, at the root of the client, what is
asked. `Client.get_result` takes such an answer apart: the request is made, the status is a success,
and the text is read as it was written. `Feed.snapshot_result` is what any feed makes of its
answers. `snapshot_eq_dump` puts the two together.

There is no request for an address that does not fit (`Client.Fits`): a server is not asked for a
category that is too long, while a dump does not care (`snapshot_of_long_category`).
-/

namespace Scoreline

open Json (Form)
open Text (utf8 bytes utf8_ofList bytes_nil bytes_cons bytes_append length_le_bytes)

/-! ## Feeds -/

namespace Feed

variable {feed : Feed} {source : Source}

theorem snapshot_result {now : Option Int64} {time : Int64} {p : Progressions}
    (hclock : now = none → feed.status.result = .ok ⟨time⟩)
    (hp : (feed.progressions source).result = .ok p) :
    (feed.snapshot source now).result = .ok ⟨now.getD time, p⟩ := by
  cases now with
  | some now =>
    rw [← Call.result_run] at hp
    simp only [snapshot, Run.andThen, hp, Run.said, Option.getD_some]
  | none =>
    have hboth := Call.both_eq_ok_iff.2 ⟨hclock rfl, hp⟩
    simp only [snapshot, Run.andThen, hboth, Run.said, Option.getD_none]

theorem points_result {shot : Snapshot} (h : (feed.snapshot source none).result = .ok shot)
    (s : Settings) :
    (feed.points source s).result =
      (s.points shot.progressions.eventSets (some shot.time)).mapError .fault := by
  simp only [points, Run.andThen, h, Run.said]

end Feed

/-! ## What is told of a source -/

/-- The progressions of a source, out of those of all teams and those of the team that asks. -/
def Source.progressions (teams : List Team) (events : List Event) : Source → Progressions
  | .ranking _ limit => .ranking (limit.elim teams fun n => teams.take n.toNat)
  | .team _ => .team events

/-- The text by which a platform tells progressions. -/
def Progressions.text : Progressions → String
  | .ranking teams => (Form.list Team.form).text teams
  | .team events => (Form.list Event.form).text events

theorem Source.length_statusPath_le (source : Source) {q : List Char}
    (h : source.path.toList = '/' :: q) : "api/v1/status".toList.length ≤ q.length := by
  have hlength := congrArg List.length h
  rw [List.length_cons] at hlength
  have hstatus : "api/v1/status".toList.length = 13 := rfl
  cases source with
  | ranking r limit =>
    have hend : "score_progressions".toList.length = 18 := rfl
    rw [path, r.toList_path] at hlength
    simp only [List.length_cons, List.length_append, hend] at hlength
    omega
  | team category =>
    have hteam : teamPath.toList.length = 30 := rfl
    rw [path, hteam] at hlength
    omega

theorem Dump.progressions_result {d : Dump} {teams : List Team} {events : List Event}
    (hteams : d.teams = some teams) (hteam : d.team = some events) (source : Source) :
    (d.feed.progressions source).result = .ok (source.progressions teams events) := by
  cases source with
  | ranking r limit =>
    have hresult : (d.feed.progressions (.ranking r limit)).result =
        ((part "teams" d.teams).map (limited limit)).map .ranking := rfl
    rw [hresult, hteams]
    cases limit with
    | none => rfl
    | some n => rfl
  | team category =>
    have hresult : (d.feed.progressions (.team category)).result =
        (part "team" d.team).map .team := rfl
    rw [hresult, hteam]
    rfl

/-! ## Answers -/

namespace Http.Request

/-- A request for a target that is no longer fits as well. -/
theorem fits_of_bytes_le {r r' : Request} (h : r.fits [] = true) (hscheme : r'.scheme = r.scheme)
    (hauthority : r'.authority = r.authority)
    (hbytes : (bytes r'.target.toList).length ≤ (bytes r.target.toList).length) :
    r'.fits [] = true := by
  simp only [fits, Bool.and_eq_true, decide_eq_true_eq, host, url, utf8_ofList, bytes_append,
    List.length_append] at h ⊢
  rw [hscheme, hauthority]
  exact ⟨by omega, h.2⟩

end Http.Request

namespace Client

/-- Whether the request for a path and pairs fits, where the path makes an address behind the
base. -/
def Fits (c : Client) (path : String) (pairs : List (String × String)) : Prop :=
  ∀ a, Url.Address.parse (c.url path) = .ok a →
    Http.Request.fits ⟨a.scheme, a.authority, a.target pairs, c.cookie⟩ a.fragment = true

/-- Whether a server answers `q`, for which the client asks by a path and pairs, with `text`. -/
inductive Answered (c : Client) (server : Http.Server) (path : String)
    (pairs : List (String × String)) (q : Question) (text : String) : Prop where
  /-- It answers the request that the client makes. -/
  | made (request : Http.Request) (hrequest : c.request? path pairs = some request)
      (hanswer : server request = some ⟨200, utf8 text⟩)
  /-- It answers whatever request asks `q` at the root of the client. -/
  | read (root : Root) (hroot : c.root? = some root)
      (hanswer : ∀ request, root.Asks c.cookie q request → server request = some ⟨200, utf8 text⟩)

variable {c : Client} {server : Http.Server} {path : String} {pairs : List (String × String)}
  {question : Question} {text : String}

theorem fits_of_request? {request : Http.Request} (h : c.request? path pairs = some request) :
    c.Fits path pairs := by
  intro a hparse
  rw [request?, hparse] at h
  split at h
  · cases h
  · rename_i heq
    cases heq
    dsimp only at h
    split at h
    · assumption
    · cases h

theorem request?_of_not_fits (h : ¬ c.Fits path pairs) : c.request? path pairs = none := by
  cases hrequest : c.request? path pairs with
  | none => rfl
  | some request => exact absurd (fits_of_request? hrequest) h

theorem fits_iff_of_root {q : List Char} (hpath : path.toList = '/' :: q)
    (hq : Url.Address.IsSettled q) {root : Root} (hroot : c.root? = some root) :
    c.Fits path pairs ↔ (root.request c.cookie q pairs).fits [] = true := by
  obtain ⟨a, hparse, hfragment, hrequest⟩ := parse_of_root hroot hpath hq pairs
  rw [← hrequest, ← hfragment]
  constructor
  · intro h
    exact h a hparse
  · intro h a' hparse'
    rw [hparse, Except.ok.injEq] at hparse'
    exact hparse' ▸ h

theorem Answered.exists_request (h : c.Answered server path pairs question text) {q : List Char}
    (hpath : path.toList = '/' :: q) (hq : ∀ ch ∈ q, Url.isPathChar ch = true)
    (hquestion : Question.ofSegments? pairs
      ((Text.splitBy (· == '/') ('/' :: q)).map String.ofList) = some question)
    (hfits : c.Fits path pairs) :
    ∃ request, c.request? path pairs = some request ∧ server request = some ⟨200, utf8 text⟩ := by
  cases h with
  | made request hrequest hanswer => exact ⟨request, hrequest, hanswer⟩
  | read root hroot hanswer =>
    have hsettled := Url.Address.isSettled_of_isPathChar hq
    have hroom := (fits_iff_of_root hpath hsettled hroot).1 hfits
    refine ⟨root.request c.cookie q pairs, ?_, hanswer _ (root.asks_request c.cookie hq hquestion)⟩
    rw [request?_of_root hroot hpath hsettled, if_pos hroom]

/-- A value that a server tells is what the client gets. -/
theorem get_result {α : Type} {form : Form α} (hform : form.Lawful) {a : α}
    {request : Http.Request} (hrequest : c.request? path pairs = some request)
    (hanswer : server request = some ⟨200, utf8 (form.text a)⟩) :
    (c.get server path pairs form).result = .ok a := by
  have hread : c.answer path form (some ⟨200, utf8 (form.text a)⟩) =
      ([], (form.parse (utf8 (form.text a))).mapError .json) := rfl
  rw [get, hrequest]
  simp only [hanswer, hread, hform.parse_text]
  rfl

theorem status_result {time : Int64}
    (h : c.Answered server statusPath [] .status (Status.form.text ⟨time⟩))
    (hfits : c.Fits statusPath []) : (c.feed server).status.result = .ok ⟨time⟩ := by
  obtain ⟨request, hrequest, hanswer⟩ :=
    h.exists_request toList_statusPath isPathChar_statusPath rfl hfits
  exact get_result Status.form_lawful hrequest hanswer

theorem progressions_result {source : Source} (hplain : source.IsPlain) {teams : List Team}
    {events : List Event}
    (h : c.Answered server source.path source.pairs source.question
      (source.progressions teams events).text)
    (hfits : c.Fits source.path source.pairs) :
    ((c.feed server).progressions source).result = .ok (source.progressions teams events) := by
  obtain ⟨q, hpath, hq, hquestion⟩ := source.path_spec hplain
  obtain ⟨request, hrequest, hanswer⟩ := h.exists_request hpath hq hquestion hfits
  cases source with
  | ranking r limit =>
    have hget : (c.get server r.path (Source.pairs (.ranking r limit)) (.list Team.form)).result =
        _ := get_result (Json.Form.list_lawful Team.form_lawful) hrequest hanswer
    exact (Call.result_map _ _).trans (congrArg (Except.map Progressions.ranking) hget)
  | team category =>
    have hget : (c.get server Source.teamPath (Source.pairs (.team category))
        (.list Event.form)).result = _ :=
      get_result (Json.Form.list_lawful Event.form_lawful) hrequest hanswer
    exact (Call.result_map _ _).trans (congrArg (Except.map Progressions.team) hget)

/-- Where there is room for what is asked of a source, there is room for the question for the clock:
no path is shorter than that of the status. -/
theorem Answered.fits_status {source : Source} (hplain : source.IsPlain)
    (hfits : c.Fits source.path source.pairs)
    (h : c.Answered server statusPath [] .status text) : c.Fits statusPath [] := by
  cases h with
  | made request hrequest hanswer => exact fits_of_request? hrequest
  | read root hroot hanswer =>
    obtain ⟨q, hpath, hq, -⟩ := source.path_spec hplain
    have hroom := (fits_iff_of_root hpath (Url.Address.isSettled_of_isPathChar hq) hroot).1 hfits
    rw [fits_iff_of_root toList_statusPath
      (Url.Address.isSettled_of_isPathChar isPathChar_statusPath) hroot]
    refine Http.Request.fits_of_bytes_le hroom rfl rfl ?_
    have hbytes : (bytes "api/v1/status".toList).length ≤ (bytes q).length :=
      Nat.le_trans (source.length_statusPath_le hpath) (length_le_bytes q)
    simp only [Root.request, String.toList_ofList,
      Url.Address.spelled_of_isPathChar isPathChar_statusPath,
      Url.Address.spelled_of_isPathChar hq, Url.Address.queryPart, bytes_append, bytes_cons,
      bytes_nil, List.length_append, List.length_nil]
    omega

/-! ## Nothing to ask -/

theorem result_of_failsAtOnce {α : Type} {form : Form α}
    (h : (c.get server path pairs form).FailsAtOnce) :
    (c.get server path pairs form).result = .error .transport := by
  rw [get] at h ⊢
  split
  · rfl
  · rename_i request hrequest
    rw [hrequest] at h
    cases h

/-- Without a request for the progressions a snapshot fails, and the clock is not asked either. -/
theorem snapshot_of_no_request {source : Source} (h : c.request? source.path source.pairs = none)
    (now : Option Int64) :
    ((c.feed server).snapshot source now).result = .error .transport ∧
      ((c.feed server).snapshot source now).requests = [] := by
  have hprogressions : (c.feed server).progressions source =
      .atOnce [c.askedNotice source.path] (.error .transport) := by
    cases source with
    | ranking r limit =>
      have hget : c.get server r.path (Source.pairs (.ranking r limit)) (.list Team.form) =
          .atOnce [c.askedNotice r.path] (.error .transport) := by
        rw [Source.path] at h
        rw [get, h]
      exact congrArg (Call.map Progressions.ranking) hget
    | team category =>
      have hget : c.get server Source.teamPath (Source.pairs (.team category)) (.list Event.form) =
          .atOnce [c.askedNotice Source.teamPath] (.error .transport) := by
        rw [Source.path] at h
        rw [get, h]
      exact congrArg (Call.map Progressions.team) hget
  cases now with
  | some now =>
    rw [Feed.snapshot, hprogressions, Run.andThen_error rfl]
    exact ⟨rfl, rfl⟩
  | none =>
    have hfails : ((c.feed server).progressions source).FailsAtOnce := by
      rw [hprogressions]
      exact .atOnce _ _
    have hboth : ((c.feed server).status.both ((c.feed server).progressions source)).result =
        .error .transport := by
      rw [hprogressions]
      exact Call.result_both_atOnce_error _ result_of_failsAtOnce
    rw [Feed.snapshot, Run.andThen_error hboth]
    exact ⟨rfl, (Call.requests_both _ _).1 (.inr hfails)⟩

end Client

/-- There is no request for a category that is longer than any address of a request. -/
theorem Client.request?_of_long_category {c : Client} {root : Root} (h : c.root? = some root)
    {category : String} (hlong : Http.Request.longestUrl < category.toList.length) :
    c.request? (Source.path (.team (some category))) (Source.pairs (.team (some category))) =
      none := by
  have hencoded := Url.length_le_formEncode category.toList
  have hbytes := length_le_bytes (Url.formEncode category.toList)
  rw [Source.path, request?_of_root h Source.toList_teamPath
    (Url.Address.isSettled_of_isPathChar Source.isPathChar_teamPath), if_neg]
  simp only [Http.Request.fits, Http.Request.url, Root.request, String.toList_ofList,
    Source.pairs, Option.toList_some, List.map_cons, List.map_nil, Url.Address.queryPart,
    Url.Address.extendQuery_nil_cons, Url.Address.pairChars, utf8_ofList, bytes_append, bytes_cons,
    List.length_append, Bool.and_eq_true, decide_eq_true_eq]
  omega

end Scoreline
