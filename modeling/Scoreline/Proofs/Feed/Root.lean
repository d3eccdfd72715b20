import Scoreline.Proofs.Feed.Call
import Scoreline.Proofs.Feed.Question

/-!
# Scoreline.Proofs.Feed.Root

Where the platform of a client is: the scheme and the host of the client's base, and the mount that
all paths of its requests begin with. `Client.root?` finds it, and fails where a path put behind the
base would not be the end of the path of an address.

* `Client.root?_of_make` — every client has a root whose base is the web address that it was made
  for, without a query, a fragment or a blank at its end. With a blank there it may have none; then
  it makes no request either (`Client.root?_of_request?`).
* `Client.request?_of_root` — every request goes to the root, with its path behind the mount
  (`Root.request`). It is made if it fits, and only then.
* `Root.asks_request` — it asks there what is written into its path and its pairs.
-/

namespace Scoreline

structure Root where
  scheme : String
  authority : Option Url.Authority
  mount : List Char
  deriving DecidableEq, Repr

/-- Whether a request that shows `cookie` goes to the root and asks `q` there. -/
structure Root.Asks (root : Root) (cookie : Option String) (q : Question) (request : Http.Request) :
    Prop where
  scheme : request.scheme = root.scheme
  authority : request.authority = root.authority
  shown : request.cookie = cookie
  asked : Question.ofTarget? root.mount request.target = some q

/-- The request for a path, given without its first slash, and pairs behind the mount. -/
def Root.request (root : Root) (cookie : Option String) (q : List Char)
    (pairs : List (String × String)) : Http.Request :=
  ⟨root.scheme, root.authority,
    String.ofList (root.mount ++ Url.Address.spelled q ++ Url.Address.queryPart pairs), cookie⟩

/-- The request, if one is made for its address. -/
def Http.Request.sent (r : Http.Request) : List Http.Request := if r.fits [] then [r] else []

theorem Http.Request.mem_sent {r r' : Http.Request} (h : r' ∈ r.sent) : r' = r := by
  rw [sent] at h
  split at h
  · exact List.mem_singleton.1 h
  · cases h

/-- The targets of the requests that a question is put in. -/
def Call.targets {α : Type} (call : Call α) : List String := call.run.requests.map (·.target)

theorem Call.targets_of_fits {α : Type} {call : Call α} {r : Http.Request}
    (h : call.run.requests = r.sent) (hfits : r.fits [] = true) : call.targets = [r.target] := by
  rw [targets, h, Http.Request.sent, if_pos hfits, List.map_singleton]

/-- What makes a successful result decidable: what it would have failed with is not compared. -/
theorem ok_of_toOption {ε α : Type} {x : Except ε α} {a : α} (h : x.toOption = some a) :
    x = .ok a := by
  cases x with
  | error e => cases h
  | ok b =>
    rw [Except.toOption, Option.some.injEq] at h
    rw [h]

/-- The request for a path asks what the platform reads in the path and the pairs. -/
theorem Root.asks_request (root : Root) (cookie : Option String) {q : List Char}
    (hq : ∀ ch ∈ q, Url.isPathChar ch = true) {pairs : List (String × String)}
    {question : Question} (hquestion : Question.ofSegments? pairs
      ((Text.splitBy (· == '/') ('/' :: q)).map String.ofList) = some question) :
    root.Asks cookie question (root.request cookie q pairs) where
  scheme := rfl
  authority := rfl
  shown := rfl
  asked := by
    have hmark : '?' ∉ '/' :: q := by
      intro hmem
      rcases List.mem_cons.1 hmem with heq | hmem
      · cases heq
      · exact absurd (hq '?' hmem) (by decide)
    rw [request, Url.Address.spelled_of_isPathChar hq, Question.ofTarget?_append root.mount hmark,
      hquestion]

namespace Client

/-- The root of the platform at the base of a client. -/
def root? (c : Client) : Option Root :=
  match Url.Address.parse (c.base ++ "/") with
  | .error _ => none
  | .ok a =>
    if (a.scheme = "http" ∨ a.scheme = "https") ∧ a.rest.all (!Url.Address.isPathEnd ·) then
      some ⟨a.scheme, a.authority, a.path.dropLast⟩
    else none

theorem ofName_of_web {scheme : String} (h : scheme = "http" ∨ scheme = "https") :
    Url.SchemeKind.ofName scheme = .web := by
  rcases h with rfl | rfl
  · decide
  · decide

theorem root?_eq_some {c : Client} {root : Root} (h : c.root? = some root) :
    ∃ a, Url.Address.parse (c.base ++ "/") = .ok a ∧ Url.SchemeKind.ofName a.scheme = .web ∧
      (∀ ch ∈ a.rest, Url.Address.isPathEnd ch = false) ∧
      root = ⟨a.scheme, a.authority, a.path.dropLast⟩ := by
  rw [root?] at h
  split at h
  · cases h
  · rename_i a hparse
    split at h
    · rename_i hcond
      cases h
      exact ⟨a, hparse, ofName_of_web hcond.1, Text.free_of_all hcond.2, rfl⟩
    · cases h

/-- The base of a client is that of its configuration but for slashes at the end, and an address of
the web. -/
theorem base_of_make {config : ClientConfig} {c : Client} (h : make config = .ok c) :
    c.base = withoutEndSlashes config.baseUrl ∧
      ∃ a, Url.Address.parse c.base = .ok a ∧ (a.scheme = "http" ∨ a.scheme = "https") := by
  rw [make] at h
  split at h
  · cases h
  · rename_i a hparse
    split at h
    · rename_i hscheme
      split at h
      · cases h
        exact ⟨rfl, a, hparse, hscheme⟩
      · cases h
    · cases h

/-- A base has no mark of a query or a fragment that its configuration does not have. -/
theorem isPathEnd_base {config : ClientConfig} {c : Client} (h : make config = .ok c)
    (hfree : ∀ ch ∈ config.baseUrl.toList, Url.Address.isPathEnd ch = false) :
    ∀ ch ∈ c.base.toList, Url.Address.isPathEnd ch = false := by
  intro ch hch
  rw [(base_of_make h).1, withoutEndSlashes, String.toList_ofList, List.mem_reverse] at hch
  exact hfree ch (List.mem_reverse.1 ((List.dropWhile_suffix _).subset hch))

theorem root?_of_parse {c : Client}
    (hfree : ∀ ch ∈ c.base.toList, Url.Address.isPathEnd ch = false) {a : Url.Address}
    (hparse : Url.Address.parse (c.base ++ "/") = .ok a)
    (hscheme : a.scheme = "http" ∨ a.scheme = "https") :
    c.root? = some ⟨a.scheme, a.authority, a.path.dropLast⟩ := by
  have hrest : a.rest.all (!Url.Address.isPathEnd ·) = true := by
    refine List.all_eq_true.2 fun ch hch => ?_
    rw [Bool.not_eq_true']
    have hmem := Url.Address.mem_of_mem_rest hparse (ofName_of_web hscheme) ch hch
    rw [String.toList_append, Url.Address.toList_slash, List.mem_append] at hmem
    rcases hmem with hmem | hmem
    · exact hfree ch hmem
    · rw [List.mem_singleton.1 hmem]
      rfl
  rw [root?, hparse]
  exact if_pos ⟨hscheme, hrest⟩

section Free

variable {config : ClientConfig} {c : Client} (h : make config = .ok c)
  (hfree : ∀ ch ∈ c.base.toList, Url.Address.isPathEnd ch = false)
include h hfree

/-- A client has a root if its base has no query and no fragment and does not end in a blank. -/
theorem root?_of_make (hlast : ∀ ch ∈ c.base.toList.getLast?, Url.isOuter ch = false) :
    ∃ root, c.root? = some root := by
  obtain ⟨-, a, hparse, hscheme⟩ := base_of_make h
  exact ⟨_, root?_of_parse hfree
    (Url.Address.parse_snoc hparse (ofName_of_web hscheme) hlast) hscheme⟩

/-- A client without a query and a fragment in its base has a root if it makes any request. -/
theorem root?_of_request? {path : String} {q : List Char} (hpath : path.toList = '/' :: q)
    (hq : Url.Address.IsSettled q) {pairs : List (String × String)} {request : Http.Request}
    (hrequest : c.request? path pairs = some request) : ∃ root, c.root? = some root := by
  obtain ⟨-, a₀, h₀, hscheme₀⟩ := base_of_make h
  rw [request?] at hrequest
  split at hrequest
  · cases hrequest
  · rename_i a hparse
    obtain ⟨a', hslash, hscheme⟩ :=
      Url.Address.parse_slash_of_put h₀ (ofName_of_web hscheme₀) hpath hq hparse
    exact ⟨_, root?_of_parse hfree hslash (by rwa [hscheme])⟩

end Free

/-- A path behind the base makes the address of a request to the root, with the path in normal form
behind the mount. -/
theorem parse_of_root {c : Client} {root : Root} (h : c.root? = some root) {path : String}
    {q : List Char} (hpath : path.toList = '/' :: q) (hq : Url.Address.IsSettled q)
    (pairs : List (String × String)) :
    ∃ a, Url.Address.parse (c.url path) = .ok a ∧ a.fragment = [] ∧
      ⟨a.scheme, a.authority, a.target pairs, c.cookie⟩ = root.request c.cookie q pairs := by
  obtain ⟨a, hparse, hweb, hfree, rfl⟩ := root?_eq_some h
  obtain ⟨r, hr, happend⟩ := Url.Address.parse_append hparse hweb
  have hrfree : ∀ ch ∈ r, Url.Address.isPathEnd ch = false := fun ch hch =>
    hfree ch (by rw [hr]; exact List.mem_append_left _ hch)
  obtain ⟨mount, hmount⟩ := Url.Address.path_append hrfree
  -- the mount was found with an empty path behind it
  have hroot : a.path.dropLast = mount := by
    obtain ⟨scheme, authority, rest⟩ := a
    dsimp only at hr
    rw [hr, hmount scheme authority [] Url.Address.isSettled_nil,
      Url.Address.spelled_of_isPathChar (by simp), List.dropLast_concat]
  have hends : ∀ ch ∈ r ++ '/' :: q, Url.Address.isPathEnd ch = false :=
    List.forall_mem_append.2 ⟨hrfree, List.forall_mem_cons.2 ⟨rfl, hq.ends⟩⟩
  have hquery : Url.Address.query ⟨a.scheme, a.authority, r ++ '/' :: q⟩ = none :=
    Url.Address.query_eq_none hends
  refine ⟨_, happend path q hpath hq, Url.Address.fragment_eq_nil hends, ?_⟩
  rw [Url.Address.target_of_query_none hquery, hmount a.scheme a.authority q hq, hroot]
  rfl

theorem request?_of_root {c : Client} {root : Root} (h : c.root? = some root) {path : String}
    {q : List Char} (hpath : path.toList = '/' :: q) (hq : Url.Address.IsSettled q)
    (pairs : List (String × String)) :
    c.request? path pairs =
      if (root.request c.cookie q pairs).fits [] then some (root.request c.cookie q pairs)
      else none := by
  obtain ⟨a, hparse, hfragment, hrequest⟩ := parse_of_root h hpath hq pairs
  rw [request?, hparse]
  simp only [hfragment, hrequest]

/-- What is asked at the root is sent if it fits. -/
theorem toList_request?_of_root {c : Client} {root : Root} (h : c.root? = some root) {path : String}
    {q : List Char} (hpath : path.toList = '/' :: q) (hq : Url.Address.IsSettled q)
    (pairs : List (String × String)) :
    (c.request? path pairs).toList = (root.request c.cookie q pairs).sent := by
  rw [request?_of_root h hpath hq, Http.Request.sent]
  split
  · rfl
  · rfl

/-! ## Requests of questions -/

/-- A question is put in one request, if there is one for its address. -/
theorem requests_get {α : Type} (c : Client) (server : Http.Server) (path : String)
    (pairs : List (String × String)) (form : Json.Form α) :
    (c.get server path pairs form).run.requests = (c.request? path pairs).toList := by
  rw [get]
  split
  · rename_i h
    rw [h, Call.requests_atOnce, Option.toList_none]
  · rename_i request h
    rw [h, Call.requests_waiting, Option.toList_some]

theorem requests_status (c : Client) (server : Http.Server) :
    (c.feed server).status.run.requests = (c.request? statusPath []).toList :=
  c.requests_get server statusPath [] Status.form

theorem requests_topTeams (c : Client) (server : Http.Server) (r : Ranking)
    (limit : Option UInt32) :
    ((c.feed server).topTeams r limit).run.requests =
      (c.request? r.path (Source.pairs (.ranking r limit))).toList :=
  c.requests_get server r.path _ (.list Team.form)

theorem requests_teamProgression (c : Client) (server : Http.Server) (category : Option String) :
    ((c.feed server).teamProgression category).run.requests =
      (c.request? Source.teamPath (Source.pairs (.team category))).toList :=
  c.requests_get server Source.teamPath _ (.list Event.form)

theorem requests_progressions (c : Client) (server : Http.Server) (source : Source) :
    ((c.feed server).progressions source).run.requests =
      (c.request? source.path source.pairs).toList := by
  cases source with
  | ranking r limit =>
    rw [Feed.progressions, Call.requests_map, requests_topTeams, Source.path]
  | team category =>
    rw [Feed.progressions, Call.requests_map, requests_teamProgression, Source.path]

theorem targets_status (c : Client) (server : Http.Server) :
    (c.feed server).status.targets = (c.request? statusPath []).toList.map (·.target) := by
  rw [Call.targets, requests_status]

theorem targets_topTeams (c : Client) (server : Http.Server) (r : Ranking) :
    ((c.feed server).topTeams r none).targets = (c.request? r.path []).toList.map (·.target) := by
  rw [Call.targets, requests_topTeams]
  rfl

theorem targets_progressions (c : Client) (server : Http.Server) (source : Source) :
    ((c.feed server).progressions source).targets =
      (c.request? source.path source.pairs).toList.map (·.target) := by
  rw [Call.targets, requests_progressions]

end Client

end Scoreline
