import Scoreline.Proofs.Feed.Distinct

/-!
# Scoreline.Proofs.Feed.Category

A category goes into the query of a request, and changes nothing else of it. `Url.formPairs` reads a
query as forms are read, by rules that pass nothing by: it takes any text and makes the best of what is
badly encoded. What a request for a category has in its query is one pair for it, whatever characters
the category has (`formPairs_extendQuery`).

`category_in_query` states this for every base without a query and a fragment. At a base with a blank
right behind the host there is no request at all (`category_not_sent`), and none anywhere for a category
that is too long.
-/

namespace Scoreline

namespace Url

/-- The text of a name or of a value in a form. -/
def formText (s : List Char) : String := Text.decode (decode (s.map spaceOfPlus))

/-- The name and the value in a part of a form. A part without an equals sign is a name. -/
def formPair (part : List Char) : String × String :=
  let (name, value) := Text.cut '=' part
  (formText name, formText value)

/-- The pairs of a form. Parts without a character are none. -/
def formPairs (query : List Char) : List (String × String) :=
  ((Text.splitBy (· == '&') query).filter (!·.isEmpty)).map formPair

theorem formText_formEncode (s : String) : formText (formEncode s.toList) = s := by
  rw [formText, decode_formEncode, Text.decode_bytes, String.ofList_toList]

theorem formPair_pairChars (p : String × String) : formPair (Address.pairChars p) = p := by
  rw [formPair, Address.cut_pairChars]
  simp only [formText_formEncode]

theorem filter_pairChars (ps : List (String × String)) :
    (ps.map Address.pairChars).filter (!·.isEmpty) = ps.map Address.pairChars := by
  refine List.filter_eq_self.2 fun part hpart => ?_
  obtain ⟨p, -, rfl⟩ := List.mem_map.1 hpart
  simp [Address.pairChars]

/-- The pairs that are put into a query are those of the form. -/
theorem formPairs_extendQuery (ps : List (String × String)) :
    formPairs (Address.extendQuery [] ps) = ps := by
  have hid : formPair ∘ Address.pairChars = id := funext formPair_pairChars
  cases ps with
  | nil => rfl
  | cons p ps =>
    rw [formPairs, Address.extendQuery_nil_cons, Question.splitBy_pairs, filter_pairChars,
      List.map_map, hid, List.map_id]

end Url

/-- A request that asks the same with a query. -/
def Http.Request.withQuery (r : Http.Request) (query : List Char) : Http.Request :=
  { r with target := r.target ++ String.ofList ('?' :: query) }

namespace Client

variable {c : Client}

/-- The requests for the progression of the team, in one category or in all. -/
def teamRequests (c : Client) (server : Http.Server) (category : Option String) :
    List Http.Request :=
  ((c.feed server).teamProgression category).run.requests

theorem isPathEnd_mount {root : Root} (h : c.root? = some root) :
    ∀ ch ∈ root.mount, Url.Address.isPathEnd ch = false := by
  obtain ⟨a, -, -, -, rfl⟩ := root?_eq_some h
  exact fun ch hch => a.isPathEnd_path ch (List.dropLast_subset a.path hch)

/-- The request for the progression of the team at a root, in all categories. -/
def teamRequest (c : Client) (root : Root) : Http.Request :=
  root.request c.cookie "api/v1/team/score_progression".toList []

section Team

variable (server : Http.Server)

theorem isSettled_teamPath :
    Url.Address.IsSettled "api/v1/team/score_progression".toList :=
  Url.Address.isSettled_of_isPathChar Source.isPathChar_teamPath

theorem isPathEnd_teamRequest {root : Root} (h : c.root? = some root) :
    ∀ ch ∈ (c.teamRequest root).target.toList, Url.Address.isPathEnd ch = false := by
  rw [teamRequest, Root.request, String.toList_ofList,
    Url.Address.spelled_of_isPathChar Source.isPathChar_teamPath, Url.Address.queryPart,
    List.append_nil]
  exact List.forall_mem_append.2
    ⟨isPathEnd_mount h, List.forall_mem_cons.2 ⟨rfl, isSettled_teamPath.ends⟩⟩

theorem teamRequests_none {root : Root} (h : c.root? = some root) :
    c.teamRequests server none = (c.teamRequest root).sent := by
  rw [teamRequests, requests_teamProgression]
  exact toList_request?_of_root h Source.toList_teamPath isSettled_teamPath []

/-- What a category adds to a request is a query. -/
theorem teamRequests_some {root : Root} (h : c.root? = some root) (category : String) :
    c.teamRequests server (some category) =
      ((c.teamRequest root).withQuery (Url.Address.pairChars ("category", category))).sent := by
  rw [teamRequests, requests_teamProgression,
    toList_request?_of_root h Source.toList_teamPath isSettled_teamPath]
  simp only [teamRequest, Root.request, Source.pairs, Option.toList_some, List.map_cons,
    List.map_nil, Url.Address.queryPart, Url.Address.extendQuery_nil_cons, List.flatMap_nil,
    List.append_nil, Http.Request.withQuery, String.ofList_append]

theorem teamRequests_of_no_root {config : ClientConfig} (h : make config = .ok c)
    (hfree : ∀ ch ∈ c.base.toList, Url.Address.isPathEnd ch = false) (hroot : c.root? = none)
    (category : Option String) : c.teamRequests server category = [] := by
  rw [teamRequests, requests_teamProgression]
  cases hrequest : c.request? Source.teamPath (Source.pairs (.team category)) with
  | none => rfl
  | some request =>
    obtain ⟨root, hsome⟩ :=
      root?_of_request? h hfree Source.toList_teamPath isSettled_teamPath hrequest
    rw [hroot] at hsome
    cases hsome

end Team

end Client

/-- At a base without a query and a fragment, a request for a category is the one for all categories
with a query behind its target, which had none. Read as a form the query is one pair, of the category's
name and the category. Each request is sent if it fits. A client without a root sends none; there is
a root if the base does not end in a blank. Requests for different categories have different targets, and
none of them has that of the request for all. -/
theorem category_in_query {config : ClientConfig} {c : Client} (h : Client.make config = .ok c)
    (hfree : ∀ ch ∈ config.baseUrl.toList, Url.Address.isPathEnd ch = false)
    (server : Http.Server) :
    (∀ root, c.root? = some root →
      (∀ ch ∈ (c.teamRequest root).target.toList, Url.Address.isPathEnd ch = false) ∧
        c.teamRequests server none = (c.teamRequest root).sent ∧
        ∀ category, let query := Url.Address.pairChars ("category", category)
          '#' ∉ query ∧ Url.formPairs query = [("category", category)] ∧
          c.teamRequests server (some category) = ((c.teamRequest root).withQuery query).sent) ∧
    (c.root? = none → ∀ category, c.teamRequests server category = []) ∧
    ((∀ ch ∈ c.base.toList.getLast?, Url.isOuter ch = false) → ∃ root, c.root? = some root) ∧
    ∀ category₁ category₂, category₁ ≠ category₂ →
      ∀ request₁ ∈ c.teamRequests server category₁, ∀ request₂ ∈ c.teamRequests server category₂,
        request₁.target ≠ request₂.target := by
  have hbase := Client.isPathEnd_base h hfree
  refine ⟨fun root hroot => ⟨?_, ?_, fun category => ⟨?_, ?_, ?_⟩⟩, fun hroot => ?_,
    Client.root?_of_make h hbase, fun category₁ category₂ hne => ?_⟩
  · exact Client.isPathEnd_teamRequest hroot
  · exact Client.teamRequests_none server hroot
  · exact Url.Address.not_mem_pairChars (by decide) (by decide) _
  · have hpairs := Url.formPairs_extendQuery [("category", category)]
    rwa [Url.Address.extendQuery_nil_cons, List.flatMap_nil, List.append_nil] at hpairs
  · exact Client.teamRequests_some server hroot category
  · exact Client.teamRequests_of_no_root server h hbase hroot
  · intro request₁ h₁ request₂ h₂ htarget
    have hput (category : Option String) :
        (Source.team category).question.PutBy Source.teamPath (Source.pairs (.team category)) :=
      have hfits : (Source.team category).FitsSegment := trivial
      Source.putBy hfits
    have hquestion : (Source.team category₁).question ≠ (Source.team category₂).question :=
      fun heq => hne (Question.team.inj heq)
    rw [Client.teamRequests, Client.requests_teamProgression] at h₁ h₂
    exact Client.target_ne h hbase (hput category₁) (hput category₂) hquestion request₁.target
      (List.mem_map_of_mem h₁) (htarget ▸ List.mem_map_of_mem h₂)

/-- A category made of marks that mean something in a query, and one without a character. -/
theorem category_in_query_marks :
    let config : ClientConfig := .ofBaseUrl "http://[::1]:8000/a/"
    let c : Client := ⟨"http://[::1]:8000/a", none⟩
    let root : Root :=
      ⟨"http", some ⟨[], .ipv6 [0, 0, 0, 0, 0, 0, 0, 1], some 8000⟩, "/a".toList⟩
    Client.make config = .ok c ∧
      (∀ ch ∈ config.baseUrl.toList, Url.Address.isPathEnd ch = false) ∧ c.root? = some root ∧
      ∀ server, c.teamRequests server (some "&category=#%2B+ é") =
          [(c.teamRequest root).withQuery
            "category=%26category%3D%23%252B%2B+%C3%A9".toList] ∧
        ∀ request₁ ∈ c.teamRequests server (some ""), ∀ request₂ ∈ c.teamRequests server none,
          request₁.target ≠ request₂.target := by
  have hmake : Client.make (.ofBaseUrl "http://[::1]:8000/a/") =
      .ok ⟨"http://[::1]:8000/a", none⟩ :=
    ok_of_toOption (by decide +kernel)
  have hfree : ∀ ch ∈ "http://[::1]:8000/a/".toList, Url.Address.isPathEnd ch = false :=
    Text.free_of_all (by decide)
  have hroot : Client.root? ⟨"http://[::1]:8000/a", none⟩ =
      some ⟨"http", some ⟨[], .ipv6 [0, 0, 0, 0, 0, 0, 0, 1], some 8000⟩, "/a".toList⟩ := by
    decide +kernel
  have hquery : Url.Address.pairChars ("category", "&category=#%2B+ é") =
      "category=%26category%3D%23%252B%2B+%C3%A9".toList := by decide +kernel
  have hroom : ((Client.teamRequest ⟨"http://[::1]:8000/a", none⟩
      ⟨"http", some ⟨[], .ipv6 [0, 0, 0, 0, 0, 0, 0, 1], some 8000⟩, "/a".toList⟩).withQuery
        "category=%26category%3D%23%252B%2B+%C3%A9".toList).fits [] = true := by decide +kernel
  intro config c root
  refine ⟨hmake, hfree, hroot, fun server => ?_⟩
  obtain ⟨hroots, -, -, hdiffer⟩ := category_in_query hmake hfree server
  obtain ⟨-, -, hsome⟩ := hroots root hroot
  obtain ⟨-, -, hsent⟩ := hsome "&category=#%2B+ é"
  rw [hquery, Http.Request.sent, if_pos hroom] at hsent
  exact ⟨hsent, hdiffer (some "") none (by decide)⟩

/-- A blank behind a host and a port is no part of the address that a client is made for, and yet what
stands before a path. No request is made there, for a category or without one. -/
theorem category_not_sent :
    let config : ClientConfig := .ofBaseUrl "http://127.0.0.1:1 "
    let c : Client := ⟨"http://127.0.0.1:1 ", none⟩
    Client.make config = .ok c ∧
      (∀ ch ∈ config.baseUrl.toList, Url.Address.isPathEnd ch = false) ∧
      ∀ server category, c.teamRequests server category = [] := by
  intro config c
  refine ⟨ok_of_toOption (by decide +kernel), Text.free_of_all (by decide),
    fun server category => ?_⟩
  have haddress : (Url.Address.parse (c.url Source.teamPath)).toOption = none := by decide +kernel
  rw [Client.teamRequests, Client.requests_teamProgression, Client.request?]
  cases hparse : Url.Address.parse (c.url Source.teamPath) with
  | error e => rfl
  | ok a =>
    rw [hparse] at haddress
    cases haddress

end Scoreline
