import Scoreline.Proofs.Feed.Root

/-!
# Scoreline.Proofs.Feed.Mount

Where the requests of a client go, told by the base that it was made for: to the scheme and the host
of the base, and there to the path of the base without the slashes at its end, followed by the path
of the request (`requests_behind_base`).

The base is made an address by itself, but a path is put behind its text. So it matters how the text
ends: behind a query or a fragment a path is part of that, and behind a blank or a slash in disguise
there is more before it than the path of the base (`paths_misplaced`).
-/

namespace Scoreline

open Url (Address)

/-! ## Slashes at the end -/

namespace Client

theorem exists_slashes (s : String) :
    ∃ n, s.toList = (withoutEndSlashes s).toList ++ List.replicate n '/' := by
  have hslashes : s.toList.reverse.takeWhile (· == '/') =
      List.replicate (s.toList.reverse.takeWhile (· == '/')).length '/' :=
    List.eq_replicate_of_mem fun c hc =>
      beq_iff_eq.1 (List.all_eq_true.1 List.all_takeWhile c hc)
  have hsplit := List.takeWhile_append_dropWhile (p := (· == '/')) (l := s.toList.reverse)
  rw [hslashes] at hsplit
  refine ⟨(s.toList.reverse.takeWhile (· == '/')).length, ?_⟩
  rw [withoutEndSlashes, String.toList_ofList, ← List.reverse_replicate, ← List.reverse_append,
    hsplit, List.reverse_reverse]

theorem withoutEndSlashes_append {s : List Char} (h : s.getLast? ≠ some '/') (n : Nat) :
    withoutEndSlashes (String.ofList (s ++ List.replicate n '/')) = String.ofList s := by
  have hlast : ∀ c ∈ s.getLast?, (c == '/') = false := fun c hc =>
    beq_eq_false_iff_ne.2 fun heq => h (heq ▸ hc)
  have hslashes : ∀ c ∈ List.replicate n '/', (c == '/') = true := fun c hc =>
    beq_iff_eq.2 (List.eq_of_mem_replicate hc)
  rw [withoutEndSlashes, String.toList_ofList, List.reverse_append, List.reverse_replicate,
    List.dropWhile_append_of_pos hslashes, Text.dropWhile_reverse hlast]

/-! ## The path of a base -/

/-- What is put behind a base comes behind the rest of its address, and in the path behind the
mount. -/
theorem exists_mount {c : Client} {a : Address} (hparse : Address.parse c.base = .ok a)
    (hscheme : a.scheme = "http" ∨ a.scheme = "https")
    (hfree : ∀ ch ∈ c.base.toList, Address.isPathEnd ch = false)
    (hlast : ∀ ch ∈ c.base.toList.getLast?, Url.isOuter ch = false) :
    (∀ ch ∈ a.rest, Address.isPathEnd ch = false) ∧
      ∃ mount, c.root? = some ⟨a.scheme, a.authority, mount⟩ ∧ ∀ q, Address.IsSettled q →
        Address.parse (c.base ++ String.ofList ('/' :: q)) =
          .ok ⟨a.scheme, a.authority, a.rest ++ '/' :: q⟩ ∧
        Address.path ⟨a.scheme, a.authority, a.rest ++ '/' :: q⟩ = mount ++ Address.spelled q := by
  have hweb := ofName_of_web hscheme
  have hslash := Address.parse_snoc hparse hweb hlast
  obtain ⟨r, hr, happend⟩ := Address.parse_append hslash hweb
  have hrest : a.rest = r := List.append_cancel_right hr
  subst hrest
  have hrfree : ∀ ch ∈ a.rest, Address.isPathEnd ch = false := fun ch hch =>
    hfree ch (Address.mem_of_mem_rest hparse hweb ch hch)
  obtain ⟨mount, hmount⟩ := Address.path_append hrfree
  have hroot := root?_of_parse hfree hslash hscheme
  rw [hmount a.scheme a.authority [] Address.isSettled_nil, Address.spelled_of_isPathChar (by simp),
    List.dropLast_concat] at hroot
  exact ⟨hrfree, mount, hroot, fun q hq =>
    ⟨happend _ q (String.toList_ofList ..) hq, hmount a.scheme a.authority q hq⟩⟩

/-- The path of an address that a client is made for is the mount of its requests, but for slashes
at the end. -/
theorem exists_own {config : ClientConfig} {c : Client} (h : make config = .ok c)
    (hfree : ∀ ch ∈ config.baseUrl.toList, Address.isPathEnd ch = false)
    (hlast : ∀ ch ∈ c.base.toList.getLast?, Url.isOuter ch = false) :
    ∃ own root n, Address.parse config.baseUrl = .ok own ∧ c.root? = some root ∧
      root.scheme = own.scheme ∧ root.authority = own.authority ∧
      own.path = root.mount ++ List.replicate n '/' := by
  obtain ⟨heq, a, hparse, hscheme⟩ := base_of_make h
  obtain ⟨hrest, mount, hroot, hput⟩ := exists_mount hparse hscheme (isPathEnd_base h hfree) hlast
  obtain ⟨n, hn⟩ := exists_slashes config.baseUrl
  rw [← heq] at hn
  cases n with
  | zero =>
    have hsame : config.baseUrl = c.base := by
      rw [← String.toList_inj, hn, List.replicate_zero, List.append_nil]
    have hclosed := (hput [] Address.isSettled_nil).2
    rw [Address.spelled_of_isPathChar (by simp)] at hclosed
    rw [hsame]
    -- the path of the base ends in a slash only where its last segment is dots or there is none
    rcases Address.path_snoc hrest a.scheme a.authority with hpath | hpath
    · rw [hclosed] at hpath
      exact ⟨a, _, 1, hparse, hroot, rfl, rfl, hpath.symm⟩
    · rw [hclosed, List.append_cancel_right_eq] at hpath
      exact ⟨a, _, 0, hparse, hroot, rfl, rfl, by rw [hpath, List.replicate_zero, List.append_nil]⟩
  | succ n =>
    have hslashes : ∀ ch ∈ List.replicate n '/', Url.isPathChar ch = true := fun ch hch => by
      rw [List.eq_of_mem_replicate hch]
      rfl
    have hbase : config.baseUrl = c.base ++ String.ofList ('/' :: List.replicate n '/') := by
      rw [← String.toList_inj, hn, String.toList_append, String.toList_ofList,
        List.replicate_succ]
    obtain ⟨hown, hpath⟩ := hput _ (Address.isSettled_of_isPathChar hslashes)
    rw [Address.spelled_of_isPathChar hslashes, ← List.replicate_succ] at hpath
    rw [← hbase] at hown
    exact ⟨_, _, n + 1, hown, hroot, rfl, rfl, hpath⟩

end Client

/-- The requests of a client for a base without a query and a fragment that ends in no blank go to
the base's own path without slashes at its end, with their path behind it and their pairs as the
query. They do so if no slash is left before the place where paths are put, and they are sent if they
fit. -/
theorem requests_behind_base {config : ClientConfig} {c : Client} (h : Client.make config = .ok c)
    (hfree : ∀ ch ∈ config.baseUrl.toList, Address.isPathEnd ch = false)
    (hlast : ∀ ch ∈ c.base.toList.getLast?, Url.isOuter ch = false)
    (hmount : ∀ root, c.root? = some root → root.mount.getLast? ≠ some '/')
    (server : Http.Server) :
    ∃ own, Address.parse config.baseUrl = .ok own ∧
      let request (path : String) (pairs : List (String × String)) : Http.Request :=
        ⟨own.scheme, own.authority, Client.withoutEndSlashes (String.ofList own.path) ++ path ++
          String.ofList (Address.queryPart pairs), c.cookie⟩
      (c.feed server).status.run.requests = (request "/api/v1/status" []).sent ∧
      (∀ r limit, (Source.ranking r limit).IsPlain →
        ((c.feed server).topTeams r limit).run.requests =
          (request r.path (Source.pairs (.ranking r limit))).sent) ∧
      ∀ category, ((c.feed server).teamProgression category).run.requests =
        (request "/api/v1/team/score_progression" (Source.pairs (.team category))).sent := by
  obtain ⟨own, root, n, hown, hroot, hscheme, hauthority, hpath⟩ := Client.exists_own h hfree hlast
  have hfront : Client.withoutEndSlashes (String.ofList own.path) = String.ofList root.mount := by
    rw [hpath, Client.withoutEndSlashes_append (hmount root hroot)]
  refine ⟨own, hown, ?_⟩
  intro request
  have hrequest {path : String} {q : List Char} (hq : path.toList = '/' :: q)
      (hchars : ∀ ch ∈ q, Url.isPathChar ch = true) (pairs : List (String × String)) :
      (c.request? path pairs).toList = (request path pairs).sent := by
    rw [Client.toList_request?_of_root hroot hq (Address.isSettled_of_isPathChar hchars),
      Root.request, Address.spelled_of_isPathChar hchars, ← hq]
    simp only [request, hfront, hscheme, hauthority, String.ofList_append, String.ofList_toList]
  refine ⟨?_, fun r limit hplain => ?_, fun category => ?_⟩
  · rw [Client.requests_status]
    exact hrequest Client.toList_statusPath Client.isPathChar_statusPath []
  · rw [Client.requests_topTeams]
    obtain ⟨q, hq, hchars, -⟩ := Source.path_spec hplain
    exact hrequest hq hchars _
  · rw [Client.requests_teamProgression]
    exact hrequest Source.toList_teamPath Source.isPathChar_teamPath _

/-- A base with slashes at its end, and with dots and a character to encode in it. -/
theorem requests_behind_base_dotted :
    let config : ClientConfig := ⟨"HTTP://[::1]:8000/é/x/..///", 30, some "token=1"⟩
    let c : Client := ⟨"HTTP://[::1]:8000/é/x/..", some "token=1"⟩
    let r : Ranking := ⟨.group, ⟨"blue-7", rfl, by decide⟩⟩
    Client.make config = .ok c ∧ ∀ server,
      ((c.feed server).topTeams r (some 3)).targets =
        ["/%C3%A9/api/v1/groups/blue-7/score_progressions?limit=3"] ∧
      ((c.feed server).teamProgression (some "a b")).targets =
        ["/%C3%A9/api/v1/team/score_progression?category=a+b"] := by
  have hmake : Client.make ⟨"HTTP://[::1]:8000/é/x/..///", 30, some "token=1"⟩ =
      .ok ⟨"HTTP://[::1]:8000/é/x/..", some "token=1"⟩ :=
    ok_of_toOption (by decide +kernel)
  have hroot : Client.root? ⟨"HTTP://[::1]:8000/é/x/..", some "token=1"⟩ =
      some ⟨"http", some ⟨[], .ipv6 [0, 0, 0, 0, 0, 0, 0, 1], some 8000⟩, "/%C3%A9".toList⟩ := by
    decide +kernel
  have hfree : ∀ ch ∈ "HTTP://[::1]:8000/é/x/..///".toList, Address.isPathEnd ch = false :=
    Text.free_of_all (by decide)
  have hlast : ∀ ch ∈ "HTTP://[::1]:8000/é/x/..".toList.getLast?, Url.isOuter ch = false := by
    have hend : "HTTP://[::1]:8000/é/x/..".toList.getLast? = some '.' := by decide
    rw [hend]
    rintro ch ⟨⟩
    rfl
  have hown : Address.parse "HTTP://[::1]:8000/é/x/..///" =
      .ok ⟨"http", some ⟨[], .ipv6 [0, 0, 0, 0, 0, 0, 0, 1], some 8000⟩, "/é/x/..///".toList⟩ :=
    ok_of_toOption (by decide +kernel)
  have hfront : Client.withoutEndSlashes (String.ofList
      (Address.path ⟨"http", some ⟨[], .ipv6 [0, 0, 0, 0, 0, 0, 0, 1], some 8000⟩,
        "/é/x/..///".toList⟩)) = "/%C3%A9" := by decide +kernel
  have hranked : Http.Request.fits ⟨"http", some ⟨[], .ipv6 [0, 0, 0, 0, 0, 0, 0, 1], some 8000⟩,
      "/%C3%A9/api/v1/groups/blue-7/score_progressions?limit=3", some "token=1"⟩ [] = true := by
    decide +kernel
  have hteamed : Http.Request.fits ⟨"http", some ⟨[], .ipv6 [0, 0, 0, 0, 0, 0, 0, 1], some 8000⟩,
      "/%C3%A9/api/v1/team/score_progression?category=a+b", some "token=1"⟩ [] = true := by
    decide +kernel
  have hplain : (Source.ranking ⟨.group, ⟨"blue-7", rfl, by decide⟩⟩ (some 3)).IsPlain := by
    intro c hc
    have hmem : c ∈ ['b', 'l', 'u', 'e', '-', '7'] := hc
    simp only [List.mem_cons, List.not_mem_nil, or_false] at hmem
    rcases hmem with rfl | rfl | rfl | rfl | rfl | rfl <;> decide
  intro config c r
  refine ⟨hmake, fun server => ?_⟩
  have hmount : ∀ root, c.root? = some root → root.mount.getLast? ≠ some '/' := by
    intro root h
    rw [hroot, Option.some.injEq] at h
    rw [← h]
    decide
  obtain ⟨own, hparse, -, hranking, hteam⟩ :=
    requests_behind_base hmake hfree hlast hmount server
  rw [hown, Except.ok.injEq] at hparse
  subst hparse
  rw [hfront] at hranking hteam
  exact ⟨Call.targets_of_fits (hranking r (some 3) hplain) hranked,
    Call.targets_of_fits (hteam (some "a b")) hteamed⟩

/-- Bases that end in a fragment, in a query and in a blank. -/
theorem paths_misplaced :
    let made (base : String) : Prop := Client.make (.ofBaseUrl base) = .ok ⟨base, none⟩
    let asked (base : String) (server : Http.Server) : List String :=
      (Client.feed ⟨base, none⟩ server).status.targets
    made "http://[::1]#f" ∧ made "http://[::1]?x=1" ∧ made "http://[::1]/a " ∧ ∀ server,
      asked "http://[::1]#f" server = ["/"] ∧
      asked "http://[::1]?x=1" server = ["/?x=1/api/v1/status"] ∧
      asked "http://[::1]/a " server = ["/a%20/api/v1/status"] := by
  have hfragment : (Client.request? ⟨"http://[::1]#f", none⟩ Client.statusPath []).toList.map
      (·.target) = ["/"] := by decide +kernel
  have hquery : (Client.request? ⟨"http://[::1]?x=1", none⟩ Client.statusPath []).toList.map
      (·.target) = ["/?x=1/api/v1/status"] := by decide +kernel
  have hblank : (Client.request? ⟨"http://[::1]/a ", none⟩ Client.statusPath []).toList.map
      (·.target) = ["/a%20/api/v1/status"] := by decide +kernel
  refine ⟨ok_of_toOption (by decide +kernel), ok_of_toOption (by decide +kernel),
    ok_of_toOption (by decide +kernel), fun server => ?_⟩
  exact ⟨(Client.targets_status _ server).trans hfragment,
    (Client.targets_status _ server).trans hquery, (Client.targets_status _ server).trans hblank⟩

end Scoreline
