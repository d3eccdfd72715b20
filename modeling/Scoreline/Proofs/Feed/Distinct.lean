import Scoreline.Proofs.Feed.Root

/-!
# Scoreline.Proofs.Feed.Distinct

Requests for different things have different targets, as long as the names of rankings fit into one
segment of a path (`Ranking.FitsSegment`). Names are put into paths as they are: a mark in a name
that means something in an address means it there too, and different rankings may share a target,
or have that of something else (`targets_shared`).

A target is told apart by reading it: `Question.ofEncoded?` undoes the encoding of its path, and
finds the question that was put (`ofEncoded?_of_request?`).
-/

namespace Scoreline

/-- Whether the name of a ranking makes one segment of a path that stays as it is. -/
structure Ranking.FitsSegment (r : Ranking) : Prop where
  slash : ∀ c ∈ r.id.text.toList, Url.isSlash c = false
  ends : ∀ c ∈ r.id.text.toList, Url.Address.isPathEnd c = false
  passed : ∀ c ∈ r.id.text.toList, Url.isPassedOver c = false
  percent : '%' ∉ r.id.text.toList
  not_dot : r.id.text ≠ "."
  not_dots : r.id.text ≠ ".."

/-- Whether the name in a source fits, if there is one. -/
def Source.FitsSegment : Source → Prop
  | .ranking r _ => r.FitsSegment
  | .team _ => True

theorem Source.question_inj {s₁ s₂ : Source} (h : s₁.question = s₂.question) : s₁ = s₂ := by
  cases s₁ with
  | ranking r₁ limit₁ =>
    cases s₂ with
    | ranking r₂ limit₂ =>
      obtain ⟨kind₁, id₁⟩ := r₁
      obtain ⟨kind₂, id₂⟩ := r₂
      obtain ⟨text₁, trimmed₁, nonempty₁⟩ := id₁
      obtain ⟨text₂, trimmed₂, nonempty₂⟩ := id₂
      simp only [question, Question.ranking.injEq] at h
      obtain ⟨rfl, rfl, hlimit⟩ := h
      rw [Option.map_inj_right fun m n => UInt32.toNat_inj.1] at hlimit
      rw [hlimit]
    | team => cases h
  | team category₁ =>
    cases s₂ with
    | ranking => cases h
    | team category₂ =>
      simp only [question, Question.team.injEq] at h
      rw [h]

namespace Question

/-! ## Reading encoded paths -/

def segment? (s : List Char) : Option String := Text.ofUtf8? (Url.decode s)

/-- The question in what stands behind the mount of a target, if the path there is encoded. -/
def ofEncoded? (text : List Char) : Option Question :=
  let (path, query) := Text.cut '?' text
  match pairs? query, (Text.splitBy (· == '/') path).mapM segment? with
  | some pairs, some segments => ofSegments? pairs segments
  | _, _ => none

theorem segment?_encode {s : List Char} (h : '%' ∉ s) :
    segment? (Url.encode Url.keptInPath s) = some (String.ofList s) := by
  rw [segment?, Url.decode_encode fun c hc _ heq => h (heq ▸ hc), Text.ofUtf8?_bytes]

/-- Neither a slash nor the mark of a query comes of encoding. -/
theorem not_mem_encode {s : List Char} {mark : Char} (hs : mark ∉ s)
    (hform : Url.keptInForm mark = false) (hne : mark ≠ '%') :
    mark ∉ Url.encode Url.keptInPath s := by
  intro hmem
  rcases Url.mem_encode hmem with ⟨hin, -⟩ | hkept | heq
  · exact hs hin
  · rw [hform] at hkept
    cases hkept
  · exact hne heq

/-- Segments are read as they were before they were encoded. -/
theorem ofEncoded?_spelled {q : List Char} (hpercent : '%' ∉ q) (hquery : '?' ∉ q)
    (pairs : List (String × String)) :
    ofEncoded? (Url.Address.spelled q ++ Url.Address.queryPart pairs) =
      ofSegments? pairs ((Text.splitBy Url.isSlash ('/' :: q)).map String.ofList) := by
  have hsplit : Text.splitBy Url.isSlash ('/' :: q) = [] :: Text.splitBy Url.isSlash q :=
    Text.splitBy_append rfl [] q
  have hmem {part : List Char} (hpart : part ∈ Text.splitBy Url.isSlash q) {c : Char}
      (hc : c ∈ part) : c ∈ q := Text.mem_of_mem_splitBy hpart c hc
  have hmark : '?' ∉ Url.Address.spelled q := by
    intro hin
    obtain ⟨part, hpart, hin⟩ := List.mem_flatMap.1 hin
    obtain ⟨s, hs, rfl⟩ := List.mem_map.1 hpart
    rcases List.mem_cons.1 hin with heq | hin
    · cases heq
    · exact not_mem_encode (fun hc => hquery (hmem hs hc)) (by decide) (by decide) hin
  have hparts : Text.splitBy (· == '/') (Url.Address.spelled q) =
      ([] :: Text.splitBy Url.isSlash q).map (Url.encode Url.keptInPath) := by
    have hjoin : Url.Address.spelled q = [] ++
        ((Text.splitBy Url.isSlash q).map (Url.encode Url.keptInPath)).flatMap ('/' :: ·) := rfl
    rw [hjoin]
    refine Text.splitBy_join (by decide) fun part hpart c hc => ?_
    rw [beq_eq_false_iff_ne]
    rintro rfl
    rcases List.mem_cons.1 hpart with rfl | hpart
    · cases hc
    · obtain ⟨s, hs, rfl⟩ := List.mem_map.1 hpart
      have hslash : '/' ∉ s := fun hin =>
        Bool.noConfusion (Text.free_of_mem_splitBy hs '/' hin)
      exact not_mem_encode hslash (by decide) (by decide) hc
  have hread : (Text.splitBy (· == '/') (Url.Address.spelled q)).mapM segment? =
      some (([] :: Text.splitBy Url.isSlash q).map String.ofList) := by
    rw [hparts]
    refine mapM_map fun part hpart => segment?_encode fun hin => ?_
    rcases List.mem_cons.1 hpart with rfl | hpart
    · cases hin
    · exact hpercent (hmem hpart hin)
  rw [ofEncoded?, cut_queryPart hmark, hsplit]
  simp only [pairs?_extendQuery, hread]

/-- A path and pairs that put a question, where the path is taken in as a whole. -/
def PutBy (question : Question) (path : String) (pairs : List (String × String)) : Prop :=
  ∃ q, path.toList = '/' :: q ∧ Url.Address.IsSettled q ∧ '%' ∉ q ∧
    ofSegments? pairs ((Text.splitBy Url.isSlash ('/' :: q)).map String.ofList) = some question

variable {question : Question} {path : String} {pairs : List (String × String)}

theorem splitBy_isSlash {text : List Char} (h : '\\' ∉ text) :
    Text.splitBy Url.isSlash text = Text.splitBy (· == '/') text := by
  refine Text.splitBy_congr fun c hc => ?_
  have hne : (c == '\\') = false := beq_eq_false_iff_ne.2 fun heq => h (heq ▸ hc)
  rw [Url.isSlash, hne, Bool.or_false]

theorem putBy_of_isPathChar {q : List Char} (hpath : path.toList = '/' :: q)
    (hq : ∀ c ∈ q, Url.isPathChar c = true)
    (h : ofSegments? pairs ((Text.splitBy (· == '/') ('/' :: q)).map String.ofList) =
      some question) : question.PutBy path pairs := by
  refine ⟨q, hpath, Url.Address.isSettled_of_isPathChar hq, ?_, ?_⟩
  · intro hin
    exact absurd (hq '%' hin) (by decide)
  · rw [← h, splitBy_isSlash]
    intro hin
    rcases List.mem_cons.1 hin with heq | hin
    · cases heq
    · exact absurd (hq '\\' hin) (by decide)

/-- What is asked is read from the target. -/
theorem ofEncoded?_of_request? {c : Client} {root : Root} (hroot : c.root? = some root)
    (hput : question.PutBy path pairs) {request : Http.Request}
    (h : c.request? path pairs = some request) :
    ∃ text, request.target.toList = root.mount ++ text ∧ ofEncoded? text = some question := by
  obtain ⟨q, hpath, hq, hpercent, hsegments⟩ := hput
  have hquery : '?' ∉ q := fun hin => Bool.noConfusion (hq.ends '?' hin)
  rw [← Option.mem_toList, Client.toList_request?_of_root hroot hpath hq] at h
  rw [Http.Request.mem_sent h]
  refine ⟨Url.Address.spelled q ++ Url.Address.queryPart pairs, ?_, ?_⟩
  · rw [Root.request, String.toList_ofList, List.append_assoc]
  · rw [ofEncoded?_spelled hpercent hquery, hsegments]

end Question

namespace Source

theorem putBy_ranking {r : Ranking} (h : r.FitsSegment) (limit : Option UInt32) :
    (ranking r limit).question.PutBy r.path (pairs (.ranking r limit)) := by
  have hslash : '/' ∉ r.id.text.toList := fun hin => Bool.noConfusion (h.slash '/' hin)
  have hback : '\\' ∉ r.id.text.toList := fun hin => Bool.noConfusion (h.slash '\\' hin)
  have hsteady : ∀ part ∈ Text.splitBy Url.isSlash r.id.text.toList,
      Url.Address.IsSteady (Url.encode Url.keptInPath part) := by
    rw [Text.splitBy_of_free h.slash]
    intro part hpart
    rw [List.mem_singleton.1 hpart]
    exact Url.Address.isSteady_encode h.percent (fun heq => h.not_dot (String.toList_inj.1 heq))
      fun heq => h.not_dots (String.toList_inj.1 heq)
  have hfront := Url.Address.isSettled_of_isPathChar (Ranking.isPathChar_front r.kind)
  have hend := Url.Address.isSettled_of_isPathChar Ranking.isPathChar_end
  refine ⟨_, r.toList_path, ?_, fun hin => ?_, ?_⟩
  · exact .append hfront.passed hfront.ends hfront.steady
      (.append h.passed h.ends hsteady hend)
  · refine r.not_mem_path (by decide) h.percent ?_
    rw [r.toList_path]
    exact List.mem_cons_of_mem _ hin
  · rw [← r.toList_path, Question.splitBy_isSlash (r.not_mem_path (by decide) hback),
      Ranking.segments_path hslash, List.map_map]
    simp only [Function.comp_def, String.ofList_toList, List.map_id', ofSegments?_ranking]

theorem putBy {source : Source} (h : source.FitsSegment) :
    source.question.PutBy source.path source.pairs := by
  cases source with
  | ranking r limit => exact putBy_ranking h limit
  | team category =>
    have hplain : (team category).IsPlain := trivial
    obtain ⟨q, hpath, hq, hquestion⟩ := path_spec hplain
    exact Question.putBy_of_isPathChar hpath hq hquestion

end Source

namespace Client

variable {config : ClientConfig} {c : Client} {server : Http.Server}

theorem status_putBy : Question.status.PutBy statusPath [] :=
  Question.putBy_of_isPathChar toList_statusPath isPathChar_statusPath rfl

/-- Requests that put different questions have different targets. -/
theorem target_ne (h : make config = .ok c)
    (hfree : ∀ ch ∈ c.base.toList, Url.Address.isPathEnd ch = false) {q₁ q₂ : Question}
    {path₁ path₂ : String} {pairs₁ pairs₂ : List (String × String)}
    (h₁ : q₁.PutBy path₁ pairs₁) (h₂ : q₂.PutBy path₂ pairs₂) (hne : q₁ ≠ q₂) :
    ∀ t ∈ (c.request? path₁ pairs₁).toList.map (·.target),
      t ∉ (c.request? path₂ pairs₂).toList.map (·.target) := by
  intro t hmem₁ hmem₂
  obtain ⟨request₁, hrequest₁, rfl⟩ := List.mem_map.1 hmem₁
  obtain ⟨request₂, hrequest₂, htarget⟩ := List.mem_map.1 hmem₂
  rw [Option.mem_toList] at hrequest₁ hrequest₂
  -- both targets begin with the mount of one root, so equal ones have one question behind it
  obtain ⟨root, hroot⟩ : ∃ root, c.root? = some root := by
    obtain ⟨q, hpath, hq, -⟩ := h₁
    exact root?_of_request? h hfree hpath hq hrequest₁
  obtain ⟨text₁, htext₁, hread₁⟩ := Question.ofEncoded?_of_request? hroot h₁ hrequest₁
  obtain ⟨text₂, htext₂, hread₂⟩ := Question.ofEncoded?_of_request? hroot h₂ hrequest₂
  rw [htarget, htext₁, List.append_cancel_left_eq] at htext₂
  rw [← htext₂, hread₁, Option.some.injEq] at hread₂
  exact hne hread₂

theorem toList_request?_of_putBy {root : Root} (hroot : c.root? = some root) {question : Question}
    {path : String} {pairs : List (String × String)} (h : question.PutBy path pairs) :
    (c.request? path pairs).toList = (root.request c.cookie path.toList.tail pairs).sent := by
  obtain ⟨q, hpath, hq, -⟩ := h
  rw [toList_request?_of_root hroot hpath hq, hpath, List.tail_cons]

end Client

/-- At a base without a query and a fragment, the requests for different sources whose names fit
have different targets, and neither is the target of a request for the status. If the base does not
end in a blank there is a root, and each request goes there if it fits. -/
theorem targets_differ {config : ClientConfig} {c : Client} (h : Client.make config = .ok c)
    (hfree : ∀ ch ∈ config.baseUrl.toList, Url.Address.isPathEnd ch = false)
    (server : Http.Server) {s₁ s₂ : Source} (h₁ : s₁.FitsSegment) (h₂ : s₂.FitsSegment)
    (hne : s₁ ≠ s₂) :
    let feed := c.feed server
    (∀ t ∈ (feed.progressions s₁).targets, t ∉ (feed.progressions s₂).targets) ∧
      (∀ t ∈ (feed.progressions s₁).targets, t ∉ feed.status.targets) ∧
      ((∀ ch ∈ c.base.toList.getLast?, Url.isOuter ch = false) →
        ∃ root, c.root? = some root ∧
          (feed.progressions s₁).run.requests =
            (root.request c.cookie s₁.path.toList.tail s₁.pairs).sent ∧
          feed.status.run.requests =
            (root.request c.cookie Client.statusPath.toList.tail []).sent) := by
  have hbase := Client.isPathEnd_base h hfree
  intro feed
  have hstatus : s₁.question ≠ .status := by
    cases s₁ with
    | ranking => exact Question.noConfusion
    | team => exact Question.noConfusion
  rw [Client.targets_status, Client.targets_progressions, Client.targets_progressions]
  refine ⟨?_, ?_, fun hlast => ?_⟩
  · exact Client.target_ne h hbase (Source.putBy h₁) (Source.putBy h₂)
      fun heq => hne (Source.question_inj heq)
  · exact Client.target_ne h hbase (Source.putBy h₁) Client.status_putBy hstatus
  · obtain ⟨root, hroot⟩ := Client.root?_of_make h hbase hlast
    refine ⟨root, hroot, ?_, ?_⟩
    · rw [Client.requests_progressions]
      exact Client.toList_request?_of_putBy hroot (Source.putBy h₁)
    · rw [Client.requests_status]
      exact Client.toList_request?_of_putBy hroot Client.status_putBy

/-- Names that fit although they have characters to encode, or dots. -/
theorem targets_differ_odd :
    let config : ClientConfig := .ofBaseUrl "http://[::1]:8000/a/../b//"
    let c : Client := ⟨"http://[::1]:8000/a/../b", none⟩
    let s₁ : Source := .scoreboard ⟨"Ünï \"7\"", rfl, by decide⟩
    let s₂ : Source := .group ⟨"...", rfl, by decide⟩
    Client.make config = .ok c ∧
      (∀ ch ∈ config.baseUrl.toList, Url.Address.isPathEnd ch = false) ∧
      s₁.FitsSegment ∧ s₂.FitsSegment ∧ s₁ ≠ s₂ ∧
      ∀ server, ∃ t₁ t, ((c.feed server).progressions s₁).targets = [t₁] ∧
        t₁ ∉ ((c.feed server).progressions s₂).targets ∧
        (c.feed server).status.targets = [t] ∧ t₁ ≠ t := by
  have hmake : Client.make (.ofBaseUrl "http://[::1]:8000/a/../b//") =
      .ok ⟨"http://[::1]:8000/a/../b", none⟩ :=
    ok_of_toOption (by decide +kernel)
  have hfree : ∀ ch ∈ "http://[::1]:8000/a/../b//".toList, Url.Address.isPathEnd ch = false :=
    Text.free_of_all (by decide)
  have hlast : ∀ ch ∈ "http://[::1]:8000/a/../b".toList.getLast?, Url.isOuter ch = false := by
    have hend : "http://[::1]:8000/a/../b".toList.getLast? = some 'b' := by decide
    rw [hend]
    rintro ch ⟨⟩
    rfl
  have hodd : (Source.scoreboard ⟨"Ünï \"7\"", rfl, by decide⟩).FitsSegment :=
    ⟨Text.free_of_all (by decide), Text.free_of_all (by decide), Text.free_of_all (by decide),
      by decide, by decide, by decide⟩
  have hdots : (Source.group ⟨"...", rfl, by decide⟩).FitsSegment :=
    ⟨Text.free_of_all (by decide), Text.free_of_all (by decide), Text.free_of_all (by decide),
      by decide, by decide, by decide⟩
  have hroot : Client.root? ⟨"http://[::1]:8000/a/../b", none⟩ =
      some ⟨"http", some ⟨[], .ipv6 [0, 0, 0, 0, 0, 0, 0, 1], some 8000⟩, "/b".toList⟩ := by
    decide +kernel
  have hroom₁ : (Root.request ⟨"http", some ⟨[], .ipv6 [0, 0, 0, 0, 0, 0, 0, 1], some 8000⟩,
      "/b".toList⟩ none (Source.path (.scoreboard ⟨"Ünï \"7\"", rfl, by decide⟩)).toList.tail
      []).fits [] = true := by decide +kernel
  have hroom : (Root.request ⟨"http", some ⟨[], .ipv6 [0, 0, 0, 0, 0, 0, 0, 1], some 8000⟩,
      "/b".toList⟩ none Client.statusPath.toList.tail []).fits [] = true := by decide +kernel
  intro config c s₁ s₂
  have hne : s₁ ≠ s₂ := by decide
  refine ⟨hmake, hfree, hodd, hdots, hne, fun server => ?_⟩
  obtain ⟨hother, hstatus, hmade⟩ := targets_differ hmake hfree server hodd hdots hne
  obtain ⟨root, hsome, hrequest₁, hrequest⟩ := hmade hlast
  cases hroot.symm.trans hsome
  have ht₁ := Call.targets_of_fits hrequest₁ hroom₁
  have ht := Call.targets_of_fits hrequest hroom
  rw [ht₁] at hother hstatus
  rw [ht] at hstatus
  exact ⟨_, _, ht₁, hother _ List.mem_cons_self, ht,
    fun heq => hstatus _ List.mem_cons_self (heq ▸ List.mem_cons_self)⟩

/-- Names that do not fit. Two of them differ behind the mark of a fragment, and have one target;
with dots before it, a name leads to the target of the status. -/
theorem targets_shared :
    let c : Client := ⟨"http://[::1]", none⟩
    let r₁ : Ranking := ⟨.scoreboard, ⟨"a#1", rfl, by decide⟩⟩
    let r₂ : Ranking := ⟨.scoreboard, ⟨"a#2", rfl, by decide⟩⟩
    let r₃ : Ranking := ⟨.scoreboard, ⟨"../status#", rfl, by decide⟩⟩
    Client.make (.ofBaseUrl "http://[::1]") = .ok c ∧ r₁ ≠ r₂ ∧ ∀ server,
      ((c.feed server).topTeams r₁ none).targets = ["/api/v1/scoreboards/a"] ∧
      ((c.feed server).topTeams r₂ none).targets = ["/api/v1/scoreboards/a"] ∧
      ((c.feed server).topTeams r₃ none).targets = ["/api/v1/status"] ∧
      (c.feed server).status.targets = ["/api/v1/status"] := by
  have hmake : Client.make (.ofBaseUrl "http://[::1]") = .ok ⟨"http://[::1]", none⟩ :=
    ok_of_toOption (by decide +kernel)
  have h₁ : (Client.request? ⟨"http://[::1]", none⟩ (Ranking.path ⟨.scoreboard, "a#1", rfl,
      by decide⟩) []).toList.map (·.target) = ["/api/v1/scoreboards/a"] := by decide +kernel
  have h₂ : (Client.request? ⟨"http://[::1]", none⟩ (Ranking.path ⟨.scoreboard, "a#2", rfl,
      by decide⟩) []).toList.map (·.target) = ["/api/v1/scoreboards/a"] := by decide +kernel
  have h₃ : (Client.request? ⟨"http://[::1]", none⟩ (Ranking.path ⟨.scoreboard, "../status#", rfl,
      by decide⟩) []).toList.map (·.target) = ["/api/v1/status"] := by decide +kernel
  have hstatus : (Client.request? ⟨"http://[::1]", none⟩ Client.statusPath []).toList.map
      (·.target) = ["/api/v1/status"] := by decide +kernel
  intro c r₁ r₂ r₃
  refine ⟨hmake, by decide, fun server => ?_⟩
  rw [c.targets_topTeams, c.targets_topTeams, c.targets_topTeams, c.targets_status]
  exact ⟨h₁, h₂, h₃, hstatus⟩

end Scoreline
