import Scoreline.Proofs.Feed.Root
import Scoreline.Proofs.Json.Additions

/-!
# Scoreline.Proofs.Feed.Complaint

What a client tells of a server that refuses (`Client.server_complaint`). An object with one member called
`message` is told by the string in that member, blanks and all, whatever else is in the object and however
all of it is spelled. What is no JSON is told as it is, but for blanks around it. And a server that answers
is never told of as one that refuses.

Whether a body is JSON is asked of the text that it is decoded to.
-/

namespace Scoreline

open Json (Form Fields Tree Key Runs StringOf)
open Text (utf8)

namespace Http

/-- A tree that complains of `m`: an object that has one member called `message`, which spells `m`. -/
inductive Complains (m : String) : Tree → Prop where
  | object {before after : List (Key × Tree)} {k : Key} {t : Tree} (hname : k.Names "message")
      (hvalue : StringOf t m)
      (hothers : ∀ o ∈ before ++ after, ∃ name, o.1.Names name ∧ name ≠ "message") :
      Complains m (.object (before ++ (k, t) :: after))

namespace Response

def complaintFields : Fields (String × Unit) := .required "message" .string .nil

theorem readable_complaintFields : complaintFields.Readable := ⟨Json.reads_string.self, trivial⟩

theorem reads_complaint : Json.Reads Complaint.form.read fun t c =>
    ∃ b, complaintFields.Records t b ∧ Complaint.mk b.1 = c :=
  readable_complaintFields.record "ErrorBody" _ _

theorem fill_others {members : List (Key × Tree)}
    (h : ∀ o ∈ members, ∃ name, o.1.Names name ∧ name ≠ "message") (slots : complaintFields.Slots) :
    Runs complaintFields.Fill slots members slots := by
  induction members with
  | nil => exact .nil slots
  | cons o members ih =>
    obtain ⟨⟨name, hname, hne⟩, hmembers⟩ := List.forall_mem_cons.1 h
    obtain ⟨slot, others⟩ := slots
    exact .cons hname ((Fields.fill_other hne).2 ⟨rfl, trivial⟩) (ih hmembers)

/-- The message of a complaint is read from all texts of it. -/
theorem parse_complaint {m : String} {t : Tree} (h : Complains m t) {text : Bytes}
    (ht : t.WholeText text) : Complaint.form.parse text = .ok ⟨m⟩ := by
  refine (reads_complaint.readWhole_iff ht).2 ⟨(m, ()), ?_, rfl⟩
  obtain ⟨hname, hvalue, hothers⟩ := h
  obtain ⟨hbefore, hafter⟩ := List.forall_mem_append.1 hothers
  have hmessage : complaintFields.Fill "message" _ (none, ()) (some m, ()) :=
    Fields.fill_self.2 ⟨rfl, rfl, m, Json.reads_string.makes hvalue, rfl⟩
  exact .object (Json.runs_append.2 ⟨_, fill_others hbefore complaintFields.empty,
    .cons hname hmessage (fill_others hafter _)⟩) rfl

theorem content_of_failure {r : Response} (hlow : 400 ≤ r.status) : r.content = r.body := by
  have hbody : r.hasBody = true := by
    simp only [hasBody, List.contains_cons, List.contains_nil, Bool.or_false, Bool.not_eq_true',
      Bool.or_eq_false_iff, beq_eq_false_iff_ne]
    omega
  rw [content, if_pos hbody]

/-- A complaint is told by its message. -/
theorem complaint_of_complains {m s : String} {t : Tree} (h : Complains m t)
    (ht : t.WholeText (utf8 s)) {r : Response} (hr : r.content = utf8 s) : r.complaint = m := by
  have hdecode : Text.decodeMarked (utf8 s) = s := by
    obtain ⟨b, rest, htext, hb⟩ : ∃ b rest, utf8 s = b :: rest ∧ b < 0x80 := by
      cases h
      exact Tree.exists_ascii ht
    rw [htext, Text.decodeMarked_ascii hb, ← htext, Text.decode_utf8]
  simp only [complaint, hr, hdecode, parse_complaint h ht]

/-- What is no JSON is told as it is, without blanks around it. -/
theorem complaint_of_no_tree {r : Response}
    (h : ∀ t : Tree, ¬ t.WholeText (utf8 (Text.decodeMarked r.content))) :
    r.complaint = Text.trim (Text.decodeMarked r.content) := by
  rw [complaint]
  split
  · rename_i c hparse
    obtain ⟨t, ht, -⟩ := reads_complaint.exists_wholeText hparse
    exact absurd ht (h t)
  · rfl

end Response

end Http

namespace Client

/-- The questions of a client. -/
inductive Puts (c : Client) (server : Http.Server) : {α : Type} → Call α → Prop where
  | status : Puts c server (c.feed server).status
  | topTeams (r : Ranking) (limit : Option UInt32) : Puts c server ((c.feed server).topTeams r limit)
  | teamProgression (category : Option String) :
      Puts c server ((c.feed server).teamProgression category)

variable {c : Client} {server : Http.Server} {α : Type}

theorem Puts.exists_get {call : Call α} (h : c.Puts server call) :
    ∃ path pairs form, call = c.get server path pairs form := by
  cases h with
  | status => exact ⟨_, _, _, rfl⟩
  | topTeams => exact ⟨_, _, _, rfl⟩
  | teamProgression => exact ⟨_, _, _, rfl⟩

/-- The response to the request of a question settles its result. -/
theorem result_of_response {path : String} {pairs : List (String × String)} {form : Form α}
    {request : Http.Request} {response : Http.Response}
    (hrequest : request ∈ (c.get server path pairs form).run.requests)
    (hresponse : server request = some response) :
    (c.get server path pairs form).run.result = (c.answer path form (some response)).2 := by
  rw [requests_get, Option.mem_toList] at hrequest
  rw [get, Option.mem_def.1 hrequest, ← hresponse]
  rfl

theorem answer_of_failure (c : Client) (path : String) (form : Form α) {r : Http.Response}
    (hlow : 400 ≤ r.status) (hhigh : r.status ≤ 599) :
    (c.answer path form (some r)).2 = .error (.server r.status r.complaint) := by
  have hfinal : r.isFinal = true := by
    simp only [Http.Response.isFinal, Bool.or_eq_true, Bool.and_eq_true, decide_eq_true_eq]
    omega
  have hsuccess : r.isSuccess = false := by
    simp only [Http.Response.isSuccess, Bool.and_eq_false_iff, decide_eq_false_iff_not]
    omega
  simp only [answer, hfinal, hsuccess, Bool.not_true, Bool.false_eq_true, if_false]

theorem answer_of_success (c : Client) (path : String) (form : Form α) {r : Http.Response}
    (hsuccess : r.isSuccess = true) (status : Nat) (m : String) :
    (c.answer path form (some r)).2 ≠ .error (.server status m) := by
  unfold answer
  simp only [hsuccess, if_true]
  split
  · simp
  · cases form.parse r.content <;> simp [Except.mapError]

/-- What a client tells of a server. With a status of failure, an object with one `message` is told by
the string in it, and what is no JSON as it is, but for the mark before it and the blanks around it. With
a status of success nothing is told of the server. -/
theorem server_complaint {call : Call α} (h : c.Puts server call) {request : Http.Request}
    (hrequest : request ∈ call.run.requests) {response : Http.Response}
    (hresponse : server request = some response) :
    (400 ≤ response.status → response.status ≤ 599 →
      (∀ (s m : String) (t : Tree), response.body = utf8 s → t.WholeText (utf8 s) →
        Http.Complains m t → call.run.result = .error (.server response.status m)) ∧
      ((∀ t : Tree, ¬ t.WholeText (utf8 (Text.decodeMarked response.body))) →
        call.run.result =
          .error (.server response.status (Text.trim (Text.decodeMarked response.body))))) ∧
    (200 ≤ response.status → response.status ≤ 299 →
      ∀ status m, call.run.result ≠ .error (.server status m)) := by
  obtain ⟨path, pairs, form, rfl⟩ := h.exists_get
  rw [result_of_response hrequest hresponse]
  refine ⟨fun hlow hhigh => ?_, fun hlow hhigh => ?_⟩
  · have hcontent := Http.Response.content_of_failure hlow
    rw [answer_of_failure c path form hlow hhigh, ← hcontent]
    refine ⟨fun s m t hbody ht hm => ?_, fun hnone => ?_⟩
    · rw [Http.Response.complaint_of_complains hm ht hbody]
    · rw [Http.Response.complaint_of_no_tree hnone]
  · refine answer_of_success c path form ?_
    simp only [Http.Response.isSuccess, Bool.and_eq_true, decide_eq_true_eq]
    exact ⟨hlow, hhigh⟩

/-- A message with blanks around it behind another member, a page that is no JSON, and the same page with
a status of success. -/
theorem server_complaint_told :
    let c : Client := ⟨"http://[::1]", none⟩
    let told (status : Nat) (body : String) : Except FetchError Status :=
      (c.feed fun _ => some ⟨status, utf8 body⟩).status.run.result
    told 404 "\x7b\"code\":0,\"message\":\" \\\"a\\\" \"\x7d" = .error (.server 404 " \"a\" ") ∧
      told 502 " Bad Gateway\n" = .error (.server 502 "Bad Gateway") ∧
      ∀ status m, told 200 " Bad Gateway\n" ≠ .error (.server status m) := by
  intro c told
  have hasked : (c.request? statusPath []).isSome = true := by decide +kernel
  obtain ⟨request, hrequest⟩ := Option.isSome_iff_exists.1 hasked
  have hrequested (server : Http.Server) : request ∈ (c.feed server).status.run.requests := by
    rw [requests_status, hrequest]
    exact List.mem_singleton.2 rfl
  let code : Key × Tree := (.written "code", .plain _ (.magnitude (.zero .none .none)))
  let message : Tree :=
    .plain _ (.string (Json.content_flatMap (String.toList " \"a\" ")).loose)
  have hcomplains : Http.Complains " \"a\" " (.object ([code] ++ [(.written "message", message)])) :=
    .object (Key.names_written "message") (.content (Json.content_flatMap _)) fun o ho => by
      rw [List.mem_singleton.1 ho]
      exact ⟨"code", Key.names_written "code", by decide⟩
  have hpage (t : Tree) : ¬ t.WholeText (utf8 (Text.decodeMarked (utf8 " Bad Gateway\n"))) := by
    intro ht
    obtain ⟨ws, -, hskip⟩ := ht.exists_skipValue_eq
    have hfails : (Json.skipValue (utf8 (Text.decodeMarked (utf8 " Bad Gateway\n")))).toOption =
      none := by decide +kernel
    rw [hskip] at hfails
    cases hfails
  have htrim : Text.trim (Text.decodeMarked (utf8 " Bad Gateway\n")) = "Bad Gateway" := by
    decide +kernel
  have htold (status : Nat) (body : String) :=
    server_complaint .status (hrequested fun _ => some ⟨status, utf8 body⟩) rfl
  refine ⟨?_, ?_, ?_⟩
  · exact ((htold 404 _).1 (by decide) (by decide)).1 _ _ _ rfl (Tree.wholeText_compact _) hcomplains
  · have hbad := ((htold 502 " Bad Gateway\n").1 (by decide) (by decide)).2 hpage
    rwa [htrim] at hbad
  · exact (htold 200 _).2 (by decide) (by decide)

end Client

end Scoreline
