import Scoreline.Decimal.Integer
import Scoreline.Feed.Client
import Scoreline.Proofs.Url.Address

/-!
# Scoreline.Proofs.Feed.Question

What a platform makes of the target of a request, by rules of its own: it takes the mount off the
target, splits the rest into path and query, the path into segments and the query into the pairs of
a form (`Question.ofTarget?`).

* `pairs?_extendQuery` — the pairs put into a query are read from it, whatever their texts.
* `ofTarget?_append` — a target is read by its path and its pairs, whatever the mount.
* `Source.path_spec` — the path and the pairs of a source are read as the question for that source.
-/

namespace Scoreline

/-- What a platform is asked. -/
inductive Question where
  | status
  | ranking (kind : RankingKind) (id : String) (limit : Option Nat)
  | team (category : Option String)
  deriving DecidableEq, Repr

namespace Question

/-! ## Queries -/

def pair? (s : List Char) : Option (String × String) :=
  let (name, value) := Text.cut '=' s
  match Url.formDecode? name, Url.formDecode? value with
  | some name, some value => some (name, value)
  | _, _ => none

/-- The pairs of a query that a form has written. -/
def pairs? (query : List Char) : Option (List (String × String)) :=
  if query.isEmpty then some [] else (Text.splitBy (· == '&') query).mapM pair?

theorem pair?_pairChars (p : String × String) : pair? (Url.Address.pairChars p) = some p := by
  rw [pair?, Url.Address.cut_pairChars]
  simp only [Url.formDecode?_formEncode]

theorem splitBy_pairs (p : String × String) (ps : List (String × String)) :
    Text.splitBy (· == '&')
        (Url.Address.pairChars p ++ ps.flatMap fun p => '&' :: Url.Address.pairChars p) =
      (p :: ps).map Url.Address.pairChars := by
  have hjoin : (ps.flatMap fun p => '&' :: Url.Address.pairChars p) =
      (ps.map Url.Address.pairChars).flatMap ('&' :: ·) := by
    rw [List.flatMap_map]
  have hfree : ∀ part ∈ Url.Address.pairChars p :: ps.map Url.Address.pairChars, ∀ c ∈ part,
      (c == '&') = false := by
    intro part hpart c hc
    rw [← List.map_cons] at hpart
    obtain ⟨p', -, rfl⟩ := List.mem_map.1 hpart
    refine beq_eq_false_iff_ne.2 fun hmark => ?_
    exact Url.Address.not_mem_pairChars (by decide) (by decide) p' (hmark ▸ hc)
  rw [hjoin, Text.splitBy_join (by rfl) hfree, List.map_cons]

/-- What is read of each written item is read of all of them. -/
theorem mapM_map {α β γ : Type} {write : α → β} {read : β → Option γ} {value : α → γ} {as : List α}
    (h : ∀ a ∈ as, read (write a) = some (value a)) :
    (as.map write).mapM read = some (as.map value) := by
  induction as with
  | nil => rfl
  | cons a as ih =>
    rw [List.map_cons, List.mapM_cons, h a List.mem_cons_self,
      ih fun a' ha' => h a' (List.mem_cons_of_mem a ha')]
    rfl

theorem mapM_pair? (ps : List (String × String)) :
    (ps.map Url.Address.pairChars).mapM pair? = some ps := by
  have hread : (ps.map Url.Address.pairChars).mapM pair? = some (ps.map id) :=
    mapM_map fun p _ => pair?_pairChars p
  rwa [List.map_id] at hread

/-- The pairs put into a query are read from it. -/
theorem pairs?_extendQuery (ps : List (String × String)) :
    pairs? (Url.Address.extendQuery [] ps) = some ps := by
  cases ps with
  | nil => rfl
  | cons p ps =>
    have hne : (Url.Address.extendQuery [] (p :: ps)).isEmpty = false := by
      rw [Url.Address.extendQuery_nil_cons, Url.Address.pairChars]
      simp
    rw [pairs?, hne, if_neg (by simp), Url.Address.extendQuery_nil_cons, splitBy_pairs, mapM_pair?]

/-! ## Targets -/

def kind? (collection : String) : Option RankingKind :=
  if collection = "scoreboards" then some .scoreboard
  else if collection = "groups" then some .group
  else none

/-- The limit among the pairs of a query; nothing if it is no number. -/
def limit? (pairs : List (String × String)) : Option (Option Nat) :=
  match pairs.lookup "limit" with
  | none => some none
  | some digits => (Decimal.natural? digits.toList).map some

/-- The question at the end of a path. -/
def ofSegments? (pairs : List (String × String)) : List String → Option Question
  | ["", "api", "v1", "status"] => some .status
  | ["", "api", "v1", "team", "score_progression"] => some (.team (pairs.lookup "category"))
  | ["", "api", "v1", collection, id, "score_progressions"] =>
    match kind? collection, limit? pairs with
    | some kind, some limit => some (.ranking kind id limit)
    | _, _ => none
  | _ => none

/-- The question in the target of a request to a platform whose paths all begin with `mount`. -/
def ofTarget? (mount : List Char) (target : String) : Option Question :=
  if mount.isPrefixOf target.toList then
    let (path, query) := Text.cut '?' (target.toList.drop mount.length)
    match pairs? query with
    | none => none
    | some pairs => ofSegments? pairs ((Text.splitBy (· == '/') path).map String.ofList)
  else none

theorem cut_queryPart {path : List Char} (hpath : '?' ∉ path) (pairs : List (String × String)) :
    Text.cut '?' (path ++ Url.Address.queryPart pairs) =
      (path, Url.Address.extendQuery [] pairs) := by
  cases pairs with
  | nil => rw [Url.Address.queryPart, List.append_nil, Text.cut_of_free hpath]; rfl
  | cons p ps => rw [Url.Address.queryPart, Text.cut_append hpath]

theorem ofTarget?_append (mount : List Char) {path : List Char} (hpath : '?' ∉ path)
    (pairs : List (String × String)) :
    ofTarget? mount (String.ofList (mount ++ path ++ Url.Address.queryPart pairs)) =
      ofSegments? pairs ((Text.splitBy (· == '/') path).map String.ofList) := by
  rw [ofTarget?, String.toList_ofList, List.append_assoc, if_pos (by simp), List.drop_left,
    cut_queryPart hpath]
  simp only [pairs?_extendQuery]

/-! ## Sources -/

theorem natural?_toString (n : Nat) : Decimal.natural? (toString n).toList = some n := by
  have hne : (Nat.toDigits 10 n).isEmpty = false := by
    rw [List.isEmpty_eq_false_iff]
    exact Nat.toDigits_ne_nil
  have hdigits : (Nat.toDigits 10 n).all Char.isDigit = true :=
    List.all_eq_true.2 fun c hc => Nat.isDigit_of_mem_toDigits (by decide) (by decide) hc
  have hvalue : (Nat.toDigits 10 n).foldl (fun n c => n * 10 + (c.toNat - '0'.toNat)) 0 = n := by
    have hstep : (fun (n : Nat) (c : Char) => n * 10 + (c.toNat - '0'.toNat)) =
        fun n c => 10 * n + (c.toNat - '0'.toNat) := by
      funext n c
      rw [Nat.mul_comm]
    rw [hstep, ← Nat.ofDigitChars_eq_foldl, Nat.ofDigitChars_ten_toDigits]
  rw [Nat.toString_eq_ofList_toDigits, String.toList_ofList, Decimal.natural?, hne,
    if_neg (by simp), if_pos hdigits, hvalue]

end Question

namespace Source

/-- The pairs that go with the path of a source. -/
def pairs : Source → List (String × String)
  | .ranking _ limit => limit.toList.map fun n => ("limit", toString n.toNat)
  | .team category => category.toList.map fun s => ("category", s)

def question : Source → Question
  | .ranking r limit => .ranking r.kind r.id.text (limit.map UInt32.toNat)
  | .team category => .team category

/-- Whether the name of a ranking is of ASCII letters, digits, `-` and `_` alone. -/
def IsPlain : Source → Prop
  | .ranking r _ => ∀ c ∈ r.id.text.toList, c.isAlphanum = true ∨ c = '-' ∨ c = '_'
  | .team _ => True

end Source

namespace Ranking

/-- The path of a ranking: its name between what all rankings of a kind have in common. -/
theorem toList_path (r : Ranking) :
    r.path.toList = '/' :: (("api/v1/" ++ r.kind.collection).toList ++
      '/' :: (r.id.text.toList ++ '/' :: "score_progressions".toList)) := by
  have hslash : "/".toList = ['/'] := rfl
  have hfront : "/api/v1/".toList = '/' :: "api/v1/".toList := rfl
  have hend : "/score_progressions".toList = '/' :: "score_progressions".toList := rfl
  simp only [path, String.toList_append, hslash, hfront, hend, List.append_assoc, List.cons_append,
    List.nil_append]

theorem isPathChar_front (k : RankingKind) :
    ∀ c ∈ ("api/v1/" ++ k.collection).toList, Url.isPathChar c = true := by
  cases k with
  | scoreboard => exact List.all_eq_true.1 rfl
  | group => exact List.all_eq_true.1 rfl

theorem isPathChar_end : ∀ c ∈ "score_progressions".toList, Url.isPathChar c = true :=
  List.all_eq_true.1 rfl

/-- A mark that no path has of itself is in the path of a ranking only with its name. -/
theorem not_mem_path (r : Ranking) {mark : Char} (hmark : Url.isPathChar mark = false)
    (hid : mark ∉ r.id.text.toList) : mark ∉ r.path.toList := by
  have hne : ∀ c, Url.isPathChar c = true → mark ≠ c := by
    rintro c hc rfl
    rw [hmark] at hc
    cases hc
  rw [toList_path]
  simp only [List.mem_append, List.mem_cons, not_or]
  exact ⟨hne '/' rfl, fun hin => hne mark (isPathChar_front r.kind mark hin) rfl, hne '/' rfl, hid,
    hne '/' rfl, fun hin => hne mark (isPathChar_end mark hin) rfl⟩

theorem segments_path {r : Ranking} (hslash : '/' ∉ r.id.text.toList) :
    Text.splitBy (· == '/') r.path.toList =
      ["", "api", "v1", r.kind.collection, r.id.text, "score_progressions"].map String.toList := by
  have hid : Text.splitBy (· == '/') r.id.text.toList = [r.id.text.toList] := by
    refine Text.splitBy_of_free fun c hc => ?_
    rw [beq_eq_false_iff_ne]
    rintro rfl
    exact hslash hc
  have hend : Text.splitBy (· == '/') "score_progressions".toList =
      ["score_progressions".toList] := rfl
  have hfront : Text.splitBy (· == '/') ('/' :: ("api/v1/" ++ r.kind.collection).toList) =
      ["", "api", "v1", r.kind.collection].map String.toList := by
    cases r.kind with
    | scoreboard => decide
    | group => decide
  rw [toList_path, ← List.cons_append, Text.splitBy_append rfl, Text.splitBy_append rfl, hfront,
    hid, hend]
  rfl

end Ranking

namespace Source

/-- The segments of the path of a ranking, with its pairs, are the question for it. -/
theorem ofSegments?_ranking (r : Ranking) (limit : Option UInt32) :
    Question.ofSegments? (pairs (.ranking r limit))
        ["", "api", "v1", r.kind.collection, r.id.text, "score_progressions"] =
      some (question (.ranking r limit)) := by
  have hkind : Question.kind? r.kind.collection = some r.kind := by
    cases r.kind <;> rfl
  have hlimit : Question.limit? (pairs (.ranking r limit)) = some (limit.map UInt32.toNat) := by
    cases limit with
    | none => rfl
    | some n =>
      show (Decimal.natural? (toString n.toNat).toList).map some = _
      rw [Question.natural?_toString]
      rfl
  simp only [Question.ofSegments?, hkind, hlimit, question]

theorem ofSegments?_team (category : Option String) :
    Question.ofSegments? (pairs (.team category)) ["", "api", "v1", "team", "score_progression"] =
      some (question (.team category)) := by
  cases category with
  | none => rfl
  | some c => rfl

theorem toList_teamPath : teamPath.toList = '/' :: "api/v1/team/score_progression".toList := rfl

theorem isPathChar_teamPath :
    ∀ c ∈ "api/v1/team/score_progression".toList, Url.isPathChar c = true :=
  List.all_eq_true.1 rfl

theorem path_spec {source : Source} (h : source.IsPlain) :
    ∃ q, source.path.toList = '/' :: q ∧ (∀ c ∈ q, Url.isPathChar c = true) ∧
      Question.ofSegments? source.pairs
        ((Text.splitBy (· == '/') ('/' :: q)).map String.ofList) = some source.question := by
  cases source with
  | ranking r limit =>
    have hslash : '/' ∉ r.id.text.toList := by
      intro hc
      rcases h '/' hc with hc | hc | hc <;> exact absurd hc (by decide)
    refine ⟨_, r.toList_path, fun c hc => ?_, ?_⟩
    · simp only [List.mem_append, List.mem_cons] at hc
      rcases hc with hc | rfl | hc | rfl | hc
      · exact Ranking.isPathChar_front r.kind c hc
      · rfl
      · rcases h c hc with hc | rfl | rfl
        · rw [Url.isPathChar, hc, Bool.true_or]
        · rfl
        · rfl
      · rfl
      · exact Ranking.isPathChar_end c hc
    · rw [← r.toList_path, Ranking.segments_path hslash, List.map_map]
      simp only [Function.comp_def, String.ofList_toList, List.map_id', ofSegments?_ranking]
  | team category =>
    refine ⟨_, ?_, isPathChar_teamPath, ofSegments?_team category⟩
    rw [path, toList_teamPath]

end Source

namespace Client

theorem toList_statusPath : statusPath.toList = '/' :: "api/v1/status".toList := rfl

theorem isPathChar_statusPath : ∀ c ∈ "api/v1/status".toList, Url.isPathChar c = true :=
  List.all_eq_true.1 rfl

end Client

end Scoreline
