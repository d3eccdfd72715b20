import Mathlib.Data.List.Permutation
import Scoreline.Proofs.Ranking

/-!
# Scoreline.Proofs.Source

Sources in JSON. A source is its kind among its other members (`Source.Contents`) in any order, or a
list of them all (`Source.Spelling`). The walk through the members sets the kind apart and keeps the
others (`Source.collects_members`), and the source is made of both (`Source.takes_tagged`,
`Source.takes_listed`). So it is read from any text of each of its spellings.

What is written is one of the spellings, so the form is lawful; `source_reparse` says what this means
for texts of sources and of rankings.
-/

namespace Scoreline

open Json
open Text (utf8)

theorem SourceKind.find_name (k : SourceKind) : variants.find k.name = .ok k := by
  cases k <;> rfl

namespace Source

/-- The ranking whose top teams the source is about. -/
def ranking? : Source → Option Ranking
  | .ranking r _ => some r
  | .team _ => none

def kind : Source → SourceKind
  | .ranking _ _ => .ranking
  | .team _ => .team

/-- What may be said of a source of rankings beside its kind: a value for the ranking, and a limit. A
limit that is not there is either `null` or left out. -/
inductive Ranked (v : Value) : Option UInt32 → List (String × Value) → Prop where
  | alone : Ranked v none [("ranking", v)]
  | limited (limit : Option UInt32) :
      Ranked v limit [("ranking", v), ("limit", (Form.option Form.uint32).write limit)]

/-- What may be said of a source beside its kind. A limit or a category that is not there is either
`null` or left out. -/
inductive Contents : Source → List (String × Value) → Prop where
  | ranking {r : Ranking} {v : Value} (h : r.Spelling v) :
      Contents (.ranking r none) [("ranking", v)]
  | limited {r : Ranking} {v : Value} (h : r.Spelling v) (limit : Option UInt32) :
      Contents (.ranking r limit)
        [("ranking", v), ("limit", (Form.option Form.uint32).write limit)]
  | team : Contents (.team none) []
  | category (c : Option String) :
      Contents (.team c) [("category", (Form.option Form.string).write c)]

/-- The values that say a source: its kind among its other members in any order, or a list that
begins with its kind and goes on with the others in their order. -/
inductive Spelling (s : Source) : Value → Prop where
  | tagged {members ms : List (String × Value)} (h : s.Contents members)
      (hms : ms.Perm (("kind", .string s.kind.name) :: members)) : Spelling s (.object ms)
  | listed {m : String × Value} {members : List (String × Value)} (h : s.Contents (m :: members)) :
      Spelling s (.array (.string s.kind.name :: (m :: members).map Prod.snd))

theorem spelling_write (s : Source) : s.Spelling s.write := by
  cases s with
  | ranking r limit =>
    cases limit with
    | none => exact .tagged (.ranking r.spelling_write) (.refl _)
    | some n => exact .tagged (.limited r.spelling_write (some n)) (.refl _)
  | team category =>
    cases category with
    | none => exact .tagged (.category none) (.refl _)
    | some c => exact .tagged (.category (some c)) (.refl _)

/-! ### Limits and categories -/

theorem decodeLimit_write (limit : Option UInt32) :
    decodeOption decodeUInt32 ((Form.option Form.uint32).write limit) = .ok limit := by
  cases limit with
  | none => rfl
  | some n =>
    have hn := n.toNat_lt
    have hwithin : (0 : Int) ≤ n.toNat ∧ (n.toNat : Int) ≤ (UInt32.size - 1 : Nat) := by
      simp only [UInt32.size]
      omega
    simp only [Form.option, Form.uint32, decodeOption, decodeUInt32, decodeInteger, Number.within,
      if_pos hwithin, Int.toNat_natCast, UInt32.ofNat_toNat]

theorem decodeCategory_write (c : Option String) :
    decodeOption decodeString ((Form.option Form.string).write c) = .ok c := by
  cases c with
  | none => rfl
  | some c => rfl

theorem whole_limit (depth : Nat) (limit : Option UInt32) :
    Whole depth ((Form.option Form.uint32).write limit) := by
  cases limit with
  | none => exact .null _
  | some n =>
    have hn := n.toNat_lt
    refine .integer _ ?_ ?_
    · simp only [minValue_toInt]
      omega
    · simp only [largestSignificand, UInt64.size]
      omega

theorem whole_category (depth : Nat) (c : Option String) :
    Whole depth ((Form.option Form.string).write c) := by
  cases c with
  | none => exact .null _
  | some c => exact .string _ c

namespace Ranked

variable {v : Value} {limit : Option UInt32} {members : List (String × Value)}

theorem whole (h : Ranked v limit members) (hv : Whole (nestingLimit - 1) v) :
    ∀ m ∈ members, m.1 ≠ "kind" ∧ Whole (nestingLimit - 1) m.2 := by
  have hranking : "ranking" ≠ "kind" := by decide
  have hlimit : "limit" ≠ "kind" := by decide
  cases h with
  | alone => exact List.forall_mem_singleton.2 ⟨hranking, hv⟩
  | limited limit =>
    exact List.forall_mem_cons.2
      ⟨⟨hranking, hv⟩, List.forall_mem_singleton.2 ⟨hlimit, whole_limit _ limit⟩⟩

/-- A source is made of the members in any order as its ranking is made. -/
theorem decodeKind_object (h : Ranked v limit members) {ms : List (String × Value)}
    (hms : ms.Perm members) :
    decodeKind .ranking (.object ms) = (Ranking.decode v).map fun r => .ranking r limit := by
  cases h with
  | alone =>
    rw [List.perm_singleton.1 hms]
    simp only [decodeKind, decodeRankingMembers, RankingParts.take, if_true]
    cases Ranking.decode v <;> rfl
  | limited limit =>
    rcases List.perm_pair.1 hms with rfl | rfl
    all_goals
      simp only [decodeKind, decodeRankingMembers, RankingParts.take, String.reduceEq, if_true,
        if_false, decodeLimit_write]
      cases Ranking.decode v <;> rfl

theorem decodeKind_array (h : Ranked v limit members) :
    decodeKind .ranking (.array (members.map Prod.snd)) =
      (Ranking.decode v).map fun r => .ranking r limit := by
  cases h with
  | alone =>
    simp only [List.map_cons, List.map_nil, decodeKind, decodeRankingItems]
    cases Ranking.decode v <;> rfl
  | limited limit =>
    simp only [List.map_cons, List.map_nil, decodeKind, decodeRankingItems, decodeLimit_write,
      noneLeft]
    cases Ranking.decode v <;> rfl

end Ranked

namespace Contents

variable {s : Source} {members : List (String × Value)}

/-- All that is said of a source beside its kind can be kept and read whole. -/
theorem whole (h : s.Contents members) :
    ∀ m ∈ members, m.1 ≠ "kind" ∧ Whole (nestingLimit - 1) m.2 := by
  have hcategory : "category" ≠ "kind" := by decide
  cases h with
  | ranking h => exact Ranked.alone.whole (h.whole _)
  | limited h limit => exact (Ranked.limited limit).whole (h.whole _)
  | team => exact List.forall_mem_nil _
  | category c => exact List.forall_mem_singleton.2 ⟨hcategory, whole_category _ c⟩

/-- A source is made again of its kind and of the other members in any order. -/
theorem decodeKind_object (h : s.Contents members) {ms : List (String × Value)}
    (hms : ms.Perm members) : decodeKind s.kind (.object ms) = .ok s := by
  cases h with
  | ranking h =>
    rw [kind, Ranked.alone.decodeKind_object hms, h.decode_eq]
    rfl
  | limited h limit =>
    rw [kind, (Ranked.limited limit).decodeKind_object hms, h.decode_eq]
    rfl
  | team =>
    rw [List.perm_nil.1 hms]
    rfl
  | category c =>
    rw [List.perm_singleton.1 hms]
    simp only [kind, decodeKind, decodeTeamMembers, if_true, decodeCategory_write, Option.getD_some]

theorem decodeKind_array {m : String × Value} (h : s.Contents (m :: members)) :
    decodeKind s.kind (.array ((m :: members).map Prod.snd)) = .ok s := by
  cases h with
  | ranking h =>
    rw [kind, Ranked.alone.decodeKind_array, h.decode_eq]
    rfl
  | limited h limit =>
    rw [kind, (Ranked.limited limit).decodeKind_array, h.decode_eq]
    rfl
  | category c =>
    simp only [List.map_cons, List.map_nil, kind, decodeKind, decodeTeamItems, decodeCategory_write,
      noneLeft]

end Contents

/-! ### Reading -/

theorem read_skipGap (text : Bytes) : read (skipGap text) = read text := by
  simp only [read, readParts, skipGap_skipGap]

section Members

variable {k : SourceKind} {text after rest : Bytes}

theorem readMember_kind (ht : Quoted k.name text) (hafter : AfterName text after)
    (hrest : EndsNumber rest) (done : List (String × Value)) :
    readMember "kind" ⟨none, done⟩ (after ++ rest) = .ok (⟨some k, done⟩, rest) := by
  have hread := (readVariantName_takes k.find_name ht).readMember_eq readVariantName_skipGap hafter
    hrest
  simp only [readMember, if_true, hread]
  rfl

theorem readMember_other {m : String × Value}
    (hm : m.1 ≠ "kind" ∧ Whole (nestingLimit - 1) m.2) (ht : Says m.2 text)
    (hafter : AfterName text after) (hrest : EndsNumber rest) (found : Option SourceKind)
    (done : List (String × Value)) :
    readMember m.1 ⟨found, done⟩ (after ++ rest) = .ok (⟨found, m :: done⟩, rest) := by
  obtain ⟨hne, hwhole⟩ := hm
  have hread := (hwhole.takes ht).readMember_eq (readBuffered_skipGap _) hafter hrest
  simp only [readMember, if_neg hne, hread]
  rfl

end Members

/-- The walk through the members sets the kind apart, wherever it stands, and keeps the others. -/
theorem collects_members {k : SourceKind} {before after : List (String × Value)}
    (h : ∀ m ∈ before ++ after, m.1 ≠ "kind" ∧ Whole (nestingLimit - 1) m.2)
    {ms : List (String × Bytes)}
    (hms : SayMembers (before ++ ("kind", .string k.name) :: after) ms) :
    Collects readMember ⟨none, []⟩ ms (.ok ⟨some k, (before ++ after).reverse⟩) := by
  obtain ⟨ms₁, ms₂, rfl, hbefore, hrest⟩ := hms.exists_append
  obtain ⟨⟩ | ⟨hkind, hkindAfter, hafter⟩ := hrest
  have hfront : Collects readMember ⟨none, []⟩ ms₁ (.ok ⟨none, before.reverse ++ []⟩) :=
    collects_reverse (Parts.mk none) hbefore (fun m hm _ _ ht hafter done _ hrest =>
      readMember_other (h m (List.mem_append_left after hm)) ht hafter hrest none done) []
  have hback : Collects readMember ⟨some k, before.reverse⟩ _
      (.ok ⟨some k, after.reverse ++ before.reverse⟩) :=
    collects_reverse (Parts.mk (some k)) hafter (fun m hm _ _ ht hafter done _ hrest =>
      readMember_other (h m (List.mem_append_right before hm)) ht hafter hrest (some k) done)
      before.reverse
  rw [List.append_nil] at hfront
  rw [List.reverse_append]
  exact hfront.append (.cons (fun _ hrest =>
    readMember_kind (says_string_iff.1 hkind) hkindAfter hrest before.reverse) hback)

/-- A source is made of what its text is taken apart into. -/
theorem takes_of_parts {k : SourceKind} {v : Value} {text : Bytes}
    (h : Takes readParts text (.ok (k, v))) : Takes Source.read text (decodeKind k v) := by
  refine ⟨h.opensValue, fun rest hrest => ?_⟩
  simp only [Source.read, h.read_append rest hrest, Except.map]
  cases decodeKind k v <;> rfl

/-- A source is read from an object with its kind and other members, in any order. -/
theorem takes_tagged {k : SourceKind} {members ms : List (String × Value)}
    (hms : ms.Perm (("kind", .string k.name) :: members))
    (hmembers : ∀ m ∈ members, m.1 ≠ "kind" ∧ Whole (nestingLimit - 1) m.2)
    {r : Except Problem Source}
    (hdecode : ∀ others, others.Perm members → decodeKind k (.object others) = r) {text : Bytes}
    (ht : Says (.object ms) text) : Takes Source.read text r := by
  -- the kind stands somewhere among the members, and the others stand around it
  obtain ⟨before, after, rfl⟩ := List.append_of_mem (hms.mem_iff.2 List.mem_cons_self)
  have hothers : (before ++ after).Perm members := (List.perm_middle.symm.trans hms).cons_inv
  rw [← hdecode _ hothers]
  refine takes_of_parts ?_
  have hparts (text : Bytes) : readParts (objectOpen :: text) = readObject text := rfl
  cases ht with
  | object hsaid hnamed henclosed =>
    have hcollects := collects_members (fun m hm => hmembers m (hothers.mem_iff.1 hm)) hsaid
    refine ⟨opensValue_objectOpen _, fun rest _ => ?_⟩
    obtain ⟨close, hread, hclose⟩ := readMembers_enclosed hcollects hnamed henclosed rest
    rw [List.cons_append, hparts]
    simp only [readObject, hread, hclose, List.reverse_reverse]
    rfl

/-- A source is read from a list of its kind and other values. -/
theorem takes_listed {k : SourceKind} {items : List Value}
    (hitems : ∀ v ∈ items, Whole (nestingLimit - 1) v) {text : Bytes}
    (ht : Says (.array (.string k.name :: items)) text) :
    Takes Source.read text (decodeKind k (.array items)) := by
  refine takes_of_parts ?_
  have hparts (text : Bytes) : readParts (listOpen :: text) = readTuple text := rfl
  cases ht with
  | array hsaid henclosed =>
    obtain ⟨⟩ | ⟨hkind, hothers⟩ := hsaid
    have hkindTakes := readVariantName_takes k.find_name (says_string_iff.1 hkind)
    have hitemsTakes := takes_items hothers fun v hv _ => (hitems v hv).takes
    cases henclosed with
    | @items ws _ others _ hws hfollowed =>
      have hlen := hfollowed.length_le
      have hends := hfollowed.endsNumber endsNumber_listClose
      refine ⟨opensValue_listOpen _, fun rest _ => ?_⟩
      obtain ⟨close, hread, hclose⟩ := readElementsFrom_followed hitemsTakes hfollowed
        (others ++ rest) [] rest (by rw [List.length_append]; omega)
      rw [List.cons_append, hparts, readTuple, List.append_assoc, List.append_assoc,
        nextElement_first hws (hkindTakes.opensValue.append _)]
      simp only [hkindTakes.read_append _ (hends rest), Except.map, hread, hclose,
        List.reverse_nil, List.nil_append]

namespace Spelling

variable {s : Source} {v : Value}

/-- A source is read from any text of each of its spellings. -/
theorem takes (h : s.Spelling v) {text : Bytes} (ht : Says v text) :
    Takes Source.read text (.ok s) := by
  cases h with
  | tagged h hms =>
    exact takes_tagged hms h.whole (fun _ hothers => h.decodeKind_object hothers) ht
  | listed h =>
    rw [← h.decodeKind_array]
    refine takes_listed (fun v hv => ?_) ht
    obtain ⟨m, hm, rfl⟩ := List.mem_map.1 hv
    exact (h.whole m hm).2

theorem whole (h : s.Spelling v) : Whole nestingLimit v := by
  cases h with
  | tagged h hms =>
    have hkind : Whole (nestingLimit - 1) (.string s.kind.name) := .string _ _
    refine .object fun m hm => ?_
    rcases List.mem_cons.1 (hms.mem_iff.1 hm) with rfl | hm
    · exact hkind
    · exact (h.whole m hm).2
  | listed h =>
    have hkind : Whole (nestingLimit - 1) (.string s.kind.name) := .string _ _
    refine .array (List.forall_mem_cons.2 ⟨hkind, fun v hv => ?_⟩)
    obtain ⟨m, hm, rfl⟩ := List.mem_map.1 hv
    exact (h.whole m hm).2

theorem readsAs (h : s.Spelling v) (gap : Option Nat) : ReadsAs Source.read gap v s :=
  (h.takes (h.whole.said gap)).readsAs

end Spelling

theorem form_lawful : form.Lawful :=
  Form.lawful_of_readsAs read_skipGap fun gap s => s.spelling_write.readsAs gap

end Source

/-- A source or a ranking, however it came to be, is read back from its text. So whatever text one
was read from, the text that is written of it is read as the same; and no name in it is empty or has
blanks around it. Among the texts that are read as one are its spellings as an object, in any order,
and as a list. -/
theorem source_reparse :
    (∀ s : Source, Source.form.parse (utf8 (Source.form.text s)) = .ok s ∧
      Source.form.parse (utf8 (Source.form.prettyText s)) = .ok s) ∧
    (∀ r : Ranking, Ranking.form.parse (utf8 (Ranking.form.text r)) = .ok r ∧
      Ranking.form.parse (utf8 (Ranking.form.prettyText r)) = .ok r) ∧
    (∀ text s, Source.form.parse text = .ok s →
      Source.form.parse (utf8 (Source.form.text s)) = Source.form.parse text ∧
        ∀ r ∈ s.ranking?, Text.Unpadded r.id.text) ∧
    (∀ text r, Ranking.form.parse text = .ok r →
      Ranking.form.parse (utf8 (Ranking.form.text r)) = Ranking.form.parse text ∧
        Text.Unpadded r.id.text) ∧
    (∀ (s : Source) (v : Value), s.Spelling v → Source.form.parse (utf8 (render v)) = .ok s) ∧
    (∀ (r : Ranking) (v : Value), r.Spelling v →
      Ranking.form.parse (utf8 (render v)) = .ok r) := by
  refine ⟨fun s => ?_, fun r => ?_, fun text s h => ?_, fun text r h => ?_, fun s v h => ?_,
    fun r v h => ?_⟩
  · exact ⟨Source.form_lawful.parse_text s, Source.form_lawful.parse_prettyText s⟩
  · exact ⟨Ranking.form_lawful.parse_text r, Ranking.form_lawful.parse_prettyText r⟩
  · rw [h, Source.form_lawful.parse_text]
    exact ⟨rfl, fun r _ => r.id.unpadded⟩
  · rw [h, Ranking.form_lawful.parse_text]
    exact ⟨rfl, r.id.unpadded⟩
  · rw [render, Text.utf8_ofList]
    exact (h.readsAs none).readWhole_eq
  · rw [render, Text.utf8_ofList]
    exact (h.readsAs none).readWhole_eq

/-- A list with a ranking by its number, an object from its last member to its first, and a ranking
in escapes, of one name with blanks around it. -/
theorem source_reparse_spellings :
    let r : Ranking := ⟨.group, ⟨"g", rfl, by decide⟩⟩
    let s : Source := .ranking r (some 7)
    let numbered := utf8 "[\"ranking\",[1,\" g \"],7]"
    let escaped := utf8 "\x7b\"id\":\"\\u0067\\t\",\"kind\":\"group\"\x7d"
    let reversed : Value := .object [("limit", .number (.integer 7)),
      ("ranking", .array [.string "group", .string " g"]), ("kind", .string "ranking")]
    Source.form.parse numbered = .ok s ∧ s.Spelling reversed ∧
      Source.form.parse (utf8 (render reversed)) = .ok s ∧
      Source.form.parse (utf8 (Source.form.text s)) = Source.form.parse numbered ∧
      Ranking.form.parse escaped = .ok r ∧
      Ranking.form.parse (utf8 (Ranking.form.text r)) = Ranking.form.parse escaped ∧
      Text.Unpadded r.id.text := by
  intro r s numbered escaped reversed
  have hnumbered : Source.form.parse numbered = .ok s := rfl
  have hescaped : Ranking.form.parse escaped = .ok r := rfl
  have hlisted : r.Spelling (.array [.string "group", .string " g"]) := .listed rfl
  have horder := List.reverse_perm ([("kind", .string "ranking"),
    ("ranking", .array [.string "group", .string " g"]),
    ("limit", .number (.integer 7))] : List (String × Value))
  have hreversed : s.Spelling reversed := .tagged (.limited hlisted (some 7)) horder
  obtain ⟨-, -, hsource, hranking, hspelling, -⟩ := source_reparse
  exact ⟨hnumbered, hreversed, hspelling s reversed hreversed, (hsource _ s hnumbered).1, hescaped,
    hranking _ r hescaped⟩

end Scoreline
