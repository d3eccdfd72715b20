import Scoreline.Proofs.Json.Buffered
import Scoreline.Proofs.Name
import Scoreline.Source

/-!
# Scoreline.Proofs.Ranking

Rankings in JSON. A value names a ranking if it is an object with a kind and a string in either order,
or a list of both (`Ranking.Named`). From any text of such a value the ranking is read, and from the
value itself it is made once that has been read whole, which is how a source has its ranking: both as
the name is made of the string (`Ranking.Named.takes`, `Ranking.Named.decode_eq`). A name that comes
before the kind is kept, and checked when the kind is known.

Where the string makes a name the value is a spelling of the ranking (`Ranking.Spelling`). What is
written is one of them, so the form is lawful.
-/

namespace Scoreline

open Json

namespace Ranking

/-- The values that name a ranking: its kind, and a string that its name is to be made of. -/
inductive Named (k : RankingKind) (s : String) : Value → Prop where
  | tagged : Named k s (.object [("kind", .string k.name), ("id", .string s)])
  | reversed : Named k s (.object [("id", .string s), ("kind", .string k.name)])
  | listed : Named k s (.array [.string k.name, .string s])

/-- What is made of a value that names a ranking. -/
def outcome (k : RankingKind) (s : String) : Except Problem Ranking :=
  (Id.outcome k s).map fun id => ⟨k, id⟩

variable {k : RankingKind} {s : String}

theorem decodeNamed_string (k : RankingKind) (s : String) :
    decodeNamed k (.string s) = outcome k s := by
  simp only [decodeNamed, decodeId, decodeString, Id.checked, outcome, Id.outcome]
  cases Id.make k s with
  | none => rfl
  | some id => rfl

theorem read_skipGap (text : Bytes) : read (skipGap text) = read text := by
  simp only [read, skipGap_skipGap]

/-! ## Members -/

section Kind

variable {text after rest : Bytes} (ht : Quoted k.name text) (hafter : AfterName text after)
  (hrest : EndsNumber rest)
include ht hafter hrest

theorem readMember_readKind : Json.readMember readKind (after ++ rest) = .ok (k, rest) :=
  (readVariant_takes k.find_name ht).readMember_eq readVariant_skipGap hafter hrest

theorem readMember_kind_nothing :
    readMember "kind" .nothing (after ++ rest) = .ok (.kind k, rest) := by
  simp only [readMember, if_true, Gathered.hasKind, Bool.false_eq_true, if_false,
    readMember_readKind ht hafter hrest, Gathered.withKind]

/-- With the kind a name that waits for it is checked. -/
theorem readMember_kind_name (s : String) :
    readMember "kind" (.name (.string s)) (after ++ rest) =
      (outcome k s).map fun r => (.both r, rest) := by
  simp only [readMember, if_true, Gathered.hasKind, Bool.false_eq_true, if_false,
    readMember_readKind ht hafter hrest, Gathered.withKind, decodeNamed_string]
  cases outcome k s <;> rfl

end Kind

section Name

variable {text after rest : Bytes} (ht : Quoted s text) (hafter : AfterName text after)
  (hrest : EndsNumber rest)
include ht hafter hrest

/-- A name behind the kind is checked at once. -/
theorem readMember_id_kind :
    readMember "id" (.kind k) (after ++ rest) =
      (outcome k s).map fun r => (.both r, rest) := by
  have hread := (Id.takes k ht).readMember_eq Id.read_skipGap hafter hrest
  simp only [readMember, String.reduceEq, if_false, if_true, Gathered.hasName, Bool.false_eq_true,
    hread, outcome]
  cases Id.outcome k s with
  | error p => rfl
  | ok id => rfl

/-- A name before the kind is kept as it is. -/
theorem readMember_id_nothing :
    readMember "id" .nothing (after ++ rest) = .ok (.name (.string s), rest) := by
  have hwhole := (Whole.string (nestingLimit - 1) s).takes (.string ht)
  have hread := hwhole.readMember_eq (readBuffered_skipGap _) hafter hrest
  simp only [readMember, String.reduceEq, if_false, if_true, Gathered.hasName, Bool.false_eq_true,
    hread]
  rfl

end Name

/-! ## Texts -/

/-- A ranking is read from an object as its members are taken. -/
theorem takes_of_collects {r : Except Problem Ranking} {ms : List (String × Bytes)}
    {texts : List Bytes} {text : Bytes} (h : Collects readMember .nothing ms (r.map .both))
    (hms : List.Forall₂ Member ms texts) (ht : Enclosed objectClose texts text) :
    Takes read (objectOpen :: text) r := by
  have hread (text : Bytes) : read (objectOpen :: text) = readObject text := rfl
  refine ⟨opensValue_objectOpen _, fun rest _ => ?_⟩
  have hcloses := readMembers_enclosed h hms ht rest
  rw [List.cons_append, hread, readObject]
  cases r with
  | error p =>
    have hrefused : readMembers readMember .nothing (text ++ rest) = .error p := hcloses
    rw [hrefused]
    rfl
  | ok r =>
    obtain ⟨close, hmembers, hclose⟩ := hcloses
    simp only [hmembers, Gathered.complete, hclose]
    rfl

theorem collects_tagged {ms : List (String × Bytes)}
    (h : SayMembers [("kind", .string k.name), ("id", .string s)] ms) :
    Collects readMember .nothing ms ((outcome k s).map .both) := by
  obtain ⟨⟩ | ⟨hkind, hkindAfter, h⟩ := h
  obtain ⟨⟩ | ⟨hid, hidAfter, h⟩ := h
  cases h
  have hread (rest : Bytes) (hrest : EndsNumber rest) :=
    readMember_kind_nothing (says_string_iff.1 hkind) hkindAfter hrest
  refine .cons hread (.last fun rest hrest => ?_)
  rw [readMember_id_kind (says_string_iff.1 hid) hidAfter hrest]
  cases outcome k s <;> rfl

theorem collects_reversed {ms : List (String × Bytes)}
    (h : SayMembers [("id", .string s), ("kind", .string k.name)] ms) :
    Collects readMember .nothing ms ((outcome k s).map .both) := by
  obtain ⟨⟩ | ⟨hid, hidAfter, h⟩ := h
  obtain ⟨⟩ | ⟨hkind, hkindAfter, h⟩ := h
  cases h
  have hread (rest : Bytes) (hrest : EndsNumber rest) :=
    readMember_id_nothing (says_string_iff.1 hid) hidAfter hrest
  refine .cons hread (.last fun rest hrest => ?_)
  rw [readMember_kind_name (says_string_iff.1 hkind) hkindAfter hrest]
  cases outcome k s <;> rfl

theorem takes_listed {text : Bytes} (h : Says (.array [.string k.name, .string s]) text) :
    Takes read text (outcome k s) := by
  have hread (text : Bytes) : read (listOpen :: text) = readTuple text := rfl
  cases h with
  | array hitems henclosed =>
    obtain ⟨⟩ | ⟨hkind, hitems⟩ := hitems
    obtain ⟨⟩ | ⟨hid, hitems⟩ := hitems
    cases hitems
    have hkindTakes := readVariantName_takes k.find_name (says_string_iff.1 hkind)
    have hidTakes := Id.takes k (says_string_iff.1 hid)
    obtain ⟨⟩ | ⟨hws, hfollowed⟩ := henclosed
    refine ⟨opensValue_listOpen _, fun rest _ => ?_⟩
    have hends := hfollowed.endsNumber endsNumber_listClose rest
    rw [List.cons_append, hread, readTuple, List.append_assoc, List.append_assoc,
      nextElement_first hws (hkindTakes.opensValue.append _)]
    simp only [hkindTakes.read_append _ hends, Except.map]
    obtain ⟨⟩ | ⟨hcomma, hcomma', hclosed⟩ := hfollowed
    have hends := hclosed.endsNumber endsNumber_listClose rest
    simp only [List.append_assoc, List.cons_append]
    rw [nextElement_comma hcomma hcomma' (hidTakes.opensValue.append _)]
    simp only [hidTakes.read_append _ hends, outcome]
    obtain ⟨hclosed⟩ | ⟨⟩ := hclosed
    rw [List.append_assoc, List.singleton_append]
    cases Id.outcome k s with
    | error p => rfl
    | ok id =>
      simp only [Except.map, closeList_close hclosed]

namespace Named

variable {v : Value}

/-- A ranking is read from any text of a value that names it. -/
theorem takes (h : Named k s v) {text : Bytes} (ht : Says v text) :
    Takes Ranking.read text (outcome k s) := by
  cases h with
  | tagged =>
    cases ht with
    | object hmembers hms henclosed =>
      exact takes_of_collects (collects_tagged hmembers) hms henclosed
  | reversed =>
    cases ht with
    | object hmembers hms henclosed =>
      exact takes_of_collects (collects_reversed hmembers) hms henclosed
  | listed => exact takes_listed ht

/-- A ranking is made of a value that names it once that is read whole. -/
theorem decode_eq (h : Named k s v) : decode v = outcome k s := by
  have hkind : decodeKind (.string k.name) = .ok k := k.find_name
  cases h with
  | tagged | reversed =>
    simp only [decode, decodeMembers, decodeMember, String.reduceEq, if_true, if_false,
      Gathered.hasKind, Gathered.hasName, Bool.false_eq_true, hkind, Gathered.withKind,
      decodeNamed_string]
    cases outcome k s <;> rfl
  | listed =>
    simp only [decode, decodeVariantName, RankingKind.find_name, decodeNamed_string, noneLeft]
    cases outcome k s <;> rfl

theorem whole (h : Named k s v) (depth : Nat) : Whole (depth + 1) v := by
  have hkind : Whole depth (.string k.name) := .string depth k.name
  have hid : Whole depth (.string s) := .string depth s
  cases h with
  | tagged => exact .object (List.forall_mem_cons.2 ⟨hkind, List.forall_mem_singleton.2 hid⟩)
  | reversed => exact .object (List.forall_mem_cons.2 ⟨hid, List.forall_mem_singleton.2 hkind⟩)
  | listed => exact .array (List.forall_mem_cons.2 ⟨hkind, List.forall_mem_singleton.2 hid⟩)

end Named

/-! ## Spellings of a ranking -/

/-- The values that say a ranking: its kind and a text that its name is made of, in an object in
either order or in a list. -/
inductive Spelling (r : Ranking) : Value → Prop where
  | tagged {s : String} (h : Id.make r.kind s = some r.id) :
      Spelling r (.object [("kind", .string r.kind.name), ("id", .string s)])
  | reversed {s : String} (h : Id.make r.kind s = some r.id) :
      Spelling r (.object [("id", .string s), ("kind", .string r.kind.name)])
  | listed {s : String} (h : Id.make r.kind s = some r.id) :
      Spelling r (.array [.string r.kind.name, .string s])

theorem spelling_write (r : Ranking) : r.Spelling r.write := .tagged r.id.make_text

namespace Spelling

variable {r : Ranking} {v : Value}

theorem exists_named (h : r.Spelling v) :
    ∃ s, Named r.kind s v ∧ outcome r.kind s = .ok r := by
  have hmade {s : String} (h : Id.make r.kind s = some r.id) : outcome r.kind s = .ok r := by
    rw [outcome, Id.outcome_eq_ok_iff.2 h]
    rfl
  cases h with
  | tagged h => exact ⟨_, .tagged, hmade h⟩
  | reversed h => exact ⟨_, .reversed, hmade h⟩
  | listed h => exact ⟨_, .listed, hmade h⟩

theorem takes (h : r.Spelling v) {text : Bytes} (ht : Says v text) :
    Takes Ranking.read text (.ok r) := by
  obtain ⟨s, hnamed, houtcome⟩ := h.exists_named
  exact houtcome ▸ hnamed.takes ht

theorem decode_eq (h : r.Spelling v) : decode v = .ok r := by
  obtain ⟨s, hnamed, houtcome⟩ := h.exists_named
  rw [hnamed.decode_eq, houtcome]

theorem whole (h : r.Spelling v) (depth : Nat) : Whole (depth + 1) v := by
  obtain ⟨s, hnamed, -⟩ := h.exists_named
  exact hnamed.whole depth

/-- A ranking is read from each of its spellings as they are written. -/
theorem readsAs (h : r.Spelling v) (gap : Option Nat) : ReadsAs Ranking.read gap v r :=
  (h.takes ((h.whole 0).said gap)).readsAs

end Spelling

theorem form_lawful : form.Lawful :=
  Form.lawful_of_readsAs read_skipGap fun gap r => r.spelling_write.readsAs gap

end Ranking

end Scoreline
