import Scoreline.Proofs.Json.Walk

/-!
# Scoreline.Proofs.Json.Written

Values as they are written, in one line or over several. A written list and a written object are texts
with the right marks in them (`enclosed_array`, `enclosed_object`), so the walks go through them.

`ReadsAs` says what is made of a written value, and `Gathers` what becomes of the members of a written
object. Whoever says this of the elements or of the members has it for the list (`readElements_array`)
or for the object (`readMembers_object`).
-/

namespace Scoreline
namespace Json

open Text (bytes)

theorem opensValue_integerChars (n : Int) : OpensValue (bytes (integerChars n)) := by
  rw [bytes_integerChars]
  split
  · exact opensValue_cons rfl (by decide) (by decide) _
  · obtain ⟨d, ds, heq, hd⟩ := exists_digitBytes_cons n.natAbs
    rw [heq]
    refine opensValue_cons (isGap_eq_false_of_isDigit hd) ?_ ?_ ds <;>
      rintro rfl <;> exact absurd hd (by decide)

theorem opensValue_stringChars (s : String) : OpensValue (bytes (stringChars s)) :=
  (quoted_stringChars s).opensValue

/-- The line break and the indentation that are written before an item. -/
def breakBytes (gap : Option Nat) : Bytes := bytes (breakChars gap)

theorem blanks_breakBytes (gap : Option Nat) : Blanks (breakBytes gap) := by
  intro b hb
  cases gap with
  | none => cases hb
  | some level =>
    have hspaces : ∀ c ∈ List.replicate (2 * level) ' ', c.toNat < 0x80 := by
      intro c hc
      rw [List.eq_of_mem_replicate hc]
      decide
    rw [breakBytes, breakChars, Text.bytes_cons_ascii (by decide), Text.bytes_ascii hspaces,
      List.map_replicate] at hb
    rcases List.mem_cons.1 hb with rfl | hb
    · rfl
    · rw [List.eq_of_mem_replicate hb]
      rfl

section Written

variable {α σ : Type} {read : Reader α} {step : MemberStep σ} {gap : Option Nat}

/-- `read` takes the text of `v` for `a`, whatever follows that a number could end at. -/
structure ReadsAs (read : Reader α) (gap : Option Nat) (v : Value) (a : α) : Prop where
  opensValue : OpensValue (bytes (v.chars gap))
  read_append : ∀ rest, EndsNumber rest → read (bytes (v.chars gap) ++ rest) = .ok (a, rest)

theorem Takes.readsAs {v : Value} {a : α} (h : Takes read (bytes (v.chars gap)) (.ok a)) :
    ReadsAs read gap v a :=
  ⟨h.opensValue, h.read_append⟩

theorem ReadsAs.takes {v : Value} {a : α} (h : ReadsAs read gap v a) :
    Takes read (bytes (v.chars gap)) (.ok a) :=
  ⟨h.opensValue, h.read_append⟩

/-- A whole text may be the text of `v`. -/
theorem ReadsAs.readWhole_eq {v : Value} {a : α} (h : ReadsAs read gap v a) :
    readWhole read (bytes (v.chars gap)) = .ok a := by
  have hread := h.read_append [] endsNumber_nil
  rw [List.append_nil] at hread
  rw [readWhole, hread]
  rfl

/-! ## Lists -/

theorem bytes_itemsChars_cons (gap : Option Nat) (v : Value) (vs : List Value) :
    bytes (itemsChars gap (v :: vs)) =
      comma :: (breakBytes gap ++ (bytes (v.chars gap) ++ bytes (itemsChars gap vs))) := by
  rw [itemsChars]
  simp only [List.cons_append, List.append_assoc]
  rw [Text.bytes_cons_ascii (by decide)]
  simp only [Text.bytes_append]
  rfl

theorem followed_itemsChars (gap outer : Option Nat) (vs : List Value) :
    Followed listClose (vs.map fun v => bytes (v.chars gap))
      (bytes (itemsChars gap vs) ++ (breakBytes outer ++ [listClose])) := by
  induction vs with
  | nil => exact .close (blanks_breakBytes outer)
  | cons v vs ih =>
    rw [bytes_itemsChars_cons, List.cons_append]
    simp only [List.append_assoc]
    exact .comma blanks_nil (blanks_breakBytes gap) ih

/-- The text of a list has the texts of its elements between the marks. -/
theorem enclosed_array (gap : Option Nat) (vs : List Value) :
    ∃ text, bytes (Value.chars gap (.array vs)) = listOpen :: text ∧
      Enclosed listClose (vs.map fun v => bytes (v.chars (inner gap))) text := by
  have hclose : bytes [']'] = [listClose] := rfl
  cases vs with
  | nil => exact ⟨_, rfl, .empty blanks_nil⟩
  | cons v vs =>
    refine ⟨_, ?_, .items (blanks_breakBytes (inner gap)) (followed_itemsChars (inner gap) gap vs)⟩
    rw [Value.chars]
    simp only [List.cons_append, List.append_assoc]
    rw [Text.bytes_cons_ascii (by decide)]
    simp only [Text.bytes_append, hclose]
    rfl

theorem opensValue_array (gap : Option Nat) (vs : List Value) :
    OpensValue (bytes (Value.chars gap (.array vs))) := by
  obtain ⟨text, htext, -⟩ := enclosed_array gap vs
  rw [htext]
  exact opensValue_listOpen text

/-- The elements of a written list are read up to its end. -/
theorem readElements_array {vs : List Value} {as : List α}
    (h : List.Forall₂ (ReadsAs read (inner gap)) vs as) (rest : Bytes) :
    ∃ text, bytes (Value.chars gap (.array vs)) ++ rest = listOpen :: text ∧
      readElements read text = .ok (as, rest) := by
  obtain ⟨text, htext, henclosed⟩ := enclosed_array gap vs
  have htakes : List.Forall₂ (fun text a => Takes read text (.ok a))
      (vs.map fun v => bytes (v.chars (inner gap))) as :=
    List.forall₂_map_left_iff.2 (h.imp fun v a hread => hread.takes)
  exact ⟨text ++ rest, by rw [htext, List.cons_append], readElements_enclosed htakes henclosed rest⟩

/-! ## Objects -/

/-- What follows the name of a written member: the colon and the value. -/
def afterName (gap : Option Nat) (v : Value) : Bytes := bytes (colonChars gap ++ v.chars gap)

theorem afterName_afterName (gap : Option Nat) (v : Value) :
    AfterName (bytes (v.chars gap)) (afterName gap v) := by
  have hspace : Blanks [0x20] := List.all_eq_true.1 rfl
  cases gap with
  | none => exact .colon blanks_nil blanks_nil
  | some level => exact .colon blanks_nil hspace

/-- The members take the step from `s` to `s'`, one after the other. -/
inductive Gathers (step : MemberStep σ) (gap : Option Nat) :
    σ → List (String × Value) → σ → Prop where
  | nil (s : σ) : Gathers step gap s [] s
  | cons {s s' t : σ} {name : String} {v : Value} {ms : List (String × Value)}
      (head : ∀ rest, EndsNumber rest → step name s (afterName gap v ++ rest) = .ok (s', rest))
      (tail : Gathers step gap s' ms t) : Gathers step gap s ((name, v) :: ms) t

theorem Gathers.collects {s t : σ} {ms : List (String × Value)} (h : Gathers step gap s ms t) :
    Collects step s (ms.map fun m => (m.1, afterName gap m.2)) (.ok t) := by
  induction h with
  | nil s => exact .nil s
  | cons head _ ih => exact .cons head ih

/-- The text of a written member. -/
def memberBytes (gap : Option Nat) (m : String × Value) : Bytes :=
  bytes (stringChars m.1) ++ afterName gap m.2

theorem forall₂_member (gap : Option Nat) (ms : List (String × Value)) :
    List.Forall₂ Member (ms.map fun m => (m.1, afterName gap m.2)) (ms.map (memberBytes gap)) :=
  List.forall₂_map_left_iff.2 (List.forall₂_map_right_iff.2
    (List.forall₂_same.2 fun m _ => .named (quoted_stringChars m.1) (afterName gap m.2)))

theorem bytes_membersChars_cons (m : String × Value) (ms : List (String × Value)) :
    bytes (membersChars gap (m :: ms)) =
      comma :: (breakBytes gap ++ (memberBytes gap m ++ bytes (membersChars gap ms))) := by
  rw [membersChars]
  simp only [List.cons_append, List.append_assoc]
  rw [Text.bytes_cons_ascii (by decide)]
  simp only [Text.bytes_append, List.append_assoc, memberBytes, afterName, breakBytes]
  rfl

theorem followed_membersChars (gap outer : Option Nat) (ms : List (String × Value)) :
    Followed objectClose (ms.map (memberBytes gap))
      (bytes (membersChars gap ms) ++ (breakBytes outer ++ [objectClose])) := by
  induction ms with
  | nil => exact .close (blanks_breakBytes outer)
  | cons m ms ih =>
    rw [bytes_membersChars_cons, List.cons_append]
    simp only [List.append_assoc]
    exact .comma blanks_nil (blanks_breakBytes gap) ih

/-- The text of an object has the texts of its members between the marks. -/
theorem enclosed_object (gap : Option Nat) (ms : List (String × Value)) :
    ∃ text, bytes (Value.chars gap (.object ms)) = objectOpen :: text ∧
      Enclosed objectClose (ms.map (memberBytes (inner gap))) text := by
  have hclose : bytes ['\x7d'] = [objectClose] := rfl
  have hcolon : colonChars gap = colonChars (inner gap) := by cases gap <;> rfl
  cases ms with
  | nil => exact ⟨_, rfl, .empty blanks_nil⟩
  | cons m ms =>
    refine ⟨_, ?_,
      .items (blanks_breakBytes (inner gap)) (followed_membersChars (inner gap) gap ms)⟩
    rw [Value.chars, hcolon]
    simp only [List.cons_append, List.append_assoc]
    rw [Text.bytes_cons_ascii (by decide)]
    simp only [Text.bytes_append, memberBytes, afterName, breakBytes, hclose, List.append_assoc]
    rfl

theorem opensValue_object (gap : Option Nat) (ms : List (String × Value)) :
    OpensValue (bytes (Value.chars gap (.object ms))) := by
  obtain ⟨text, htext, -⟩ := enclosed_object gap ms
  rw [htext]
  exact opensValue_objectOpen text

/-- The members of a written object are gathered up to its closing brace. -/
theorem readMembers_object {s t : σ} {ms : List (String × Value)}
    (h : Gathers step (inner gap) s ms t) (rest : Bytes) :
    ∃ text close, bytes (Value.chars gap (.object ms)) ++ rest = objectOpen :: text ∧
      readMembers step s text = .ok (t, close) ∧ closeObject close = .ok rest := by
  obtain ⟨text, htext, henclosed⟩ := enclosed_object gap ms
  obtain ⟨close, hread, hclose⟩ :=
    readMembers_enclosed h.collects (forall₂_member (inner gap) ms) henclosed rest
  exact ⟨text ++ rest, close, by rw [htext, List.cons_append], hread, hclose⟩

/-- The value of a written member is read after its colon. -/
theorem ReadsAs.readMember_afterName (hskip : ∀ text, read (skipGap text) = read text) {v : Value}
    {a : α} (h : ReadsAs read gap v a) {rest : Bytes} (hrest : EndsNumber rest) :
    readMember read (afterName gap v ++ rest) = .ok (a, rest) :=
  h.takes.readMember_eq hskip (afterName_afterName gap v) hrest

end Written

end Json
end Scoreline
