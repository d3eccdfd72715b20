import Scoreline.Proofs.Json.Form
import Scoreline.Proofs.Json.Says

/-!
# Scoreline.Proofs.Json.Buffered

Values that are read whole are read from any text that says them.

`Whole` says of which values this holds at a given depth: lists and objects nest no deeper, integers
fit in a machine word, and no number is real, since the text of a real number does not tell its
format. The main statement is `Whole.takes`, by induction on the value. What is written of a value is
one of its texts (`Whole.said`).
-/

namespace Scoreline
namespace Json

open Text (bytes)

/-- A value that can be read whole where at most `depth` lists and objects may nest. -/
inductive Whole : Nat → Value → Prop where
  | null (depth : Nat) : Whole depth .null
  | boolean (depth : Nat) (b : Bool) : Whole depth (.boolean b)
  | integer (depth : Nat) {n : Int} (low : Int64.minValue.toInt ≤ n)
      (high : n ≤ (largestSignificand : Int)) : Whole depth (.number (.integer n))
  | string (depth : Nat) (s : String) : Whole depth (.string s)
  | array {depth : Nat} {items : List Value} (h : ∀ v ∈ items, Whole depth v) :
      Whole (depth + 1) (.array items)
  | object {depth : Nat} {members : List (String × Value)}
      (h : ∀ m ∈ members, Whole depth m.2) : Whole (depth + 1) (.object members)

/-- A number is read whole as it is read where one is wanted. -/
theorem readBufferedWith_number {expected : String} {text rest : Bytes} {n : Number}
    (h : readNumber expected text = .ok (n, rest)) (nested : Option (Reader Value)) :
    readBufferedWith nested text = .ok (.number n, rest) := by
  rw [readNumber] at h
  rw [readBufferedWith]
  split at h
  · cases h
  · rename_i text' hgap
    rw [hgap]
    simp only [h]
  · rename_i d text' _ hgap
    split at h
    · rename_i hd
      rw [hgap]
      split <;> rename_i heq <;> cases heq
      -- no mark of another kind of value is a digit
      all_goals try exact absurd hd (by decide)
      simp only [if_pos hd, h]
    · cases h

theorem readBufferedWith_quote (nested : Option (Reader Value)) (text : Bytes) :
    readBufferedWith nested (quoteMark :: text) =
      match readQuoted text with
      | .error p => .error p
      | .ok (s, rest) => .ok (.string s, rest) := rfl

theorem readBuffered_array (depth : Nat) (text : Bytes) :
    readBuffered (depth + 1) (listOpen :: text) =
      match readElements (readBuffered depth) text with
      | .error p => .error p
      | .ok (items, rest) => .ok (.array items, rest) := rfl

/-- Gathers the members of an object that is read whole, last first. -/
def gatherMember (read : Reader Value) : MemberStep (List (String × Value)) := fun name done text =>
  match readMember read text with
  | .error p => .error p
  | .ok (v, rest) => .ok ((name, v) :: done, rest)

theorem readBuffered_object (depth : Nat) (text : Bytes) :
    readBuffered (depth + 1) (objectOpen :: text) =
      match readMembers (gatherMember (readBuffered depth)) [] text with
      | .error p => .error p
      | .ok (members, rest) =>
        match closeObject rest with
        | .error p => .error p
        | .ok rest => .ok (.object members.reverse, rest) := rfl

/-- What the lists and objects of a value may hold that is read at `depth`. -/
def readNested : Nat → Option (Reader Value)
  | 0 => none
  | depth + 1 => some (readBuffered depth)

theorem readBuffered_eq (depth : Nat) :
    readBuffered depth = readBufferedWith (readNested depth) := by
  cases depth <;> rfl

theorem readBuffered_skipGap (depth : Nat) (text : Bytes) :
    readBuffered depth (skipGap text) = readBuffered depth text := by
  rw [readBuffered_eq, readBufferedWith, skipGap_skipGap, readBufferedWith]

/-- A value that can be read whole is said by what is written of it. -/
theorem Whole.said {depth : Nat} {v : Value} (h : Whole depth v) (gap : Option Nat) :
    Says v (bytes (v.chars gap)) := by
  induction h generalizing gap with
  | null => exact .null
  | boolean depth b =>
    cases b with
    | true => exact .true
    | false => exact .false
  | integer => exact .integer _
  | string depth s => exact .string (quoted_stringChars s)
  | @array depth items _ ih =>
    obtain ⟨text, htext, henclosed⟩ := enclosed_array gap items
    rw [htext]
    exact .array (List.forall₂_map_right_iff.2
      (List.forall₂_same.2 fun v hv => ih v hv (inner gap))) henclosed
  | @object depth members _ ih =>
    obtain ⟨text, htext, henclosed⟩ := enclosed_object gap members
    rw [htext]
    exact .object (sayMembers_afterName fun m hm => ih m hm (inner gap))
      (forall₂_member (inner gap) members) henclosed

/-- What is written of a value, in one line, is a document of it. -/
theorem Whole.document_render {depth : Nat} {v : Value} (h : Whole depth v) :
    Document v (Text.utf8 (render v)) := by
  have hblanks := Document.blanks blanks_nil (h.said none) blanks_nil
  rwa [List.nil_append, List.append_nil, ← Text.utf8_ofList] at hblanks

theorem takes_items {read : Reader Value} {items : List Value} {texts : List Bytes}
    (h : List.Forall₂ Says items texts)
    (hread : ∀ v ∈ items, ∀ text, Says v text → Takes read text (.ok v)) :
    List.Forall₂ (fun text v => Takes read text (.ok v)) texts items := by
  induction h with
  | nil => exact .nil
  | @cons v text items texts head tail ih =>
    exact .cons (hread v List.mem_cons_self text head)
      (ih fun v' hv' => hread v' (List.mem_cons_of_mem v hv'))

/-- A value is read whole from any text of it. -/
theorem Whole.takes {depth : Nat} {v : Value} (h : Whole depth v) {text : Bytes}
    (ht : Says v text) : Takes (readBuffered depth) text (.ok v) := by
  refine ⟨ht.opensValue, fun rest hrest => ?_⟩
  induction h generalizing text rest with
  | null depth =>
    cases ht
    rw [readBuffered_eq]
    rfl
  | boolean depth b =>
    cases ht
    all_goals
      rw [readBuffered_eq]
      rfl
  | integer depth low high =>
    cases ht
    rw [readBuffered_eq]
    exact readBufferedWith_number (readNumber_write "" low high hrest) _
  | string depth s =>
    obtain ⟨inside, rfl, hread⟩ := (says_string_iff.1 ht).exists_inside
    rw [readBuffered_eq, List.cons_append, readBufferedWith_quote, hread]
    rfl
  -- what a list or an object holds is read one depth further in
  | @array depth items _ ih =>
    have htakes (v : Value) (hv : v ∈ items) (text : Bytes) (ht : Says v text) :
        Takes (readBuffered depth) text (.ok v) :=
      ⟨ht.opensValue, fun rest hrest => ih v hv ht rest hrest⟩
    cases ht with
    | array hitems henclosed =>
      have hread := readElements_enclosed (takes_items hitems htakes) henclosed rest
      rw [List.cons_append, readBuffered_array, hread]
      rfl
  | @object depth members _ ih =>
    have htakes (m : String × Value) (hm : m ∈ members) {text : Bytes} (ht : Says m.2 text) :
        Takes (readBuffered depth) text (.ok m.2) :=
      ⟨ht.opensValue, fun rest hrest => ih m hm ht rest hrest⟩
    cases ht with
    | object hmembers hms henclosed =>
      have hcollects : Collects (gatherMember (readBuffered depth)) [] _
          (.ok (members.reverse ++ [])) :=
        collects_reverse id hmembers (fun m hm text after hsaid hafter done rest hrest => by
          rw [id_eq, gatherMember, (htakes m hm hsaid).readMember_eq (readBuffered_skipGap depth)
            hafter hrest]
          rfl) []
      obtain ⟨close, hread, hclose⟩ := readMembers_enclosed hcollects hms henclosed rest
      rw [List.cons_append, readBuffered_object, hread]
      simp only [hclose, List.append_nil, List.reverse_reverse]
      rfl

/-- A value is read whole as it was written. -/
theorem Whole.readsAs {depth : Nat} {v : Value} (h : Whole depth v) (gap : Option Nat) :
    ReadsAs (readBuffered depth) gap v v :=
  (h.takes (h.said gap)).readsAs

end Json
end Scoreline
