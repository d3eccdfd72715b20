import Scoreline.Proofs.Json.Written

/-!
# Scoreline.Proofs.Json.Says

The texts of a value. `Says` leaves open what the rules of JSON leave open: which blanks stand between
the parts, and how the characters of a string are spelled. A `Document` may also have blanks around
its value.

Real numbers have no text here, since they have many, and which number a text says takes rounding.
-/

namespace Scoreline
namespace Json

open Text (bytes)

mutual

/-- Whether a text says a value. -/
inductive Says : Value → Bytes → Prop where
  | null : Says .null (lowerN :: restOfNull)
  | true : Says (.boolean true) (lowerT :: restOfTrue)
  | false : Says (.boolean false) (lowerF :: restOfFalse)
  | integer (n : Int) : Says (.number (.integer n)) (bytes (integerChars n))
  | string {s : String} {text : Bytes} (h : Quoted s text) : Says (.string s) text
  | array {items : List Value} {texts : List Bytes} {text : Bytes}
      (hitems : List.Forall₂ Says items texts) (h : Enclosed listClose texts text) :
      Says (.array items) (listOpen :: text)
  | object {members : List (String × Value)} {ms : List (String × Bytes)} {texts : List Bytes}
      {text : Bytes} (hmembers : SayMembers members ms) (hms : List.Forall₂ Member ms texts)
      (h : Enclosed objectClose texts text) : Says (.object members) (objectOpen :: text)

/-- Whether what follows the names says the values of members. -/
inductive SayMembers : List (String × Value) → List (String × Bytes) → Prop where
  | nil : SayMembers [] []
  | cons {name : String} {v : Value} {text after : Bytes} {members : List (String × Value)}
      {ms : List (String × Bytes)} (head : Says v text) (hafter : AfterName text after)
      (tail : SayMembers members ms) : SayMembers ((name, v) :: members) ((name, after) :: ms)

end

theorem says_string_iff {s : String} {text : Bytes} : Says (.string s) text ↔ Quoted s text := by
  constructor
  · rintro ⟨⟩
    assumption
  · exact .string

theorem Says.opensValue {v : Value} {text : Bytes} (h : Says v text) : OpensValue text := by
  cases h with
  | null | true | false => exact opensValue_cons rfl (by decide) (by decide) _
  | integer n => exact opensValue_integerChars n
  | string h => exact h.opensValue
  | array => exact opensValue_listOpen _
  | object => exact opensValue_objectOpen _

/-- A whole text that says a value. -/
inductive Document (v : Value) : Bytes → Prop where
  | blanks {ws text ws' : Bytes} (hws : Blanks ws) (h : Says v text) (hws' : Blanks ws') :
      Document v (ws ++ (text ++ ws'))

/-- A document is read as the texts of its value are. -/
theorem Document.readWhole_eq {α : Type} {read : Reader α} {r : Except Problem α} {v : Value}
    {text : Bytes} (h : Document v text) (hskip : ∀ text, read (skipGap text) = read text)
    (htakes : ∀ text, Says v text → Takes read text r) : readWhole read text = r := by
  obtain ⟨hws, hsaid, hws'⟩ := h
  exact (htakes _ hsaid).readWhole_eq hskip hws hws'

/-- The members of two lists, one behind the other, are said by two texts. -/
theorem SayMembers.exists_append {before after : List (String × Value)} {ms : List (String × Bytes)}
    (h : SayMembers (before ++ after) ms) :
    ∃ ms₁ ms₂, ms = ms₁ ++ ms₂ ∧ SayMembers before ms₁ ∧ SayMembers after ms₂ := by
  induction before generalizing ms with
  | nil => exact ⟨[], ms, rfl, .nil, h⟩
  | cons m before ih =>
    cases h with
    | cons head hafter tail =>
      obtain ⟨ms₁, ms₂, rfl, hbefore, hrest⟩ := ih tail
      exact ⟨_ :: ms₁, ms₂, rfl, .cons head hafter hbefore, hrest⟩

/-- What follows the names of written members says their values, if their texts do. -/
theorem sayMembers_afterName {gap : Option Nat} {ms : List (String × Value)}
    (h : ∀ m ∈ ms, Says m.2 (bytes (m.2.chars gap))) :
    SayMembers ms (ms.map fun m => (m.1, afterName gap m.2)) := by
  induction ms with
  | nil => exact .nil
  | cons m ms ih =>
    exact .cons (h m List.mem_cons_self) (afterName_afterName gap m.2)
      (ih fun m' hm' => h m' (List.mem_cons_of_mem m hm'))

section Walks

variable {σ : Type} {step : MemberStep σ}

theorem Collects.append {s s' : σ} {ms ms' : List (String × Bytes)} {r : Except Problem σ}
    (h : Collects step s ms (.ok s')) (h' : Collects step s' ms' r) :
    Collects step s (ms ++ ms') r := by
  generalize hmiddle : (.ok s' : Except Problem σ) = middle at h
  induction h with
  | nil s =>
    cases hmiddle
    exact h'
  | cons head _ ih => exact .cons head (ih hmiddle)
  | refused => cases hmiddle

/-- Members that each go on top of what is there end up in reverse; `wrap` is what else there is. -/
theorem collects_reverse (wrap : List (String × Value) → σ) {members : List (String × Value)}
    {ms : List (String × Bytes)} (h : SayMembers members ms)
    (hstep : ∀ m ∈ members, ∀ text after, Says m.2 text → AfterName text after →
      ∀ done rest, EndsNumber rest →
        step m.1 (wrap done) (after ++ rest) = .ok (wrap (m :: done), rest))
    (done : List (String × Value)) :
    Collects step (wrap done) ms (.ok (wrap (members.reverse ++ done))) := by
  induction members generalizing ms done with
  | nil =>
    cases h
    exact .nil _
  | cons m members ih =>
    cases h with
    | cons head hafter tail =>
      rw [List.reverse_cons, List.append_assoc, List.singleton_append]
      refine .cons (hstep _ List.mem_cons_self _ _ head hafter done) ?_
      exact ih tail (fun m' hm' => hstep m' (List.mem_cons_of_mem _ hm')) _

end Walks

end Json
end Scoreline
