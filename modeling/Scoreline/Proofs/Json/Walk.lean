import Mathlib.Data.List.Forall2
import Scoreline.Proofs.Json.Quoted

/-!
# Scoreline.Proofs.Json.Walk

The walks through lists and objects, on any text that has the right marks in it (`Enclosed`), with
blanks around every item.

An item opens with a byte that is neither a blank nor a mark of a list (`OpensValue`), so the walk
stops right before it. One step of a walk takes one item and one byte of the budget
(`readElementsFrom_step`, `readMembersFrom_step`); the walks themselves are by induction on the items.
What becomes of one text is said by `Takes`, be it a value or a problem, and of the members of an
object by `Collects`: each of them takes the step from what is gathered before it to what is gathered
after it, or is refused.
-/

namespace Scoreline
namespace Json

/-! ## Blanks -/

/-- Whether a text is of blanks alone. -/
def Blanks (ws : Bytes) : Prop := ∀ b ∈ ws, isGap b = true

theorem blanks_nil : Blanks [] := List.forall_mem_nil _

theorem skipGap_append {ws : Bytes} (h : Blanks ws) (text : Bytes) :
    skipGap (ws ++ text) = skipGap text :=
  List.dropWhile_append_of_pos h

theorem skipGap_blanks {ws : Bytes} (h : Blanks ws) : skipGap ws = [] := by
  rw [← List.append_nil ws, skipGap_append h]
  rfl

theorem skipGap_skipGap (text : Bytes) : skipGap (skipGap text) = skipGap text := by
  induction text with
  | nil => rfl
  | cons b text ih =>
    cases h : isGap b with
    | true =>
      have hskip : skipGap (b :: text) = skipGap text := List.dropWhile_cons_of_pos h
      rw [hskip, ih]
    | false => rw [skipGap_cons h, skipGap_cons h]

/-- A number ends at a blank and at whatever else it ends at after one. -/
theorem endsNumber_blanks {ws rest : Bytes} (h : Blanks ws) (hrest : EndsNumber rest) :
    EndsNumber (ws ++ rest) := by
  cases ws with
  | nil => exact hrest
  | cons b ws =>
    have hb : isGap b = true := h b List.mem_cons_self
    simp only [isGap, Bool.or_eq_true, beq_iff_eq] at hb
    rcases hb with ((rfl | rfl) | rfl) | rfl
    all_goals exact endsNumber_cons rfl (by decide) (by decide) (by decide) _

theorem endsNumber_of_blanks {ws : Bytes} (h : Blanks ws) : EndsNumber ws :=
  List.append_nil ws ▸ endsNumber_blanks h endsNumber_nil

theorem endsNumber_comma (rest : Bytes) : EndsNumber (comma :: rest) :=
  endsNumber_cons rfl (by decide) (by decide) (by decide) rest

theorem endsNumber_listClose (rest : Bytes) : EndsNumber (listClose :: rest) :=
  endsNumber_cons rfl (by decide) (by decide) (by decide) rest

theorem endsNumber_objectClose (rest : Bytes) : EndsNumber (objectClose :: rest) :=
  endsNumber_cons rfl (by decide) (by decide) (by decide) rest

/-! ## Items between marks -/

/-- Whether a text begins as a value does, for all that a walk through a list can tell. -/
def OpensValue (text : Bytes) : Prop :=
  ∃ b rest, text = b :: rest ∧ isGap b = false ∧ b ≠ comma ∧ b ≠ listClose

theorem opensValue_cons {b : UInt8} (hgap : isGap b = false) (hcomma : b ≠ comma)
    (hclose : b ≠ listClose) (rest : Bytes) : OpensValue (b :: rest) :=
  ⟨b, rest, rfl, hgap, hcomma, hclose⟩

theorem opensValue_listOpen (rest : Bytes) : OpensValue (listOpen :: rest) :=
  opensValue_cons rfl (by decide) (by decide) rest

theorem opensValue_objectOpen (rest : Bytes) : OpensValue (objectOpen :: rest) :=
  opensValue_cons rfl (by decide) (by decide) rest

theorem OpensValue.append {text : Bytes} (h : OpensValue text) (rest : Bytes) :
    OpensValue (text ++ rest) := by
  obtain ⟨b, tail, rfl, hb⟩ := h
  exact ⟨b, tail ++ rest, rfl, hb⟩

theorem OpensValue.length_pos {text : Bytes} (h : OpensValue text) : 0 < text.length := by
  obtain ⟨b, tail, rfl, -⟩ := h
  exact Nat.succ_pos _

theorem Quoted.opensValue {s : String} {text : Bytes} (h : Quoted s text) : OpensValue text := by
  cases h with
  | quotes => exact opensValue_cons rfl (by decide) (by decide) _

/-- The texts of items, each with a comma before it, and a closing mark. -/
inductive Followed (mark : UInt8) : List Bytes → Bytes → Prop where
  | close {ws : Bytes} (hws : Blanks ws) : Followed mark [] (ws ++ [mark])
  | comma {ws ws' item text : Bytes} {items : List Bytes} (hws : Blanks ws) (hws' : Blanks ws')
      (tail : Followed mark items text) :
      Followed mark (item :: items) (ws ++ comma :: (ws' ++ (item ++ text)))

/-- The texts of items with commas between them, and a closing mark. -/
inductive Enclosed (mark : UInt8) : List Bytes → Bytes → Prop where
  | empty {ws : Bytes} (hws : Blanks ws) : Enclosed mark [] (ws ++ [mark])
  | items {ws item text : Bytes} {items : List Bytes} (hws : Blanks ws)
      (tail : Followed mark items text) : Enclosed mark (item :: items) (ws ++ (item ++ text))

theorem Followed.endsNumber {mark : UInt8} (hmark : ∀ rest, EndsNumber (mark :: rest))
    {items : List Bytes} {text : Bytes} (h : Followed mark items text) (rest : Bytes) :
    EndsNumber (text ++ rest) := by
  cases h with
  | close hws =>
    rw [List.append_assoc]
    exact endsNumber_blanks hws (hmark rest)
  | comma hws =>
    rw [List.append_assoc]
    exact endsNumber_blanks hws (endsNumber_comma _)

theorem Followed.length_le {mark : UInt8} {items : List Bytes} {text : Bytes}
    (h : Followed mark items text) : items.length ≤ text.length := by
  induction h with
  | close => exact Nat.zero_le _
  | comma hws hws' tail ih =>
    simp only [List.length_cons, List.length_append]
    omega

/-! ## Lists -/

section Marks

variable {ws ws' text : Bytes}

theorem nextElement_first (hws : Blanks ws) (h : OpensValue text) :
    nextElement true (ws ++ text) = .ok (some text) := by
  obtain ⟨b, tail, rfl, hgap, hcomma, hclose⟩ := h
  rw [nextElement, skipGap_append hws, skipGap_cons hgap]
  split
  · rename_i heq
    cases heq
  · rename_i heq
    cases heq
    exact absurd rfl hclose
  · rename_i heq
    cases heq
    exact absurd rfl hcomma
  · rw [if_pos rfl]

theorem nextElement_comma (hws : Blanks ws) (hws' : Blanks ws') (h : OpensValue text) :
    nextElement false (ws ++ comma :: (ws' ++ text)) = .ok (some text) := by
  obtain ⟨b, tail, rfl, hgap, hcomma, hclose⟩ := h
  have hmark : skipGap (comma :: (ws' ++ b :: tail)) = comma :: (ws' ++ b :: tail) :=
    skipGap_cons rfl _
  rw [nextElement, skipGap_append hws, hmark]
  split
  · rename_i heq
    cases heq
  · rename_i heq
    cases heq
  · rename_i heq
    cases heq
    rw [if_neg (by simp), skipGap_append hws', skipGap_cons hgap]
    split
    · rename_i heq
      cases heq
    · rename_i heq
      cases heq
      exact absurd rfl hclose
    · rfl
  · rename_i hother
    exact absurd rfl (hother _)

theorem nextElement_close (first : Bool) (hws : Blanks ws) (rest : Bytes) :
    nextElement first (ws ++ listClose :: rest) = .ok none := by
  rw [nextElement, skipGap_append hws]
  rfl

theorem closeList_close (hws : Blanks ws) (rest : Bytes) :
    closeList (ws ++ listClose :: rest) = .ok rest := by
  rw [closeList, skipGap_append hws]
  rfl

end Marks

theorem readElementsFrom_step {α : Type} {read : Reader α} {budget : Bytes} {first : Bool}
    {text next rest : Bytes} {a : α} (done : List α) (hbudget : 0 < budget.length)
    (hnext : nextElement first text = .ok (some next)) (hread : read next = .ok (a, rest)) :
    readElementsFrom read budget first done text =
      readElementsFrom read budget.tail false (a :: done) rest := by
  cases budget with
  | nil => exact absurd hbudget (Nat.lt_irrefl 0)
  | cons x budget =>
    rw [readElementsFrom, hnext]
    simp only [hread, List.tail_cons]

/-- What `read` makes of a text, whatever follows that a number could end at. -/
structure Takes {α : Type} (read : Reader α) (text : Bytes) (r : Except Problem α) : Prop where
  opensValue : OpensValue text
  read_append : ∀ rest, EndsNumber rest → read (text ++ rest) = r.map fun a => (a, rest)

section Elements

variable {α : Type} {read : Reader α}

/-- A whole text may be a text that `read` takes, with blanks around it. -/
theorem Takes.readWhole_eq (hskip : ∀ text, read (skipGap text) = read text) {text : Bytes}
    {r : Except Problem α} (h : Takes read text r) {ws ws' : Bytes} (hws : Blanks ws)
    (hws' : Blanks ws') : readWhole read (ws ++ (text ++ ws')) = r := by
  rw [readWhole, ← hskip, skipGap_append hws, hskip, h.read_append ws' (endsNumber_of_blanks hws')]
  cases r with
  | error p => rfl
  | ok a => simp only [Except.map, skipGap_blanks hws']

/-- The elements after the first are read up to the closing bracket. -/
theorem readElementsFrom_followed {texts : List Bytes} {as : List α}
    (h : List.Forall₂ (fun text a => Takes read text (.ok a)) texts as) {text : Bytes}
    (ht : Followed listClose texts text) (budget : Bytes) (done : List α) (rest : Bytes)
    (hbudget : texts.length ≤ budget.length) :
    ∃ close, readElementsFrom read budget false done (text ++ rest) =
      .ok (done.reverse ++ as, close) ∧ closeList close = .ok rest := by
  induction ht generalizing as budget done with
  | @close ws hws =>
    cases h
    rw [List.append_assoc, List.singleton_append]
    refine ⟨ws ++ listClose :: rest, ?_, closeList_close hws rest⟩
    rw [readElementsFrom, nextElement_close false hws, List.append_nil]
  | @comma ws ws' item text items hws hws' tail ih =>
    cases h with
    | @cons _ a _ as head others =>
      have hlen : items.length + 1 ≤ budget.length := hbudget
      have hends := tail.endsNumber endsNumber_listClose rest
      have hnext := nextElement_comma hws hws' (head.opensValue.append (text ++ rest))
      obtain ⟨close, hread, hclose⟩ :=
        ih others budget.tail (a :: done) (by rw [List.length_tail]; omega)
      refine ⟨close, ?_, hclose⟩
      simp only [List.append_assoc, List.cons_append]
      rw [readElementsFrom_step done (by omega) hnext (head.read_append _ hends), hread,
        List.reverse_cons, List.append_assoc, List.singleton_append]

/-- The elements of a list are read up to its end. -/
theorem readElements_enclosed {texts : List Bytes} {as : List α}
    (h : List.Forall₂ (fun text a => Takes read text (.ok a)) texts as) {text : Bytes}
    (ht : Enclosed listClose texts text) (rest : Bytes) :
    readElements read (text ++ rest) = .ok (as, rest) := by
  cases ht with
  | empty hws =>
    cases h
    rw [List.append_assoc, List.singleton_append, readElements, readElementsFrom,
      nextElement_close true hws]
    simp only [closeList_close hws, List.reverse_nil]
  | @items ws item text items hws tail =>
    cases h with
    | @cons _ a _ as head others =>
      have hpos := head.opensValue.length_pos
      have hlen := tail.length_le
      obtain ⟨close, hread, hclose⟩ := readElementsFrom_followed others tail
        (ws ++ (item ++ (text ++ rest))).tail [a] rest (by
          simp only [List.length_tail, List.length_append]
          omega)
      rw [List.append_assoc, List.append_assoc, readElements,
        readElementsFrom_step [] (by simp only [List.length_append]; omega)
          (nextElement_first hws (head.opensValue.append _))
          (head.read_append _ (tail.endsNumber endsNumber_listClose rest)), hread]
      simp only [hclose, List.reverse_cons, List.reverse_nil, List.nil_append,
        List.singleton_append]

end Elements

/-! ## Objects -/

section Marks

variable {ws ws' quoted : Bytes} {name : String}

theorem nextKey_first (hws : Blanks ws) (hname : Quoted name quoted) (after : Bytes) :
    nextKey true (ws ++ (quoted ++ after)) = .ok (some (quoted ++ after)) := by
  obtain ⟨h⟩ := hname
  rw [nextKey, skipGap_append hws]
  rfl

theorem nextKey_comma (hws : Blanks ws) (hws' : Blanks ws') (hname : Quoted name quoted)
    (after : Bytes) :
    nextKey false (ws ++ comma :: (ws' ++ (quoted ++ after))) = .ok (some (quoted ++ after)) := by
  have hmark : skipGap (comma :: (ws' ++ (quoted ++ after))) =
      comma :: (ws' ++ (quoted ++ after)) := skipGap_cons rfl _
  obtain ⟨h⟩ := hname
  rw [nextKey, skipGap_append hws, hmark]
  split
  · rename_i heq
    cases heq
  · rename_i heq
    cases heq
  · rename_i heq
    cases heq
    rw [if_neg (by simp), skipGap_append hws']
    rfl
  · rename_i hother
    exact absurd rfl (hother _)

theorem nextKey_close (first : Bool) (hws : Blanks ws) (rest : Bytes) :
    nextKey first (ws ++ objectClose :: rest) = .ok none := by
  rw [nextKey, skipGap_append hws]
  rfl

theorem closeObject_close (hws : Blanks ws) (rest : Bytes) :
    closeObject (ws ++ objectClose :: rest) = .ok rest := by
  rw [closeObject, skipGap_append hws]
  rfl

theorem expectColon_colon (hws : Blanks ws) (rest : Bytes) :
    expectColon (ws ++ colon :: rest) = .ok rest := by
  rw [expectColon, skipGap_append hws]
  rfl

end Marks

/-- The text of a member: a text of its name, and what follows that. -/
inductive Member : String × Bytes → Bytes → Prop where
  | named {name : String} {quoted : Bytes} (h : Quoted name quoted) (after : Bytes) :
      Member (name, after) (quoted ++ after)

section Members

variable {σ : Type} {step : MemberStep σ}

/-- The members take the step from `s` on, one after the other, until they are all taken or one is
refused. -/
inductive Collects (step : MemberStep σ) :
    σ → List (String × Bytes) → Except Problem σ → Prop where
  | nil (s : σ) : Collects step s [] (.ok s)
  | cons {s s' : σ} {name : String} {after : Bytes} {ms : List (String × Bytes)}
      {r : Except Problem σ}
      (head : ∀ rest, EndsNumber rest → step name s (after ++ rest) = .ok (s', rest))
      (tail : Collects step s' ms r) : Collects step s ((name, after) :: ms) r
  | refused {s : σ} {name : String} {after : Bytes} {ms : List (String × Bytes)} {p : Problem}
      (head : ∀ rest, EndsNumber rest → step name s (after ++ rest) = .error p) :
      Collects step s ((name, after) :: ms) (.error p)

/-- The last member decides. -/
theorem Collects.last {s : σ} {name : String} {after : Bytes} {r : Except Problem σ}
    (h : ∀ rest, EndsNumber rest → step name s (after ++ rest) = r.map fun s' => (s', rest)) :
    Collects step s [(name, after)] r := by
  cases r with
  | error p => exact .refused h
  | ok s' => exact .cons h (.nil s')

/-- What a walk through an object comes to that gathers `r`: with nothing refused, the closing brace
is left over, and `rest` behind it. -/
def Closes (out : Except Problem (σ × Bytes)) (rest : Bytes) : Except Problem σ → Prop
  | .ok s => ∃ close, out = .ok (s, close) ∧ closeObject close = .ok rest
  | .error p => out = .error p

section Step

variable {budget : Bytes} {first : Bool} {s : σ} {name : String} {text quoted after : Bytes}
  (hbudget : 0 < budget.length) (hname : Quoted name quoted)
include hbudget hname

theorem readMembersFrom_step (hnext : nextKey first text = .ok (some (quoted ++ after))) :
    readMembersFrom step budget first s text =
      match step name s after with
      | .error p => .error p
      | .ok (s', rest) => readMembersFrom step budget.tail false s' rest := by
  obtain ⟨inside, rfl, hread⟩ := hname.exists_inside
  cases budget with
  | nil => exact absurd hbudget (Nat.lt_irrefl 0)
  | cons x budget =>
    rw [List.cons_append] at hnext
    rw [readMembersFrom, hnext]
    cases hstep : step name s after with
    | error p => simp only [List.drop_succ_cons, List.drop_zero, hread, hstep]
    | ok taken => simp only [List.drop_succ_cons, List.drop_zero, hread, hstep, List.tail_cons]

/-- One member is taken or refused; if it is taken, the rest of the walk decides. -/
theorem closes_of_step {ms : List (String × Bytes)} {r : Except Problem σ} {others rest : Bytes}
    (hnext : nextKey first text = .ok (some (quoted ++ (after ++ others))))
    (hends : EndsNumber others) (h : Collects step s ((name, after) :: ms) r)
    (hothers : ∀ s', Collects step s' ms r →
      Closes (readMembersFrom step budget.tail false s' others) rest r) :
    Closes (readMembersFrom step budget first s text) rest r := by
  rw [readMembersFrom_step hbudget hname hnext]
  cases h with
  | cons head tail =>
    rw [head _ hends]
    exact hothers _ tail
  | refused head =>
    rw [head _ hends]
    rfl

end Step

/-- The members after the first are gathered up to the closing brace. -/
theorem readMembersFrom_followed {s : σ} {ms : List (String × Bytes)} {r : Except Problem σ}
    (h : Collects step s ms r) {texts : List Bytes} (hms : List.Forall₂ Member ms texts)
    {text : Bytes} (ht : Followed objectClose texts text) (budget rest : Bytes)
    (hbudget : texts.length ≤ budget.length) :
    Closes (readMembersFrom step budget false s (text ++ rest)) rest r := by
  induction ht generalizing s ms budget with
  | @close ws hws =>
    cases hms
    cases h
    rw [List.append_assoc, List.singleton_append, readMembersFrom, nextKey_close false hws]
    exact ⟨ws ++ objectClose :: rest, rfl, closeObject_close hws rest⟩
  | @comma ws ws' item text items hws hws' tail ih =>
    have hlen : items.length + 1 ≤ budget.length := hbudget
    have hends := tail.endsNumber endsNumber_objectClose rest
    cases hms with
    | cons hmember hothers =>
      obtain ⟨hname, after⟩ := hmember
      have hnext := nextKey_comma hws hws' hname (after ++ (text ++ rest))
      simp only [List.append_assoc, List.cons_append]
      refine closes_of_step (by omega) hname hnext hends h fun s' hcollects => ?_
      exact ih hcollects hothers budget.tail (by rw [List.length_tail]; omega)

/-- The members of an object are gathered up to its closing brace. -/
theorem readMembers_enclosed {s : σ} {ms : List (String × Bytes)} {r : Except Problem σ}
    (h : Collects step s ms r) {texts : List Bytes} (hms : List.Forall₂ Member ms texts)
    {text : Bytes} (ht : Enclosed objectClose texts text) (rest : Bytes) :
    Closes (readMembers step s (text ++ rest)) rest r := by
  cases ht with
  | @empty ws hws =>
    cases hms
    cases h
    rw [List.append_assoc, List.singleton_append, readMembers, readMembersFrom,
      nextKey_close true hws]
    exact ⟨ws ++ objectClose :: rest, rfl, closeObject_close hws rest⟩
  | @items ws item text items hws tail =>
    have hlen := tail.length_le
    have hends := tail.endsNumber endsNumber_objectClose rest
    cases hms with
    | cons hmember hothers =>
      obtain ⟨hname, after⟩ := hmember
      have hpos := hname.opensValue.length_pos
      have hnext := nextKey_first hws hname (after ++ (text ++ rest))
      simp only [List.append_assoc, readMembers]
      refine closes_of_step (by simp only [List.length_append]; omega) hname hnext hends h
        fun s' hcollects => ?_
      refine readMembersFrom_followed hcollects hothers tail _ rest ?_
      simp only [List.length_tail, List.length_append]
      omega

/-- What may stand between the name of a member and the end of its value. -/
inductive AfterName (text : Bytes) : Bytes → Prop where
  | colon {ws ws' : Bytes} (hws : Blanks ws) (hws' : Blanks ws') :
      AfterName text (ws ++ colon :: (ws' ++ text))

/-- The value of a member is read after its colon. -/
theorem Takes.readMember_eq {α : Type} {read : Reader α}
    (hskip : ∀ text, read (skipGap text) = read text) {text after rest : Bytes}
    {r : Except Problem α} (h : Takes read text r) (ht : AfterName text after)
    (hrest : EndsNumber rest) : readMember read (after ++ rest) = r.map fun a => (a, rest) := by
  obtain ⟨hws, hws'⟩ := ht
  simp only [List.append_assoc, List.cons_append]
  rw [readMember, expectColon_colon hws]
  simp only
  rw [← hskip, skipGap_append hws', hskip, h.read_append rest hrest]

end Members

end Json
end Scoreline
