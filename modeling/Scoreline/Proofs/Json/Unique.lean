import Scoreline.Proofs.Json.Passing

/-!
# Scoreline.Proofs.Json.Unique

A text is of one tree only (`Tree.WholeText.unique`).

Where a value ends is told by passing over it: from two texts with values at their fronts, if they are
the same, the same is left over (`Tree.Text.cancel`). So two readings of a list or an object find the
same items in it (`followed_unique`), and the statement is by induction on one of the two trees.
-/

namespace Scoreline
namespace Json

/-! ## Fronts -/

theorem blanks_cancel {ws ws' xs ys : Bytes} {b c : UInt8} (hws : Blanks ws) (hws' : Blanks ws')
    (hb : isGap b = false) (hc : isGap c = false) (heq : ws ++ b :: xs = ws' ++ c :: ys) :
    b = c ∧ xs = ys := by
  have hgaps := congrArg skipGap heq
  rw [skipGap_append hws, skipGap_append hws', skipGap_cons hb, skipGap_cons hc] at hgaps
  exact List.cons.inj hgaps

/-- Texts of values at the front of one text are the same, and so is what is left of it. -/
theorem Tree.Text.cancel {t t' : Tree} {text text' ws ws' rest rest' : Bytes} (h : t.Text text)
    (h' : t'.Text text') (hws : Blanks ws) (hws' : Blanks ws') (hrest : EndsNumber rest)
    (hrest' : EndsNumber rest') (heq : ws ++ (text ++ rest) = ws' ++ (text' ++ rest')) :
    text = text' ∧ rest = rest' := by
  have hskip := h.skipValue_eq hws hrest
  rw [heq, h'.skipValue_eq hws' hrest', Except.ok.injEq] at hskip
  subst hskip
  obtain ⟨b, tail, rfl, hgap, -⟩ := h.opensValue
  obtain ⟨b', tail', rfl, hgap', -⟩ := h'.opensValue
  obtain ⟨rfl, htail⟩ := blanks_cancel hws hws' hgap hgap' heq
  exact ⟨congrArg _ (List.append_cancel_right htail), rfl⟩

theorem Key.cancel {k k' : Key} {rest rest' : Bytes} (heq : k.text ++ rest = k'.text ++ rest') :
    k = k' ∧ rest = rest' := by
  obtain ⟨content, hcontent⟩ := k
  obtain ⟨content', hcontent'⟩ := k'
  simp only [Key.text, List.cons_append, List.append_assoc, List.nil_append, List.cons.injEq,
    true_and] at heq
  have hskip := hcontent.skipQuoted_eq rest
  rw [heq, hcontent'.skipQuoted_eq rest', Except.ok.injEq] at hskip
  subst hskip
  obtain rfl := List.append_cancel_right heq
  exact ⟨rfl, rfl⟩

/-- The text of a member. -/
inductive MemberText (m : Key × Tree) : Bytes → Prop where
  | named {text after : Bytes} (h : m.2.Text text) (hafter : AfterName text after) :
      MemberText m (m.1.text ++ after)

theorem forall₂_memberText {members : List (Key × Tree)} {texts : List Bytes} :
    MemberTexts members texts ↔ List.Forall₂ MemberText members texts := by
  induction members generalizing texts with
  | nil =>
    constructor
    · rintro ⟨⟩
      exact .nil
    · rintro ⟨⟩
      exact .nil
  | cons m members ih =>
    constructor
    · intro h
      cases h with
      | cons head hafter tail => exact .cons (.named head hafter) (ih.1 tail)
    · intro h
      cases h with
      | cons head tail =>
        obtain ⟨head, hafter⟩ := head
        exact .cons head hafter (ih.2 tail)

theorem MemberText.cancel {m m' : Key × Tree} {text text' rest rest' : Bytes}
    (h : MemberText m text) (h' : MemberText m' text') (hrest : EndsNumber rest)
    (hrest' : EndsNumber rest') (heq : text ++ rest = text' ++ rest') :
    m.1 = m'.1 ∧ (∃ value, m.2.Text value ∧ m'.2.Text value) ∧ rest = rest' := by
  obtain ⟨hvalue, ⟨hws₁, hws₂⟩⟩ := h
  obtain ⟨hvalue', ⟨hws₁', hws₂'⟩⟩ := h'
  simp only [List.append_assoc, List.cons_append] at heq
  obtain ⟨hkey, hafter⟩ := Key.cancel heq
  obtain ⟨-, hafter⟩ := blanks_cancel hws₁ hws₁' (by rfl) (by rfl) hafter
  obtain ⟨rfl, rfl⟩ := hvalue.cancel hvalue' hws₂ hws₂' hrest hrest' hafter
  exact ⟨hkey, ⟨_, hvalue, hvalue'⟩, rfl⟩

theorem Followed.endsNumber_nil {frame : Frame} {texts : List Bytes} {text : Bytes}
    (h : Followed frame.closing texts text) : EndsNumber text :=
  List.append_nil text ▸ h.endsNumber frame.endsNumber_closing []

/-! ## Items -/

section Items

variable {ι : Type} {R : ι → Bytes → Prop} {frame : Frame}

/-- No text of this item begins a text of another one. -/
def Cancels (R : ι → Bytes → Prop) (x : ι) : Prop :=
  ∀ ⦃y item item' rest rest'⦄, R x item → R y item' → EndsNumber rest → EndsNumber rest' →
    item ++ rest = item' ++ rest' → x = y ∧ rest = rest'

variable (hopens : ∀ {x item}, R x item →
  ∃ b tail, item = b :: tail ∧ isGap b = false ∧ b ≠ frame.closing)
include hopens

theorem Cancels.of_blanks {x y : ι} (hx : Cancels R x) {item item' ws ws' rest rest' : Bytes}
    (h : R x item) (h' : R y item') (hws : Blanks ws) (hws' : Blanks ws') (hrest : EndsNumber rest)
    (hrest' : EndsNumber rest') (heq : ws ++ (item ++ rest) = ws' ++ (item' ++ rest')) :
    x = y ∧ rest = rest' := by
  obtain ⟨b, tail, rfl, hgap, -⟩ := hopens h
  obtain ⟨b', tail', rfl, hgap', -⟩ := hopens h'
  obtain ⟨rfl, htail⟩ := blanks_cancel hws hws' hgap hgap' heq
  exact hx h h' hrest hrest' (congrArg _ htail)

/-- Two readings of the items after the first find the same. -/
theorem followed_unique {xs ys : List ι} {texts texts' : List Bytes} {text text' : Bytes}
    (hone : ∀ x ∈ xs, Cancels R x) (h : List.Forall₂ R xs texts)
    (ht : Followed frame.closing texts text) (h' : List.Forall₂ R ys texts')
    (ht' : Followed frame.closing texts' text') (heq : text = text') : xs = ys := by
  induction ht generalizing xs ys texts' text' with
  | @close ws hws =>
    cases h
    cases ht' with
    | close =>
      cases h'
      rfl
    | comma hws' =>
      exact absurd (blanks_cancel hws hws' frame.isGap_closing (by rfl) heq).1
        frame.closing_ne_comma
  | @comma ws₁ ws₂ item text items hws₁ hws₂ tail ih =>
    cases ht' with
    | close hws' =>
      exact absurd (blanks_cancel hws₁ hws' (by rfl) frame.isGap_closing heq).1.symm
        frame.closing_ne_comma
    | @comma ws₁' ws₂' item' text' items' hws₁' hws₂' tail' =>
      obtain ⟨-, hitems⟩ := blanks_cancel hws₁ hws₁' (by rfl) (by rfl) heq
      cases h with
      | @cons x _ xs _ hx hxs =>
        cases h' with
        | @cons y _ ys _ hy hys =>
          obtain ⟨rfl, htail⟩ := (hone x List.mem_cons_self).of_blanks hopens hx hy hws₂ hws₂'
            tail.endsNumber_nil tail'.endsNumber_nil hitems
          rw [ih (fun z hz => hone z (List.mem_cons_of_mem x hz)) hxs hys tail' htail]

theorem enclosed_unique {xs ys : List ι} {texts texts' : List Bytes} {text : Bytes}
    (hone : ∀ x ∈ xs, Cancels R x) (h : List.Forall₂ R xs texts)
    (ht : Enclosed frame.closing texts text) (h' : List.Forall₂ R ys texts')
    (ht' : Enclosed frame.closing texts' text) : xs = ys := by
  have hclose {x : ι} {item ws ws' rest : Bytes} (hx : R x item) (hws : Blanks ws)
      (hws' : Blanks ws') : ws ++ [frame.closing] ≠ ws' ++ (item ++ rest) := by
    intro heq
    obtain ⟨b, tail, rfl, hgap, hne⟩ := hopens hx
    exact hne (blanks_cancel hws hws' frame.isGap_closing hgap heq).1.symm
  generalize heq : text = text' at ht'
  cases ht with
  | empty hws =>
    cases h
    cases ht' with
    | empty =>
      cases h'
      rfl
    | items hws' =>
      cases h' with
      | cons hy => exact absurd heq (hclose hy hws hws')
  | items hws tail =>
    cases h with
    | @cons x _ xs _ hx hxs =>
      cases ht' with
      | empty hws' => exact absurd heq.symm (hclose hx hws' hws)
      | items hws' tail' =>
        cases h' with
        | @cons y _ ys _ hy hys =>
          obtain ⟨rfl, htail⟩ := (hone x List.mem_cons_self).of_blanks hopens hx hy hws hws'
            tail.endsNumber_nil tail'.endsNumber_nil heq
          rw [followed_unique hopens (fun z hz => hone z (List.mem_cons_of_mem x hz)) hxs tail hys
            tail' htail]

end Items

/-! ## Trees -/

theorem Plain.not_opening {text : Bytes} (frame : Frame) : ¬ Plain (frame.opening :: text) := by
  intro h
  obtain ⟨b, tail, heq, -, hlist, hobject, -⟩ := h.skipScalar_eq
  obtain ⟨rfl, -⟩ := List.cons.inj heq
  cases frame with
  | list => exact hlist rfl
  | object => exact hobject rfl

theorem Tree.Text.unique {t t' : Tree} {text : Bytes} (h : t.Text text) (h' : t'.Text text) :
    t = t' := by
  induction t using Tree.forall_of generalizing t' text with
  | plain text' h'' =>
    cases h
    cases h' with
    | plain => rfl
    | array => exact absurd h'' (Plain.not_opening .list)
    | object => exact absurd h'' (Plain.not_opening .object)
  | array items ih =>
    cases h with
    | array hitems henclosed =>
      cases h' with
      | plain h'' => exact absurd h'' (Plain.not_opening .list)
      | array hitems' henclosed' =>
        have hopens {t : Tree} {text : Bytes} (h : t.Text text) :
            ∃ b tail, text = b :: tail ∧ isGap b = false ∧ b ≠ Frame.list.closing := by
          obtain ⟨b, tail, rfl, hgap, -, hclose⟩ := h.opensValue
          exact ⟨b, tail, rfl, hgap, hclose⟩
        have hone (t : Tree) (ht : t ∈ items) : Cancels Tree.Text t := by
          intro t' text text' rest rest' h h' hrest hrest' heq
          obtain ⟨rfl, hrests⟩ := h.cancel h' blanks_nil blanks_nil hrest hrest' heq
          exact ⟨ih t ht h h', hrests⟩
        rw [enclosed_unique hopens hone hitems henclosed hitems' henclosed']
  | object members ih =>
    cases h with
    | object hmembers henclosed =>
      cases h' with
      | plain h'' => exact absurd h'' (Plain.not_opening .object)
      | object hmembers' henclosed' =>
        have hopens {m : Key × Tree} {text : Bytes} (h : MemberText m text) :
            ∃ b tail, text = b :: tail ∧ isGap b = false ∧ b ≠ Frame.object.closing := by
          obtain ⟨-, -⟩ := h
          exact ⟨_, _, rfl, rfl, by decide⟩
        have hone (m : Key × Tree) (hm : m ∈ members) : Cancels MemberText m := by
          intro m' text text' rest rest' h h' hrest hrest' heq
          obtain ⟨hkey, ⟨value, hvalue, hvalue'⟩, hrests⟩ := h.cancel h' hrest hrest' heq
          exact ⟨Prod.ext hkey (ih m hm hvalue hvalue'), hrests⟩
        rw [enclosed_unique hopens hone (forall₂_memberText.1 hmembers) henclosed
          (forall₂_memberText.1 hmembers') henclosed']

/-- Two trees at the front of one text are the same, and so is what is left of it. -/
theorem Tree.Text.eq_of_append {t t' : Tree} {text text' ws ws' rest rest' : Bytes}
    (h : t.Text text) (h' : t'.Text text') (hws : Blanks ws) (hws' : Blanks ws')
    (hrest : EndsNumber rest) (hrest' : EndsNumber rest')
    (heq : ws ++ (text ++ rest) = ws' ++ (text' ++ rest')) : t = t' ∧ rest = rest' := by
  obtain ⟨rfl, hrests⟩ := h.cancel h' hws hws' hrest hrest' heq
  exact ⟨h.unique h', hrests⟩

/-- A text is of one tree only. -/
theorem Tree.WholeText.unique {t t' : Tree} {text : Bytes} (h : t.WholeText text)
    (h' : t'.WholeText text) : t = t' := by
  generalize heq : text = text' at h'
  obtain ⟨hws₁, h, hws₂⟩ := h
  obtain ⟨hws₁', h', hws₂'⟩ := h'
  exact (h.eq_of_append h' hws₁ hws₁' (endsNumber_of_blanks hws₂)
    (endsNumber_of_blanks hws₂') heq).1

end Json
end Scoreline
