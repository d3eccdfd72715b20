import Scoreline.Proofs.Json.Walk

/-!
# Scoreline.Proofs.Json.Tree

All texts of JSON, as trees. A `Tree` is what is left of a text when its blanks are: the lists and the
objects, with the numbers, the strings and the names in them as they are spelled. Nothing is made of a
number or a string here, so a tree may have numbers of any size and strings with numbered escapes that
are no characters.

* `Plain text` — a literal, a number or a string.
* `Tree.Text t text` — a text of a tree, with blanks between its parts.
* `Tree.WholeText t text` — the same with blanks around it.

Bytes beyond ASCII are not looked at. Among the bytes of a text they are its characters.
-/

namespace Scoreline
namespace Json

open Text (bytes)

/-! ## Strings -/

/-- What may stand between the quotes of a string. The number of an escape may be any, so it need not
denote a character. -/
inductive Loose : Bytes → Prop where
  | nil : Loose []
  | literal {b : UInt8} {text : Bytes} (h : isLiteral b = true) (tail : Loose text) :
      Loose (b :: text)
  | letter {e c : Char} {text : Bytes} (h : (e, c) ∈ letters) (tail : Loose text) :
      Loose (backslash :: UInt8.ofNat e.toNat :: text)
  | number {n : Nat} {ds text : Bytes} (h : Hex4 n ds) (tail : Loose text) :
      Loose (backslash :: lowerU :: (ds ++ text))

theorem loose_literals {bs text : Bytes} (h : ∀ b ∈ bs, isLiteral b = true) (tail : Loose text) :
    Loose (bs ++ text) := by
  induction bs with
  | nil => exact tail
  | cons b bs ih =>
    exact .literal (h b List.mem_cons_self) (ih fun c hc => h c (List.mem_cons_of_mem b hc))

/-- A piece that stands for a character may stand in a string. -/
theorem Spells.loose {c : Char} {piece text : Bytes} (h : Spells c piece) (tail : Loose text) :
    Loose (piece ++ text) := by
  cases h with
  | plain hcontrol hquote hback =>
    exact loose_literals (fun b hb => isLiteral_of_mem hcontrol hquote hback hb) tail
  | escaped h =>
    cases h with
    | letter h => exact .letter h tail
    | number h => exact .number h tail
    | pair hhigh hlow =>
      simp only [List.cons_append, List.append_assoc]
      exact .number hhigh (.number hlow tail)

theorem Content.loose {cs : List Char} {content : Bytes} (h : Content cs content) :
    Loose content := by
  induction h with
  | nil => exact .nil
  | cons head _ ih => exact head.loose ih

/-! ## Numbers -/

/-- The exponent of a number, or nothing. -/
inductive Exponent : Bytes → Prop where
  | none : Exponent []
  | some {e d : UInt8} {sign ds : Bytes} (he : e = lowerE ∨ e = upperE)
      (hsign : sign = [] ∨ sign = [plus] ∨ sign = [minus]) (hd : isDigit d = true)
      (hds : ∀ b ∈ ds, isDigit b = true) : Exponent (e :: (sign ++ d :: ds))

/-- The point of a number with the digits behind it, or nothing. -/
inductive Fraction : Bytes → Prop where
  | none : Fraction []
  | some {d : UInt8} {ds : Bytes} (hd : isDigit d = true) (hds : ∀ b ∈ ds, isDigit b = true) :
      Fraction (point :: d :: ds)

/-- A number without a sign. Only a zero begins with one. -/
inductive Magnitude : Bytes → Prop where
  | zero {f e : Bytes} (hf : Fraction f) (he : Exponent e) : Magnitude (zero :: (f ++ e))
  | digits {d : UInt8} {ds f e : Bytes} (hd : isDigit d = true) (hzero : d ≠ zero)
      (hds : ∀ b ∈ ds, isDigit b = true) (hf : Fraction f) (he : Exponent e) :
      Magnitude (d :: (ds ++ (f ++ e)))

theorem Exponent.endsDigits {e rest : Bytes} (h : Exponent e) (hrest : EndsNumber rest) :
    EndsDigits (e ++ rest) := by
  cases h with
  | none => exact hrest.endsDigits
  | some he =>
    rintro b ⟨⟩
    rcases he with rfl | rfl <;> rfl

theorem Fraction.endsDigits {f e rest : Bytes} (hf : Fraction f) (he : Exponent e)
    (hrest : EndsNumber rest) : EndsDigits (f ++ (e ++ rest)) := by
  cases hf with
  | none => exact he.endsDigits hrest
  | some =>
    rintro b ⟨⟩
    rfl

theorem Magnitude.exists_cons {text : Bytes} (h : Magnitude text) :
    ∃ d ds, text = d :: ds ∧ isDigit d = true := by
  cases h with
  | zero => exact ⟨_, _, rfl, rfl⟩
  | digits hd => exact ⟨_, _, rfl, hd⟩

/-! ## Trees -/

/-- A text that is no list and no object, and has no blanks around it. -/
inductive Plain : Bytes → Prop where
  | literalNull : Plain (lowerN :: restOfNull)
  | literalTrue : Plain (lowerT :: restOfTrue)
  | literalFalse : Plain (lowerF :: restOfFalse)
  | magnitude {text : Bytes} (h : Magnitude text) : Plain text
  | negative {text : Bytes} (h : Magnitude text) : Plain (minus :: text)
  | string {content : Bytes} (h : Loose content) :
      Plain (quoteMark :: (content ++ [quoteMark]))

/-- The name of a member, as it is spelled between its quotes. -/
structure Key where
  content : Bytes
  loose : Loose content

def Key.text (k : Key) : Bytes := quoteMark :: (k.content ++ [quoteMark])

/-- Whether a name is spelled so. -/
def Key.Names (k : Key) (name : String) : Prop := Content name.toList k.content

/-- A name as it is written. -/
def Key.written (name : String) : Key :=
  ⟨bytes (name.toList.flatMap escapeChar), (content_flatMap name.toList).loose⟩

theorem Key.names_written (name : String) : (Key.written name).Names name :=
  content_flatMap name.toList

inductive Tree where
  | plain (text : Bytes) (h : Plain text)
  | array (items : List Tree)
  | object (members : List (Key × Tree))

/-- What holds of the parts of each tree if it holds of the tree, holds of all trees. -/
@[elab_as_elim]
theorem Tree.forall_of {P : Tree → Prop} (plain : ∀ text h, P (.plain text h))
    (array : ∀ items, (∀ t ∈ items, P t) → P (.array items))
    (object : ∀ members, (∀ m ∈ members, P m.2) → P (.object members)) (t : Tree) : P t :=
  match t with
  | .plain text h => plain text h
  | .array items => array items fun t _ => Tree.forall_of plain array object t
  | .object members => object members fun m _ => Tree.forall_of plain array object m.2
termination_by t
decreasing_by
  · rename_i ht
    have := List.sizeOf_lt_of_mem ht
    simp only [Tree.array.sizeOf_spec]
    omega
  · rename_i hm
    have := List.sizeOf_lt_of_mem hm
    obtain ⟨k, t⟩ := m
    simp only [Prod.mk.sizeOf_spec] at this
    simp only [Tree.object.sizeOf_spec]
    omega

mutual

/-- Whether a text is of a tree. -/
inductive Tree.Text : Tree → Bytes → Prop where
  | plain {text : Bytes} (h : Plain text) : Tree.Text (.plain text h) text
  | array {items : List Tree} {texts : List Bytes} {text : Bytes}
      (hitems : List.Forall₂ Tree.Text items texts) (h : Enclosed listClose texts text) :
      Tree.Text (.array items) (listOpen :: text)
  | object {members : List (Key × Tree)} {texts : List Bytes} {text : Bytes}
      (hmembers : MemberTexts members texts) (h : Enclosed objectClose texts text) :
      Tree.Text (.object members) (objectOpen :: text)

/-- Whether texts are of members, one of each. -/
inductive MemberTexts : List (Key × Tree) → List Bytes → Prop where
  | nil : MemberTexts [] []
  | cons {k : Key} {t : Tree} {text after : Bytes} {members : List (Key × Tree)}
      {texts : List Bytes} (head : Tree.Text t text) (hafter : AfterName text after)
      (tail : MemberTexts members texts) :
      MemberTexts ((k, t) :: members) ((k.text ++ after) :: texts)

end

/-- A text of a tree with blanks around it. -/
inductive Tree.WholeText (t : Tree) : Bytes → Prop where
  | blanks {ws text ws' : Bytes} (hws : Blanks ws) (h : t.Text text) (hws' : Blanks ws') :
      Tree.WholeText t (ws ++ (text ++ ws'))

/-! ## Marks -/

theorem opensValue_digit {d : UInt8} (h : isDigit d = true) (text : Bytes) :
    OpensValue (d :: text) := by
  refine opensValue_cons (isGap_eq_false_of_isDigit h) ?_ ?_ text <;>
    rintro rfl <;> exact absurd h (by decide)

theorem Plain.opensValue {text : Bytes} (h : Plain text) : OpensValue text := by
  cases h with
  | magnitude h =>
    obtain ⟨d, ds, rfl, hd⟩ := h.exists_cons
    exact opensValue_digit hd ds
  | literalNull | literalTrue | literalFalse | negative | string =>
    exact opensValue_cons rfl (by decide) (by decide) _

theorem Tree.Text.opensValue {t : Tree} {text : Bytes} (h : t.Text text) : OpensValue text := by
  cases h with
  | plain h => exact h.opensValue
  | array => exact opensValue_listOpen _
  | object => exact opensValue_objectOpen _

/-- A text of an object begins with a character of ASCII. -/
theorem Tree.exists_ascii {members : List (Key × Tree)} {text : Bytes}
    (h : (Tree.object members).WholeText text) : ∃ b rest, text = b :: rest ∧ b < 0x80 := by
  obtain ⟨hws, ⟨⟩, -⟩ := h
  rename_i ws _ _ _ _ _
  cases ws with
  | nil => exact ⟨_, _, rfl, by decide⟩
  | cons b ws =>
    have hb : isGap b = true := hws b List.mem_cons_self
    simp only [isGap, Bool.or_eq_true, beq_iff_eq] at hb
    refine ⟨b, _, rfl, ?_⟩
    rcases hb with ((rfl | rfl) | rfl) | rfl
    all_goals decide

theorem afterName_colon (text : Bytes) : AfterName text (colon :: text) :=
  .colon blanks_nil blanks_nil

/-! ## Compact texts -/

/-- Each item with a comma before it, and a closing mark. -/
def follow (mark : UInt8) : List Bytes → Bytes
  | [] => [mark]
  | item :: items => comma :: (item ++ follow mark items)

/-- Items with commas between them, and a closing mark. -/
def enclose (mark : UInt8) : List Bytes → Bytes
  | [] => [mark]
  | item :: items => item ++ follow mark items

mutual

/-- The text of a tree that has no blanks. -/
def Tree.compact : Tree → Bytes
  | .plain text _ => text
  | .array items => listOpen :: enclose listClose (compactItems items)
  | .object members => objectOpen :: enclose objectClose (compactMembers members)

def compactItems : List Tree → List Bytes
  | [] => []
  | t :: items => t.compact :: compactItems items

def compactMembers : List (Key × Tree) → List Bytes
  | [] => []
  | m :: members => compactMember m :: compactMembers members

def compactMember : Key × Tree → Bytes
  | (k, t) => k.text ++ colon :: t.compact

end

theorem followed_follow (mark : UInt8) (texts : List Bytes) :
    Followed mark texts (follow mark texts) := by
  induction texts with
  | nil => exact .close blanks_nil
  | cons item texts ih => exact .comma blanks_nil blanks_nil ih

theorem enclosed_enclose (mark : UInt8) (texts : List Bytes) :
    Enclosed mark texts (enclose mark texts) := by
  cases texts with
  | nil => exact .empty blanks_nil
  | cons item texts => exact .items blanks_nil (followed_follow mark texts)

theorem text_compactItems {items : List Tree} (h : ∀ t ∈ items, t.Text t.compact) :
    List.Forall₂ Tree.Text items (compactItems items) := by
  induction items with
  | nil => exact .nil
  | cons t items ih =>
    obtain ⟨ht, hitems⟩ := List.forall_mem_cons.1 h
    exact .cons ht (ih hitems)

theorem text_compactMembers {members : List (Key × Tree)} (h : ∀ m ∈ members, m.2.Text m.2.compact) :
    MemberTexts members (compactMembers members) := by
  induction members with
  | nil => exact .nil
  | cons m members ih =>
    obtain ⟨k, t⟩ := m
    obtain ⟨ht, hmembers⟩ := List.forall_mem_cons.1 h
    exact .cons ht (afterName_colon t.compact) (ih hmembers)

theorem Tree.text_compact (t : Tree) : t.Text t.compact := by
  induction t using Tree.forall_of with
  | plain text h => exact .plain h
  | array items ih => exact .array (text_compactItems ih) (enclosed_enclose _ _)
  | object members ih => exact .object (text_compactMembers ih) (enclosed_enclose _ _)

theorem Tree.wholeText_compact (t : Tree) : t.WholeText t.compact := by
  have h := WholeText.blanks blanks_nil t.text_compact blanks_nil
  rwa [List.nil_append, List.append_nil] at h

/-- What may stand between the commas of an open list or object. -/
inductive Frame.Item : Frame → Bytes → Prop where
  | value {t : Tree} {text : Bytes} (h : t.Text text) : Frame.Item .list text
  | member {k : Key} {t : Tree} {text after : Bytes} (h : t.Text text)
      (hafter : AfterName text after) : Frame.Item .object (k.text ++ after)

end Json
end Scoreline
