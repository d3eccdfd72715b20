import Scoreline.Proofs.Json.Form
import Scoreline.Proofs.Json.Numerals
import Scoreline.Proofs.Json.Sound
import Scoreline.Proofs.Json.Unique

/-!
# Scoreline.Proofs.Json.Reads

What is read of a text, as what is read of its tree. `Reads read R` says that `read` takes texts of trees
and nothing else, and that what it makes of one is what `R` says of the tree; so all texts of a tree are
read alike (`Reads.readWhole_iff`). There is such a relation for numbers and strings, and for options and
lists if there is one for what is in them.

The front of a text settles its tree, so `R` is the only such relation: it is what `read` makes of all
texts of a tree (`Reads.makes_iff`).
-/

namespace Scoreline
namespace Json

/-- What `read` makes of a tree, whichever of its texts it is given. -/
def Makes {α : Type} (read : Reader α) (t : Tree) (a : α) : Prop :=
  ∀ ⦃text⦄, t.Text text → Takes read text (.ok a)

/-- A reader starts at the first byte that is no blank, takes a text of a tree, and makes of it what `R`
says of the tree. -/
structure Reads {α : Type} (read : Reader α) (R : Tree → α → Prop) : Prop where
  read_skipGap : ∀ text, read (skipGap text) = read text
  makes : ∀ {t a}, R t a → Makes read t a
  front : ∀ {text a rest}, read text = .ok (a, rest) → ∃ t : Tree, t.Front rest text ∧ R t a

namespace Reads

variable {α : Type} {read : Reader α} {R : Tree → α → Prop} {t : Tree} {a : α} {text rest : Bytes}

/-- At the front of a text there is one tree only. -/
theorem of_read (h : Reads read R) (ht : t.Text text) (hrest : EndsNumber rest)
    {rest' : Bytes} (hrest' : EndsNumber rest') (hread : read (text ++ rest) = .ok (a, rest')) :
    R t a := by
  obtain ⟨t', hfront, ha⟩ := h.front hread
  generalize heq : text ++ rest = whole at hfront
  obtain ⟨hws, ht'⟩ := hfront
  obtain ⟨rfl, -⟩ := ht.eq_of_append ht' blanks_nil hws hrest hrest' heq
  exact ha

theorem makes_iff (h : Reads read R) : Makes read t a ↔ R t a := by
  constructor
  · intro hmakes
    exact h.of_read t.text_compact endsNumber_nil endsNumber_nil
      ((hmakes t.text_compact).read_append [] endsNumber_nil)
  · exact h.makes

theorem self (h : Reads read R) : Reads read (Makes read) where
  read_skipGap := h.read_skipGap
  makes ha := ha
  front hread := by
    obtain ⟨t, ht, ha⟩ := h.front hread
    exact ⟨t, ht, h.makes ha⟩

/-! ## Whole texts -/

/-- A whole text that is read is of a tree, and what it is read as is what `R` says of that. -/
theorem exists_wholeText (h : Reads read R) (hread : readWhole read text = .ok a) :
    ∃ t : Tree, t.WholeText text ∧ R t a := by
  obtain ⟨rest, hread, hrest⟩ := Form.readWhole_eq_ok_iff.1 hread
  obtain ⟨t, hfront, ha⟩ := h.front hread
  obtain ⟨hws, ht⟩ := hfront
  exact ⟨t, .blanks hws ht (blanks_of_skipGap hrest), ha⟩

theorem readWhole_iff (h : Reads read R) (ht : t.WholeText text) :
    readWhole read text = .ok a ↔ R t a := by
  constructor
  · intro hread
    obtain ⟨t', ht', ha⟩ := h.exists_wholeText hread
    rwa [ht.unique ht']
  · intro ha
    obtain ⟨hws, ht, hws'⟩ := ht
    exact (h.makes ha ht).readWhole_eq h.read_skipGap hws hws'

end Reads

/-! ## Plain types -/

section Plain

variable {α β : Type} {text rest : Bytes}

theorem front_of_plain {used : Bytes} (hused : Plain used) (hgap : skipGap text = used ++ rest) :
    (Tree.plain used hused).Front rest text := by
  refine .of_skipGap ?_
  rw [hgap]
  exact .blanks blanks_nil (.plain hused)

theorem plain_of_readNumber {expected : String} {n : Number}
    (h : readNumber expected text = .ok (n, rest)) :
    ∃ used, Plain used ∧ skipGap text = used ++ rest ∧
      ∀ rest', EndsNumber rest' → readNumber expected (used ++ rest') = .ok (n, rest') := by
  unfold readNumber at h
  split at h
  · cases h
  · rename_i hgap
    obtain ⟨used, hused, rfl, hagain⟩ := magnitude_of_readMagnitude h
    exact ⟨_, .negative hused, hgap, hagain⟩
  · rename_i b text' hminus hgap
    split at h
    · rename_i hb
      obtain ⟨used, hused, heq, hagain⟩ := magnitude_of_readMagnitude h
      refine ⟨used, .magnitude hused, hgap.trans heq, fun rest' hrest' => ?_⟩
      obtain ⟨d, ds, rfl, hd⟩ := hused.exists_cons
      rw [← hagain rest' hrest', List.cons_append, readNumber,
        skipGap_cons (isGap_eq_false_of_isDigit hd)]
      split
      · rename_i heq'
        cases heq'
      · rename_i heq'
        cases heq'
        exact absurd hd (by decide)
      · rename_i heq'
        cases heq'
        rw [if_pos hd]
    · cases h

theorem reads_number (expected : String) :
    Reads (readNumber expected) (Makes (readNumber expected)) where
  read_skipGap text := by simp only [readNumber, skipGap_skipGap]
  makes h := h
  front h := by
    obtain ⟨used, hused, hgap, hagain⟩ := plain_of_readNumber h
    refine ⟨_, front_of_plain hused hgap, fun text ht => ?_⟩
    cases ht
    exact ⟨hused.opensValue, hagain⟩

/-- A reader that goes on with what another one has read. -/
theorem Reads.bind {read : Reader α} {R : Tree → α → Prop} (h : Reads read R) {read' : Reader β}
    {next : α → Except Problem β} (hskip : ∀ text, read' (skipGap text) = read' text)
    (hread : ∀ {text b rest},
      read' text = .ok (b, rest) ↔ ∃ a, read text = .ok (a, rest) ∧ next a = .ok b) :
    Reads read' fun t b => ∃ a, R t a ∧ next a = .ok b where
  read_skipGap := hskip
  makes := by
    rintro t b ⟨a, ha, hb⟩ text ht
    obtain ⟨hopens, hagain⟩ := h.makes ha ht
    exact ⟨hopens, fun rest hrest => hread.2 ⟨a, hagain rest hrest, hb⟩⟩
  front hb := by
    obtain ⟨a, hread, hb⟩ := hread.1 hb
    obtain ⟨t, ht, ha⟩ := h.front hread
    exact ⟨t, ht, a, ha, hb⟩

theorem readInteger_eq_ok_iff {expected : String} {low high n : Int} :
    readInteger expected low high text = .ok (n, rest) ↔
      ∃ m, readNumber expected text = .ok (m, rest) ∧ m.within expected low high = .ok n := by
  unfold readInteger
  constructor
  · intro h
    split at h
    · cases h
    · rename_i m _ hread
      split at h
      · cases h
      · rename_i hwithin
        cases h
        exact ⟨m, hread, hwithin⟩
  · rintro ⟨m, hread, hwithin⟩
    simp only [hread, hwithin]

theorem reads_integer (expected : String) (low high : Int) :
    Reads (readInteger expected low high) (Makes (readInteger expected low high)) :=
  ((reads_number expected).bind
    (fun text => by simp only [readInteger, readNumber, skipGap_skipGap])
    readInteger_eq_ok_iff).self

theorem read_int64_eq_ok_iff {n : Int64} :
    Form.int64.read text = .ok (n, rest) ↔
      ∃ m, readInteger "i64" Int64.minValue.toInt Int64.maxValue.toInt text = .ok (m, rest) ∧
        (.ok (Int64.ofInt m) : Except Problem Int64) = .ok n := by
  simp only [Form.int64]
  constructor
  · intro h
    split at h
    · cases h
    · rename_i m _ hread
      cases h
      exact ⟨m, hread, rfl⟩
  · rintro ⟨m, hread, hn⟩
    cases hn
    simp only [hread]

theorem reads_int64 : Reads Form.int64.read (Makes Form.int64.read) :=
  ((reads_integer _ _ _).bind Form.int64_lawful.read_skipGap read_int64_eq_ok_iff).self

/-- The string that a tree spells. -/
inductive StringOf : Tree → String → Prop where
  | content {s : String} {content : Bytes} (h : Content s.toList content) :
      StringOf (.plain (quoteMark :: (content ++ [quoteMark])) (.string h.loose)) s

theorem reads_string : Reads Form.string.read StringOf where
  read_skipGap text := by simp only [Form.string, readString, skipGap_skipGap]
  makes h := by
    obtain ⟨h⟩ := h
    intro text ht
    cases ht
    exact Form.string_takes (.quotes h)
  front {text s rest} h := by
    have hread : readString text = .ok (s, rest) := h
    unfold readString at hread
    split at hread
    · cases hread
    · rename_i hgap
      obtain ⟨content, hcontent, rfl⟩ := content_of_readQuoted hread
      refine ⟨_, front_of_plain (.string hcontent.loose) ?_, .content hcontent⟩
      rw [hgap, List.cons_append, List.append_assoc]
      rfl
    · cases hread

end Plain

/-! ## Options -/

/-- That there is no value is said by `null`. -/
inductive OptionOf {α : Type} (R : Tree → α → Prop) : Tree → Option α → Prop where
  | null : OptionOf R (.plain (lowerN :: restOfNull) .literalNull) none
  | value {t : Tree} {a : α} (h : R t a) (hnull : t ≠ .plain (lowerN :: restOfNull) .literalNull) :
      OptionOf R t (some a)

theorem Plain.eq_null {text : Bytes} (h : Plain (lowerN :: text)) : text = restOfNull := by
  generalize heq : lowerN :: text = whole at h
  cases h with
  | literalNull => exact (List.cons.inj heq).2
  | literalTrue | literalFalse | negative | string => cases heq
  | magnitude h =>
    obtain ⟨d, ds, rfl, hd⟩ := h.exists_cons
    cases heq
    exact absurd hd (by decide)

/-- Only `null` begins as `null` does. -/
theorem Tree.Text.head?_ne {t : Tree} {text : Bytes} (h : t.Text text)
    (hnull : t ≠ .plain (lowerN :: restOfNull) .literalNull) : text.head? ≠ some lowerN := by
  intro hhead
  obtain ⟨text', rfl⟩ := List.head?_eq_some_iff.1 hhead
  generalize heq : lowerN :: text' = whole at h
  cases h with
  | plain h =>
    subst heq
    obtain rfl := h.eq_null
    exact hnull rfl
  | array | object => cases heq

theorem Reads.option {α : Type} {f : Form α} {R : Tree → α → Prop} (h : Reads f.read R) :
    Reads (Form.option f).read (OptionOf R) where
  read_skipGap text := by simp only [Form.option, readOption, skipGap_skipGap]
  makes := by
    rintro t a ha text ht
    cases ha with
    | null =>
      cases ht
      exact ⟨Plain.literalNull.opensValue, fun rest _ => rfl⟩
    | value ha hnull =>
      obtain ⟨hopens, hagain⟩ := h.makes ha ht
      refine ⟨hopens, fun rest hrest => ?_⟩
      have hhead : (text ++ rest).head? ≠ some lowerN := by
        rw [List.head?_append_of_ne_nil _ (List.ne_nil_of_length_pos hopens.length_pos)]
        exact ht.head?_ne hnull
      rw [Form.read_option_of_head? (hopens.append rest) hhead, hagain rest hrest]
      rfl
  front {text a rest} hread := by
    simp only [Form.option, readOption] at hread
    split at hread
    · rename_i hgap
      split at hread
      · cases hread
      · rename_i hliteral
        cases hread
        exact ⟨_, front_of_plain .literalNull (by rw [hgap, eq_of_expectLiteral hliteral]; rfl), .null⟩
    · rename_i hne
      split at hread
      · cases hread
      · rename_i hread'
        cases hread
        obtain ⟨t, ht, ha⟩ := h.front hread'
        refine ⟨t, ht.of_skipGap, .value ha ?_⟩
        rintro rfl
        generalize hgap : skipGap text = text' at ht
        obtain ⟨hws, ⟨⟩⟩ := ht
        refine hne _ (?_ : skipGap text = lowerN :: (restOfNull ++ rest))
        rw [← skipGap_skipGap, hgap, skipGap_append hws]
        rfl

/-! ## Lists -/

/-- What may stand before an item: blanks before the first, and a comma among them before another. -/
inductive Lead : Bool → Bytes → Prop where
  | first {ws : Bytes} (hws : Blanks ws) : Lead true ws
  | comma {ws ws' : Bytes} (hws : Blanks ws) (hws' : Blanks ws') : Lead false (ws ++ comma :: ws')

theorem Lead.append {first : Bool} {lead ws : Bytes} (h : Lead first lead) (hws : Blanks ws) :
    Lead first (lead ++ ws) := by
  obtain hws₁ | ⟨hws₁, hws₂⟩ := h
  · exact .first (List.forall_mem_append.2 ⟨hws₁, hws⟩)
  · rw [List.append_assoc, List.cons_append]
    exact .comma hws₁ (List.forall_mem_append.2 ⟨hws₂, hws⟩)

/-- The texts of items with what may stand before them, and a closing mark. -/
inductive Laid (mark : UInt8) : Bool → List Bytes → Bytes → Prop where
  | close (first : Bool) {ws : Bytes} (hws : Blanks ws) : Laid mark first [] (ws ++ [mark])
  | item {first : Bool} {lead item text : Bytes} {items : List Bytes} (hlead : Lead first lead)
      (tail : Laid mark false items text) : Laid mark first (item :: items) (lead ++ (item ++ text))

/-- Where nothing is left, there are no more items. -/
theorem exists_laid_close (mark : UInt8) (first : Bool) {ws : Bytes} (hws : Blanks ws) (rest : Bytes) :
    ∃ used, Laid mark first [] used ∧ ws ++ mark :: rest = used ++ rest :=
  ⟨_, .close first hws, by rw [List.append_assoc, List.singleton_append]⟩

theorem Laid.followed {mark : UInt8} {items : List Bytes} {text : Bytes}
    (h : Laid mark false items text) : Followed mark items text := by
  generalize hfirst : false = first at h
  induction h with
  | close first hws => exact .close hws
  | item hlead _ ih =>
    cases hfirst
    obtain _ | ⟨hws, hws'⟩ := hlead
    rw [List.append_assoc, List.cons_append]
    exact .comma hws hws' (ih rfl)

theorem Laid.enclosed {mark : UInt8} {items : List Bytes} {text : Bytes}
    (h : Laid mark true items text) : Enclosed mark items text := by
  cases h with
  | close _ hws => exact .empty hws
  | item hlead tail =>
    obtain ⟨hws⟩ := hlead
    exact .items hws tail.followed

theorem Followed.laid {mark : UInt8} {items : List Bytes} {text : Bytes}
    (h : Followed mark items text) : Laid mark false items text := by
  induction h with
  | close hws => exact .close false hws
  | @comma ws ws' item text items hws hws' _ ih =>
    rw [← List.cons_append, ← List.append_assoc]
    exact .item (.comma hws hws') ih

theorem Enclosed.laid {mark : UInt8} {items : List Bytes} {text : Bytes}
    (h : Enclosed mark items text) : Laid mark true items text := by
  cases h with
  | empty hws => exact .close true hws
  | items hws tail => exact .item (.first hws) tail.laid

section Marks

variable {first : Bool} {text next rest : Bytes}

theorem lead_of_nextElement (h : nextElement first text = .ok (some next)) :
    ∃ lead, Lead first lead ∧ text = lead ++ next := by
  obtain ⟨ws, hws, htext⟩ := exists_blanks text
  unfold nextElement at h
  split at h
  · cases h
  · cases h
  · rename_i text' hgap
    split at h
    · cases h
      rename_i hfirst
      subst hfirst
      exact ⟨ws, .first hws, htext.trans (congrArg (ws ++ ·) hgap)⟩
    · rename_i hfirst
      obtain ⟨ws', hws', htext'⟩ := exists_blanks text'
      split at h
      · cases h
      · cases h
      · cases h
        rw [Bool.not_eq_true] at hfirst
        subst hfirst
        refine ⟨_, .comma hws hws', ?_⟩
        rw [List.append_assoc, List.cons_append, ← htext']
        exact htext.trans (congrArg (ws ++ ·) hgap)
  · split at h
    · cases h
      rename_i hfirst
      subst hfirst
      exact ⟨ws, .first hws, htext⟩
    · cases h

theorem nextElement_lead {lead : Bytes} (hlead : Lead first lead) (h : OpensValue text) :
    nextElement first (lead ++ text) = .ok (some text) := by
  obtain hws | ⟨hws, hws'⟩ := hlead
  · exact nextElement_first hws h
  · rw [List.append_assoc, List.cons_append]
    exact nextElement_comma hws hws' h

theorem close_of_closeList (h : closeList text = .ok rest) :
    ∃ ws, Blanks ws ∧ text = ws ++ listClose :: rest := by
  obtain ⟨ws, hws, htext⟩ := exists_blanks text
  unfold closeList at h
  split at h
  · cases h
  · rename_i hgap
    cases h
    exact ⟨ws, hws, htext.trans (congrArg (ws ++ ·) hgap)⟩
  · split at h <;> cases h
  · cases h

end Marks

/-- The list that the items of a tree make. -/
inductive ListOf {α : Type} (R : Tree → α → Prop) : Tree → List α → Prop where
  | items {items : List Tree} {as : List α} (h : List.Forall₂ R items as) :
      ListOf R (.array items) as

section Elements

variable {α : Type} {read : Reader α} {R : Tree → α → Prop}

theorem readElementsFrom_eq_ok {budget : Bytes} {first : Bool} {done out : List α}
    {text close : Bytes} (h : readElementsFrom read budget first done text = .ok (out, close)) :
    out = done.reverse ∧ close = text ∨
      ∃ x left next a mid, budget = x :: left ∧ nextElement first text = .ok (some next) ∧
        read next = .ok (a, mid) ∧
        readElementsFrom read left false (a :: done) mid = .ok (out, close) := by
  unfold readElementsFrom at h
  split at h
  · cases h
  · cases h
    exact .inl ⟨rfl, rfl⟩
  · rename_i next hnext
    split at h
    · cases h
    · rename_i x left
      split at h
      · cases h
      · rename_i a mid hread
        exact .inr ⟨x, left, next, a, mid, rfl, hnext, hread, h⟩

/-- The elements that are read up to the closing bracket are those of trees that stand there. -/
theorem Reads.items_of_readElementsFrom (h : Reads read R) {budget : Bytes} {first : Bool}
    {done out : List α} {text close rest : Bytes}
    (hread : readElementsFrom read budget first done text = .ok (out, close))
    (hclose : closeList close = .ok rest) :
    ∃ (items : List Tree) (texts : List Bytes) (as : List α) (used : Bytes),
      List.Forall₂ Tree.Text items texts ∧ List.Forall₂ R items as ∧ out = done.reverse ++ as ∧
      Laid listClose first texts used ∧ text = used ++ rest := by
  obtain ⟨ws, hws, rfl⟩ := close_of_closeList hclose
  induction budget generalizing first done text with
  | nil =>
    obtain ⟨rfl, rfl⟩ | ⟨x, left, _, _, _, heq, -⟩ := readElementsFrom_eq_ok hread
    · obtain ⟨used, hlaid, htext⟩ := exists_laid_close listClose first hws rest
      exact ⟨[], [], [], used, .nil, .nil, (List.append_nil _).symm, hlaid, htext⟩
    · cases heq
  | cons x budget ih =>
    obtain ⟨rfl, rfl⟩ | ⟨_, _, next, a, mid, ⟨⟩, hnext, hfirst, hothers⟩ :=
      readElementsFrom_eq_ok hread
    · obtain ⟨used, hlaid, htext⟩ := exists_laid_close listClose first hws rest
      exact ⟨[], [], [], used, .nil, .nil, (List.append_nil _).symm, hlaid, htext⟩
    · obtain ⟨items, texts, as, used, htexts, has, rfl, hlaid, rfl⟩ := ih hothers
      obtain ⟨lead, hlead, rfl⟩ := lead_of_nextElement hnext
      obtain ⟨t, ⟨hws, ht⟩, ha⟩ := h.front hfirst
      refine ⟨t :: items, _ :: texts, a :: as, _, .cons ht htexts, .cons ha has, ?_,
        .item (hlead.append hws) hlaid, ?_⟩
      · rw [List.reverse_cons, List.append_assoc, List.singleton_append]
      · simp only [List.append_assoc]

theorem forall₂_takes {items : List Tree} {texts : List Bytes} {as : List α} (h : Reads read R)
    (htexts : List.Forall₂ Tree.Text items texts) (has : List.Forall₂ R items as) :
    List.Forall₂ (fun text a => Takes read text (.ok a)) texts as := by
  induction htexts generalizing as with
  | nil =>
    cases has
    exact .nil
  | cons ht _ ih =>
    cases has with
    | cons ha has => exact .cons (h.makes ha ht) (ih has)

end Elements

theorem Reads.list {α : Type} {f : Form α} {R : Tree → α → Prop} (h : Reads f.read R) :
    Reads (Form.list f).read (ListOf R) where
  read_skipGap := Form.read_list_skipGap f
  makes := by
    rintro t as ⟨has⟩ text ht
    cases ht with
    | array htexts henclosed =>
      refine ⟨opensValue_listOpen _, fun rest _ => ?_⟩
      rw [List.cons_append, Form.read_list,
        readElements_enclosed (forall₂_takes h htexts has) henclosed rest]
      rfl
  front {text as rest} hread := by
    simp only [Form.list, readList] at hread
    split at hread
    · cases hread
    · rename_i hgap
      unfold readElements at hread
      split at hread
      · cases hread
      · rename_i out close hitems
        split at hread
        · cases hread
        · rename_i hclose
          cases hread
          obtain ⟨items, texts, as, used, htexts, has, rfl, hlaid, rfl⟩ :=
            h.items_of_readElementsFrom hitems hclose
          exact ⟨_, front_of_cons hgap (.array htexts hlaid.enclosed), .items has⟩
    · cases hread

end Json
end Scoreline
