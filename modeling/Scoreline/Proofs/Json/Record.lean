import Scoreline.Proofs.Json.Reads

/-!
# Scoreline.Proofs.Json.Record

What a record makes of a tree (`Fields.Readable.record`): of an object, what its members put into the slots of the
record, one after the other (`Runs`, `Fields.Fill`); of a list, what its items are at their places
(`Fields.Place`). A member of another name puts nothing anywhere, whatever its value is.
-/

namespace Scoreline
namespace Json

/-! ## Members -/

/-- The members of an object take `F` from one state to another, each by its name and its value. -/
inductive Runs {σ : Type} (F : String → Tree → σ → σ → Prop) :
    σ → List (Key × Tree) → σ → Prop where
  | nil (s : σ) : Runs F s [] s
  | cons {s s' s'' : σ} {k : Key} {name : String} {t : Tree} {members : List (Key × Tree)}
      (hname : k.Names name) (head : F name t s s') (tail : Runs F s' members s'') :
      Runs F s ((k, t) :: members) s''

/-- A step takes the value of a member behind its colon, and `F` says what it does with the tree. -/
structure Steps {σ : Type} (step : MemberStep σ) (F : String → Tree → σ → σ → Prop) : Prop where
  takes : ∀ {name t s s' value after rest}, F name t s s' → t.Text value → AfterName value after →
    EndsNumber rest → step name s (after ++ rest) = .ok (s', rest)
  front : ∀ {name s s' text rest}, step name s text = .ok (s', rest) →
    ∃ (t : Tree) (value after : Bytes), t.Text value ∧ AfterName value after ∧
      text = after ++ rest ∧ F name t s s'

section Marks

variable {first : Bool} {text next rest : Bytes}

theorem lead_of_nextKey (h : nextKey first text = .ok (some next)) :
    ∃ lead tail, Lead first lead ∧ next = quoteMark :: tail ∧ text = lead ++ next := by
  obtain ⟨ws, hws, htext⟩ := exists_blanks text
  unfold nextKey at h
  split at h
  · cases h
  · cases h
  · rename_i text' hgap
    split at h
    · cases h
    · rename_i hfirst
      rw [Bool.not_eq_true] at hfirst
      subst hfirst
      obtain ⟨ws', hws', htext'⟩ := exists_blanks text'
      split at h
      · cases h
      · cases h
      · dsimp only at h
        split at h
        · rename_i hquote
          cases h
          refine ⟨_, _, .comma hws hws', hquote, ?_⟩
          rw [List.append_assoc, List.cons_append, ← htext']
          exact htext.trans (congrArg (ws ++ ·) hgap)
        · cases h
  · split at h
    · rename_i hfirst
      subst hfirst
      dsimp only at h
      split at h
      · rename_i hquote
        cases h
        exact ⟨ws, _, .first hws, hquote, htext⟩
      · cases h
    · cases h

theorem close_of_closeObject (h : closeObject text = .ok rest) :
    ∃ ws, Blanks ws ∧ text = ws ++ objectClose :: rest := by
  obtain ⟨ws, hws, htext⟩ := exists_blanks text
  unfold closeObject at h
  split at h
  · cases h
  · rename_i hgap
    cases h
    exact ⟨ws, hws, htext.trans (congrArg (ws ++ ·) hgap)⟩
  · cases h
  · cases h

end Marks

section Members

variable {σ : Type} {step : MemberStep σ} {F : String → Tree → σ → σ → Prop}

theorem readMembersFrom_eq_ok {budget : Bytes} {first : Bool} {s out : σ} {text close : Bytes}
    (h : readMembersFrom step budget first s text = .ok (out, close)) :
    out = s ∧ close = text ∨
      ∃ x left next name after s' mid, budget = x :: left ∧
        nextKey first text = .ok (some next) ∧ readQuoted (next.drop 1) = .ok (name, after) ∧
        step name s after = .ok (s', mid) ∧
        readMembersFrom step left false s' mid = .ok (out, close) := by
  unfold readMembersFrom at h
  split at h
  · cases h
  · cases h
    exact .inl ⟨rfl, rfl⟩
  · rename_i next hnext
    split at h
    · cases h
    · rename_i x left
      split at h
      · cases h
      · rename_i name after hname
        split at h
        · cases h
        · rename_i s' mid hstep
          exact .inr ⟨x, left, next, name, after, s', mid, rfl, hnext, hname, hstep, h⟩

/-- The members that are gathered up to the closing brace are those that stand there. -/
theorem Steps.runs_of_readMembersFrom (h : Steps step F) {budget : Bytes} {first : Bool} {s out : σ}
    {text close rest : Bytes} (hread : readMembersFrom step budget first s text = .ok (out, close))
    (hclose : closeObject close = .ok rest) :
    ∃ (members : List (Key × Tree)) (texts : List Bytes) (used : Bytes),
      MemberTexts members texts ∧ Runs F s members out ∧ Laid objectClose first texts used ∧
      text = used ++ rest := by
  obtain ⟨ws, hws, rfl⟩ := close_of_closeObject hclose
  induction budget generalizing first s text with
  | nil =>
    obtain ⟨rfl, rfl⟩ | ⟨_, _, _, _, _, _, _, heq, -⟩ := readMembersFrom_eq_ok hread
    · obtain ⟨used, hlaid, htext⟩ := exists_laid_close objectClose first hws rest
      exact ⟨[], [], used, .nil, .nil _, hlaid, htext⟩
    · cases heq
  | cons x budget ih =>
    obtain ⟨rfl, rfl⟩ | ⟨_, _, next, name, after, s', mid, ⟨⟩, hnext, hname, hstep, hothers⟩ :=
      readMembersFrom_eq_ok hread
    · obtain ⟨used, hlaid, htext⟩ := exists_laid_close objectClose first hws rest
      exact ⟨[], [], used, .nil, .nil _, hlaid, htext⟩
    · obtain ⟨members, texts, used, htexts, hruns, hlaid, rfl⟩ := ih hothers
      obtain ⟨lead, tail, hlead, rfl, rfl⟩ := lead_of_nextKey hnext
      obtain ⟨content, hcontent, rfl⟩ : ∃ content, Content name.toList content ∧
          tail = content ++ quoteMark :: after := content_of_readQuoted hname
      obtain ⟨t, value, after, ht, hafter, rfl, hF⟩ := h.front hstep
      refine ⟨(⟨content, hcontent.loose⟩, t) :: members, _, _, .cons ht hafter htexts,
        .cons hcontent hF hruns, .item hlead hlaid, ?_⟩
      simp only [Key.text, List.append_assoc, List.cons_append, List.nil_append]

theorem Steps.collects (h : Steps step F) {s out : σ} {members : List (Key × Tree)}
    {texts : List Bytes} (hruns : Runs F s members out) (htexts : MemberTexts members texts) :
    ∃ ms, List.Forall₂ Member ms texts ∧ Collects step s ms (.ok out) := by
  induction hruns generalizing texts with
  | nil s =>
    cases htexts
    exact ⟨[], .nil, .nil s⟩
  | cons hname head _ ih =>
    cases htexts with
    | cons ht hafter htexts =>
      obtain ⟨ms, hms, hcollects⟩ := ih htexts
      exact ⟨_, .cons (.named (.quotes hname) _) hms,
        .cons (fun rest hrest => h.takes head ht hafter hrest) hcollects⟩

/-- What is read as the value of a member is one behind its colon. -/
theorem Reads.front_of_readMember {α : Type} {read : Reader α} {R : Tree → α → Prop}
    (h : Reads read R) {text rest : Bytes} {a : α} (hread : readMember read text = .ok (a, rest)) :
    ∃ (t : Tree) (value after : Bytes), t.Text value ∧ AfterName value after ∧
      text = after ++ rest ∧ R t a := by
  unfold readMember at hread
  split at hread
  · cases hread
  · rename_i hcolon
    obtain ⟨ws, hws, rfl⟩ := colon_of_expectColon hcolon
    obtain ⟨t, ⟨hws', ht⟩, ha⟩ := h.front hread
    refine ⟨t, _, _, ht, .colon hws hws', ?_, ha⟩
    simp only [List.append_assoc, List.cons_append]

end Members

/-! ## Fields -/

namespace Fields

/-- There is a relation for each member of a record. -/
def Readable : {τ : Type} → Fields τ → Prop
  | _, .nil => True
  | _, .cons _ form _ rest => Reads form.read (Makes form.read) ∧ rest.Readable

/-- What a member puts into the slots: its value, if it has the name of one that is still empty. -/
def Fill : {τ : Type} → (fs : Fields τ) → String → Tree → fs.Slots → fs.Slots → Prop
  | _, .nil, _, _, _, _ => True
  | _, .cons (α := α) name form _ rest, key, t, slots, slots' =>
    let (slot, others) : Option α × rest.Slots := slots
    let (slot', others') : Option α × rest.Slots := slots'
    if key = name then slot = none ∧ others' = others ∧ ∃ a, Makes form.read t a ∧ slot' = some a
    else slot' = slot ∧ rest.Fill key t others others'

section Cons

variable {α β : Type} {name : String} {form : Form α} {fallback : Option α} {rest : Fields β}
  {t : Tree} {slot slot' : Option α} {others others' : rest.Slots}

theorem fill_self :
    (cons name form fallback rest).Fill name t (slot, others) (slot', others') ↔
      slot = none ∧ others' = others ∧ ∃ a, Makes form.read t a ∧ slot' = some a := by
  simp only [Fill, if_true]

theorem fill_other {key : String} (hkey : key ≠ name) :
    (cons name form fallback rest).Fill key t (slot, others) (slot', others') ↔
      slot' = slot ∧ rest.Fill key t others others' := by
  simp only [Fill, if_neg hkey]

end Cons

theorem steps_readKey {τ : Type} {fs : Fields τ} (h : fs.Readable) :
    Steps (fun key slots => fs.readKey key slots) fs.Fill := by
  induction fs with
  | nil =>
    constructor
    · intro key t slots slots' value after rest _ ht hafter hrest
      exact ht.skipMember_eq hafter hrest slots
    · intro key slots slots' text rest hread
      obtain ⟨-, t, value, after, ht, hafter, htext⟩ := front_of_skipMember hread
      exact ⟨t, value, after, ht, hafter, htext, trivial⟩
  | cons name form fallback rest ih =>
    obtain ⟨hform, hrest⟩ := h
    obtain ⟨htakes, hfront⟩ := ih hrest
    constructor
    · rintro key t ⟨slot, others⟩ ⟨slot', others'⟩ value after rest' hfill ht hafter hends
      by_cases hkey : key = name
      · subst hkey
        obtain ⟨rfl, rfl, a, ha, rfl⟩ := fill_self.1 hfill
        exact readKey_self others' ((ha ht).readMember_eq hform.read_skipGap hafter hends)
      · obtain ⟨rfl, hothers⟩ := (fill_other hkey).1 hfill
        exact readKey_other hkey slot' (htakes hothers ht hafter hends)
    · rintro key ⟨slot, others⟩ ⟨slot', others'⟩ text rest' hread
      simp only [readKey] at hread
      split at hread
      · rename_i hkey
        cases slot with
        | some a => cases hread
        | none =>
          simp only at hread
          split at hread
          · cases hread
          · rename_i a mid hmember
            cases hread
            obtain ⟨t, value, after, ht, hafter, htext, ha⟩ := hform.front_of_readMember hmember
            subst hkey
            exact ⟨t, value, after, ht, hafter, htext, fill_self.2 ⟨rfl, rfl, a, ha, rfl⟩⟩
      · rename_i hkey
        split at hread
        · cases hread
        · rename_i others'' mid hothers
          cases hread
          obtain ⟨t, value, after, ht, hafter, htext, hfill⟩ := hfront hothers
          exact ⟨t, value, after, ht, hafter, htext, (fill_other hkey).2 ⟨rfl, hfill⟩⟩

/-- What the items of a list are at the places of the members. Members without an item take their
fallback. -/
def Place : {τ : Type} → Fields τ → List Tree → τ → Prop
  | _, .nil, items, () => items = []
  | _, .cons _ form fallback rest, items, (a, b) =>
    match items with
    | [] => fallback = some a ∧ rest.Place [] b
    | t :: items => Makes form.read t a ∧ rest.Place items b

section Places

variable {τ : Type} {fs : Fields τ} {expected : String} {index : Nat} {text rest : Bytes} {b : τ}

/-- At the closing bracket nothing is left for any more members. -/
theorem readPlaces_close {ws : Bytes} (hws : Blanks ws) {out : Bytes} :
    fs.readPlaces expected index (ws ++ listClose :: rest) = .ok (b, out) ↔
      fs.Place [] b ∧ out = ws ++ listClose :: rest := by
  induction fs generalizing index with
  | nil =>
    simp only [readPlaces, Place, true_and, Except.ok.injEq, Prod.mk.injEq]
    exact eq_comm
  | cons name form fallback others ih =>
    obtain ⟨a, b⟩ := b
    simp only [readPlaces, nextElement_close (index == 0) hws, Place]
    cases fallback with
    | none => simp
    | some a' =>
      simp only
      constructor
      · intro h
        split at h
        · cases h
        · rename_i hread
          cases h
          obtain ⟨hplace, hout⟩ := ih.1 hread
          exact ⟨⟨rfl, hplace⟩, hout⟩
      · rintro ⟨⟨ha, hplace⟩, rfl⟩
        cases ha
        rw [ih.2 ⟨hplace, rfl⟩]

theorem close_of_nextElement {first : Bool} (h : nextElement first text = .ok none) :
    ∃ ws rest, Blanks ws ∧ text = ws ++ listClose :: rest := by
  obtain ⟨ws, hws, htext⟩ := exists_blanks text
  unfold nextElement at h
  split at h
  · cases h
  · rename_i hgap
    exact ⟨ws, _, hws, htext.trans (congrArg (ws ++ ·) hgap)⟩
  · split at h
    · cases h
    · split at h <;> cases h
  · split at h <;> cases h

/-- What is read of a list is what its items are at their places. -/
theorem place_of_readPlaces (h : fs.Readable) {close : Bytes}
    (hread : fs.readPlaces expected index text = .ok (b, close))
    (hclose : closeList close = .ok rest) :
    ∃ (items : List Tree) (texts : List Bytes) (used : Bytes),
      List.Forall₂ Tree.Text items texts ∧ fs.Place items b ∧
      Laid listClose (index == 0) texts used ∧ text = used ++ rest := by
  obtain ⟨ws, hws, rfl⟩ := close_of_closeList hclose
  induction fs generalizing index text with
  | nil =>
    cases hread
    obtain ⟨used, hlaid, htext⟩ := exists_laid_close listClose (index == 0) hws rest
    exact ⟨[], [], used, .nil, rfl, hlaid, htext⟩
  | cons name form fallback others ih =>
    obtain ⟨hform, hothers⟩ := h
    obtain ⟨a, b⟩ := b
    have hread' := hread
    simp only [readPlaces] at hread
    split at hread
    · cases hread
    · rename_i hnext
      obtain ⟨ws', rest', hws', rfl⟩ := close_of_nextElement hnext
      obtain ⟨hplace, hout⟩ := (readPlaces_close hws').1 hread'
      obtain ⟨used, hlaid, htext⟩ := exists_laid_close listClose (index == 0) hws rest
      exact ⟨[], [], used, .nil, hplace, hlaid, hout.symm.trans htext⟩
    · rename_i next hnext
      split at hread
      · cases hread
      · rename_i a' mid hfirst
        split at hread
        · cases hread
        · rename_i b' close' hplaces
          cases hread
          obtain ⟨items, texts, used, htexts, hplace, hlaid, rfl⟩ := ih hothers hplaces
          obtain ⟨lead, hlead, rfl⟩ := lead_of_nextElement hnext
          obtain ⟨t, ⟨hws', ht⟩, ha⟩ := hform.front hfirst
          refine ⟨t :: items, _ :: texts, _, .cons ht htexts, ⟨ha, hplace⟩,
            .item (hlead.append hws') hlaid, ?_⟩
          simp only [List.append_assoc]

theorem readPlaces_laid (h : fs.Readable) (expected : String) (index : Nat) {items : List Tree}
    {texts : List Bytes} {used : Bytes} (hplace : fs.Place items b)
    (htexts : List.Forall₂ Tree.Text items texts)
    (hlaid : Laid listClose (index == 0) texts used) (rest : Bytes) :
    ∃ close, fs.readPlaces expected index (used ++ rest) = .ok (b, close) ∧
      closeList close = .ok rest := by
  induction htexts generalizing τ index used with
  | nil =>
    obtain ⟨-, hws⟩ := hlaid
    rw [List.append_assoc, List.singleton_append]
    exact ⟨_, (readPlaces_close hws).2 ⟨hplace, rfl⟩, closeList_close hws rest⟩
  | @cons t item items texts ht htexts ih =>
    cases fs with
    | nil => cases hplace
    | cons name form fallback others =>
      obtain ⟨hform, hothers⟩ := h
      obtain ⟨a, b⟩ := b
      obtain ⟨ha, hplace⟩ := hplace
      cases hlaid with
      | @item _ lead _ text _ hlead tail =>
        obtain ⟨hopens, hagain⟩ := ha ht
        obtain ⟨close, hread, hclose⟩ := ih hothers (index + 1) hplace tail
        have hends := tail.followed.endsNumber endsNumber_listClose rest
        refine ⟨close, ?_, hclose⟩
        simp only [List.append_assoc, readPlaces,
          nextElement_lead hlead (hopens.append (text ++ rest)), hagain _ hends, Except.map, hread]

end Places

/-- What a record makes of a tree, as the values of its members taken together. -/
inductive Records {τ : Type} (fs : Fields τ) : Tree → τ → Prop where
  | object {members : List (Key × Tree)} {slots : fs.Slots} {b : τ}
      (hruns : Runs fs.Fill fs.empty members slots) (hcomplete : fs.complete slots = .ok b) :
      Records fs (.object members) b
  | list {items : List Tree} {b : τ} (h : fs.Place items b) : Records fs (.array items) b

section Fronts

variable {τ : Type} {fs : Fields τ} {whole text rest : Bytes} {b : τ}

theorem front_of_readTuple (h : fs.Readable) {expected : String}
    (hgap : skipGap whole = listOpen :: text) (hread : fs.readTuple expected text = .ok (b, rest)) :
    ∃ t : Tree, t.Front rest whole ∧ fs.Records t b := by
  unfold readTuple at hread
  split at hread
  · cases hread
  · rename_i hplaces
    split at hread
    · cases hread
    · rename_i hclose
      cases hread
      obtain ⟨items, texts, used, htexts, hplace, hlaid, rfl⟩ :=
        place_of_readPlaces h hplaces hclose
      exact ⟨_, front_of_cons hgap (.array htexts hlaid.enclosed), .list hplace⟩

theorem front_of_readObject (h : fs.Readable) (hgap : skipGap whole = objectOpen :: text)
    (hread : fs.readObject text = .ok (b, rest)) : ∃ t : Tree, t.Front rest whole ∧ fs.Records t b := by
  unfold readObject at hread
  split at hread
  · cases hread
  · rename_i hmembers
    split at hread
    · cases hread
    · rename_i hcomplete
      split at hread
      · cases hread
      · rename_i hclose
        cases hread
        obtain ⟨members, texts, used, htexts, hruns, hlaid, rfl⟩ :=
          (steps_readKey h).runs_of_readMembersFrom hmembers hclose
        exact ⟨_, front_of_cons hgap (.object htexts hlaid.enclosed), .object hruns hcomplete⟩

end Fronts

end Fields

theorem read_record_tuple {α τ : Type} (name : String) (fs : Fields τ) (make : τ → α)
    (parts : α → τ) (text : Bytes) :
    (Form.record name fs make parts).read (listOpen :: text) =
      match fs.readTuple ("struct " ++ name ++ " with " ++ elementCount fs.length) text with
      | .error p => .error p
      | .ok (t, rest) => .ok (make t, rest) := rfl

/-- A record is read from the objects and the lists that make its members. -/
theorem Fields.Readable.record {α τ : Type} {fs : Fields τ} (h : fs.Readable) (name : String)
    (make : τ → α) (parts : α → τ) :
    Reads (Form.record name fs make parts).read fun t a => ∃ b, fs.Records t b ∧ make b = a where
  read_skipGap := Form.read_record_skipGap name fs make parts
  makes := by
    rintro t a ⟨b, hb, rfl⟩ text ht
    refine ⟨ht.opensValue, fun rest hrest => ?_⟩
    cases hb with
    | object hruns hcomplete =>
      cases ht with
      | object htexts henclosed =>
        obtain ⟨ms, hms, hcollects⟩ := (Fields.steps_readKey h).collects hruns htexts
        obtain ⟨close, hread, hclose⟩ := readMembers_enclosed hcollects hms henclosed rest
        rw [List.cons_append, Form.read_record, Fields.readObject, hread]
        simp only [hcomplete, hclose]
        rfl
    | list hplace =>
      cases ht with
      | array htexts henclosed =>
        obtain ⟨close, hread, hclose⟩ :=
          Fields.readPlaces_laid h ("struct " ++ name ++ " with " ++ elementCount fs.length) 0 hplace
            htexts henclosed.laid rest
        rw [List.cons_append, read_record_tuple, Fields.readTuple, hread]
        simp only [hclose]
        rfl
  front {text a rest} hread := by
    simp only [Form.record] at hread
    split at hread
    · cases hread
    · rename_i hgap
      split at hread
      · cases hread
      · rename_i b _ htuple
        cases hread
        obtain ⟨t, ht, hb⟩ := front_of_readTuple h hgap htuple
        exact ⟨t, ht, b, hb, rfl⟩
    · rename_i hgap
      split at hread
      · cases hread
      · rename_i b _ hobject
        cases hread
        obtain ⟨t, ht, hb⟩ := front_of_readObject h hgap hobject
        exact ⟨t, ht, b, hb, rfl⟩
    · cases hread

end Json
end Scoreline
