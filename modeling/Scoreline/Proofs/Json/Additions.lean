import Mathlib.Logic.Relation
import Scoreline.Proofs.Json.Record

/-!
# Scoreline.Proofs.Json.Additions

Changes of a tree that a reader does not see. A `Shape` says where in a payload there are records, and a
`Change` is one change there: the members of an object are reordered, or a member that the record does not
have is added to it. A form is `Steady` when the same is made of both trees, so a member may be taken away
as well.

Each way to make a form out of forms keeps this (`Form.Steady.option`, `Form.Steady.list`,
`Fields.Steady.record`). For a record the members are taken one after the other, so their order does not
matter if that of two neighbours does not (`Runs.perm`, `Fields.fill_swap`).
-/

namespace Scoreline
namespace Json

/-- Where the records of a payload are: at the payload, at the items of a list, or at a member. -/
inductive Shape where
  | plain
  | list (item : Shape)
  | record (members : List (String × Shape))

/-- One change of a tree. Inside of a record the change may be at a member, or at an item where the record
is a list of the values of its members. -/
inductive Change : Shape → Tree → Tree → Prop where
  | reorder {fields : List (String × Shape)} {members members' : List (Key × Tree)}
      (h : members.Perm members') : Change (.record fields) (.object members) (.object members')
  | add {fields : List (String × Shape)} {before after : List (Key × Tree)} {k : Key} {name : String}
      {t : Tree} (hname : k.Names name) (hother : name ∉ fields.map Prod.fst) :
      Change (.record fields) (.object (before ++ after)) (.object (before ++ (k, t) :: after))
  | member {fields : List (String × Shape)} {before after : List (Key × Tree)} {k : Key}
      {name : String} {s : Shape} {t t' : Tree} (hname : k.Names name)
      (hfield : fields.lookup name = some s) (h : Change s t t') :
      Change (.record fields) (.object (before ++ (k, t) :: after))
        (.object (before ++ (k, t') :: after))
  | place {fields : List (String × Shape)} {before after : List Tree} {name : String} {s : Shape}
      {t t' : Tree} (hfield : fields[before.length]? = some (name, s)) (h : Change s t t') :
      Change (.record fields) (.array (before ++ t :: after)) (.array (before ++ t' :: after))
  | item {s : Shape} {before after : List Tree} {t t' : Tree} (h : Change s t t') :
      Change (.list s) (.array (before ++ t :: after)) (.array (before ++ t' :: after))

/-- A form is read from trees, and the same is read after a change of one. -/
structure Form.Steady {α : Type} (f : Form α) (s : Shape) : Prop where
  reads : Reads f.read (Makes f.read)
  makes_iff : ∀ {t t' a}, Change s t t' → (Makes f.read t a ↔ Makes f.read t' a)

theorem Key.Names.unique {k : Key} {name name' : String} (h : k.Names name) (h' : k.Names name') :
    name = name' := by
  have hread := readQuoted_content h []
  rw [readQuoted_content h' [], Except.ok.injEq, Prod.mk.injEq] at hread
  exact hread.1.symm

/-! ## Members -/

section Runs

variable {σ : Type} {F : String → Tree → σ → σ → Prop} {s s' : σ}

theorem runs_append {members members' : List (Key × Tree)} :
    Runs F s (members ++ members') s' ↔ ∃ s₁, Runs F s members s₁ ∧ Runs F s₁ members' s' := by
  induction members generalizing s with
  | nil =>
    constructor
    · exact fun h => ⟨s, .nil s, h⟩
    · rintro ⟨_, ⟨⟩, h⟩
      exact h
  | cons m members ih =>
    constructor
    · intro h
      cases h with
      | cons hname head tail =>
        obtain ⟨s₁, h₁, h₂⟩ := ih.1 tail
        exact ⟨s₁, .cons hname head h₁, h₂⟩
    · rintro ⟨s₁, h₁, h₂⟩
      cases h₁ with
      | cons hname head tail => exact .cons hname head (ih.2 ⟨s₁, tail, h₂⟩)

theorem runs_cons {k : Key} {name : String} (hname : k.Names name) {t : Tree}
    {members : List (Key × Tree)} :
    Runs F s ((k, t) :: members) s' ↔ ∃ s₁, F name t s s₁ ∧ Runs F s₁ members s' := by
  constructor
  · intro h
    cases h with
    | cons hname' head tail =>
      obtain rfl := hname.unique hname'
      exact ⟨_, head, tail⟩
  · rintro ⟨s₁, head, tail⟩
    exact .cons hname head tail

/-- A member that changes nothing may be left out. -/
theorem runs_add {before after : List (Key × Tree)} {k : Key} {name : String} {t : Tree}
    (hname : k.Names name) (h : ∀ s s', F name t s s' ↔ s' = s) :
    Runs F s (before ++ after) s' ↔ Runs F s (before ++ (k, t) :: after) s' := by
  simp only [runs_append, runs_cons hname, h, exists_eq_left]

theorem runs_congr {before after : List (Key × Tree)} {k : Key} {name : String} {t t' : Tree}
    (hname : k.Names name) (h : ∀ s s', F name t s s' ↔ F name t' s s') :
    Runs F s (before ++ (k, t) :: after) s' ↔ Runs F s (before ++ (k, t') :: after) s' := by
  simp only [runs_append, runs_cons hname, h]

/-- The order of the members does not matter if that of two neighbours does not. -/
theorem Runs.perm (hswap : ∀ {name t name' t' s s₁ s'}, F name t s s₁ → F name' t' s₁ s' →
      ∃ s₂, F name' t' s s₂ ∧ F name t s₂ s')
    {members members' : List (Key × Tree)} (hperm : members.Perm members') (h : Runs F s members s') :
    Runs F s members' s' := by
  induction hperm generalizing s with
  | nil => exact h
  | cons m _ ih =>
    cases h with
    | cons hname head tail => exact .cons hname head (ih tail)
  | swap m m' members =>
    cases h with
    | cons hname head tail =>
      cases tail with
      | cons hname' head' tail =>
        obtain ⟨s₂, h₁, h₂⟩ := hswap head head'
        exact .cons hname' h₁ (.cons hname h₂ tail)
  | trans _ _ ih ih' => exact ih' (ih h)

end Runs

/-! ## Plain types, options and lists -/

namespace Form

variable {α : Type} {f : Form α} {R : Tree → α → Prop} {s : Shape}

theorem steady_plain (h : Reads f.read R) : f.Steady .plain where
  reads := h.self
  makes_iff := by rintro t t' a ⟨⟩

end Form

theorem Change.ne_plain {s : Shape} {t t' : Tree} (h : Change s t t') {text : Bytes}
    (htext : Plain text) : t ≠ .plain text htext ∧ t' ≠ .plain text htext := by
  cases h
  all_goals
    constructor
    all_goals
      rintro ⟨⟩

namespace Form

variable {α : Type} {f : Form α} {R : Tree → α → Prop} {s : Shape}

theorem Steady.option (h : f.Steady s) : (Form.option f).Steady s where
  reads := h.reads.option.self
  makes_iff {t t' a} hchange := by
    have hsome {t : Tree} (ht : t ≠ .plain (lowerN :: restOfNull) .literalNull) :
        Makes (Form.option f).read t a ↔ ∃ b, a = some b ∧ Makes f.read t b := by
      rw [h.reads.option.makes_iff]
      constructor
      · rintro (_ | ⟨ha, -⟩)
        · exact absurd rfl ht
        · exact ⟨_, rfl, ha⟩
      · rintro ⟨b, rfl, hb⟩
        exact .value hb ht
    obtain ⟨ht, ht'⟩ := hchange.ne_plain .literalNull
    simp only [hsome ht, hsome ht', h.makes_iff hchange]

end Form

theorem forall₂_congr_at {β γ : Type} {P : β → γ → Prop} {b b' : β} (h : ∀ c, P b c ↔ P b' c)
    {before after : List β} {cs : List γ} :
    List.Forall₂ P (before ++ b :: after) cs ↔ List.Forall₂ P (before ++ b' :: after) cs := by
  induction before generalizing cs with
  | nil => simp only [List.nil_append, List.forall₂_cons_left_iff, h]
  | cons d before ih => simp only [List.cons_append, List.forall₂_cons_left_iff, ih]

theorem listOf_array {α : Type} {R : Tree → α → Prop} {items : List Tree} {as : List α} :
    ListOf R (.array items) as ↔ List.Forall₂ R items as := by
  constructor
  · rintro ⟨h⟩
    exact h
  · exact .items

theorem Form.Steady.list {α : Type} {f : Form α} {s : Shape} (h : f.Steady s) :
    (Form.list f).Steady (.list s) where
  reads := h.reads.list.self
  makes_iff hchange := by
    cases hchange with
    | item hchange =>
      simp only [h.reads.list.makes_iff, listOf_array]
      exact forall₂_congr_at fun a => h.makes_iff hchange

/-! ## Records -/

namespace Fields

/-- The members of a record are steady, each in its shape. -/
inductive Steady : {τ : Type} → Fields τ → List (String × Shape) → Prop where
  | nil : Steady .nil []
  | cons {α β : Type} {name : String} {form : Form α} {fallback : Option α} {rest : Fields β}
      {s : Shape} {shapes : List (String × Shape)} (head : form.Steady s)
      (tail : rest.Steady shapes) :
      Steady (.cons name form fallback rest) ((name, s) :: shapes)

variable {τ : Type} {fs : Fields τ} {shapes : List (String × Shape)}

theorem Steady.readable (h : fs.Steady shapes) : fs.Readable := by
  induction h with
  | nil => exact trivial
  | cons head _ ih => exact ⟨head.reads, ih⟩

/-- Two members may fill their slots in either order. -/
theorem fill_swap {name name' : String} {t t' : Tree} {slots slots₁ slots' : fs.Slots}
    (h : fs.Fill name t slots slots₁) (h' : fs.Fill name' t' slots₁ slots') :
    ∃ slots₂, fs.Fill name' t' slots slots₂ ∧ fs.Fill name t slots₂ slots' := by
  induction fs with
  | nil => exact ⟨slots, trivial, trivial⟩
  | cons field form fallback rest ih =>
    obtain ⟨slot, others⟩ := slots
    obtain ⟨slot₁, others₁⟩ := slots₁
    obtain ⟨slot', others'⟩ := slots'
    by_cases hname : name = field
    · subst hname
      obtain ⟨rfl, rfl, a, ha, rfl⟩ := fill_self.1 h
      by_cases hname' : name' = name
      · subst hname'
        cases (fill_self.1 h').1
      · obtain ⟨rfl, hothers⟩ := (fill_other hname').1 h'
        exact ⟨(none, others'), (fill_other hname').2 ⟨rfl, hothers⟩,
          fill_self.2 ⟨rfl, rfl, a, ha, rfl⟩⟩
    · obtain ⟨rfl, hothers⟩ := (fill_other hname).1 h
      by_cases hname' : name' = field
      · subst hname'
        obtain ⟨rfl, rfl, a, ha, rfl⟩ := fill_self.1 h'
        exact ⟨(some a, others), fill_self.2 ⟨rfl, rfl, a, ha, rfl⟩,
          (fill_other hname).2 ⟨rfl, hothers⟩⟩
      · obtain ⟨rfl, hothers'⟩ := (fill_other hname').1 h'
        obtain ⟨others₂, h₁, h₂⟩ := ih hothers hothers'
        exact ⟨(_, others₂), (fill_other hname').2 ⟨rfl, h₁⟩, (fill_other hname).2 ⟨rfl, h₂⟩⟩

/-- A member of another name fills no slot. -/
theorem Steady.fill_add (h : fs.Steady shapes) {name : String} (hother : name ∉ shapes.map Prod.fst)
    {t : Tree} (slots slots' : fs.Slots) : fs.Fill name t slots slots' ↔ slots' = slots := by
  induction h with
  | nil => exact ⟨fun _ => rfl, fun _ => trivial⟩
  | cons _ _ ih =>
    obtain ⟨slot, others⟩ := slots
    obtain ⟨slot', others'⟩ := slots'
    rw [List.map_cons, List.mem_cons, not_or] at hother
    rw [fill_other hother.1, ih hother.2]
    constructor
    · rintro ⟨rfl, rfl⟩
      rfl
    · intro heq
      cases heq
      exact ⟨rfl, rfl⟩

theorem Steady.fill_congr (h : fs.Steady shapes) {name : String} {s : Shape}
    (hfield : shapes.lookup name = some s) {t t' : Tree} (hchange : Change s t t')
    (slots slots' : fs.Slots) : fs.Fill name t slots slots' ↔ fs.Fill name t' slots slots' := by
  induction h with
  | nil => exact Iff.rfl
  | @cons _ _ field _ _ _ _ _ head _ ih =>
    obtain ⟨slot, others⟩ := slots
    obtain ⟨slot', others'⟩ := slots'
    by_cases hname : name = field
    · subst hname
      rw [List.lookup_cons_self, Option.some.injEq] at hfield
      subst hfield
      simp only [fill_self, head.makes_iff hchange]
    · rw [List.lookup_cons, beq_eq_false_iff_ne.2 hname] at hfield
      simp only [fill_other hname, ih hfield]

theorem Steady.place_congr (h : fs.Steady shapes) {before after : List Tree} {name : String}
    {s : Shape} (hfield : shapes[before.length]? = some (name, s)) {t t' : Tree}
    (hchange : Change s t t') {b : τ} :
    fs.Place (before ++ t :: after) b ↔ fs.Place (before ++ t' :: after) b := by
  induction h generalizing before with
  | nil => simp only [Place, List.append_eq_nil_iff, List.cons_ne_nil, and_false]
  | cons head _ ih =>
    obtain ⟨a, b⟩ := b
    cases before with
    | nil =>
      cases hfield
      simp only [List.nil_append, Place, head.makes_iff hchange]
    | cons d before =>
      simp only [List.cons_append, Place, ih hfield]

variable {t t' : Tree} {b : τ}

theorem records_object {members : List (Key × Tree)} :
    fs.Records (.object members) b ↔
      ∃ slots, Runs fs.Fill fs.empty members slots ∧ fs.complete slots = .ok b := by
  constructor
  · rintro ⟨hruns, hcomplete⟩
    exact ⟨_, hruns, hcomplete⟩
  · rintro ⟨slots, hruns, hcomplete⟩
    exact .object hruns hcomplete

theorem records_congr {members members' : List (Key × Tree)}
    (h : ∀ slots, Runs fs.Fill fs.empty members slots ↔ Runs fs.Fill fs.empty members' slots) :
    fs.Records (.object members) b ↔ fs.Records (.object members') b := by
  simp only [records_object, h]

theorem records_array {items : List Tree} : fs.Records (.array items) b ↔ fs.Place items b := by
  constructor
  · rintro ⟨⟩
    assumption
  · exact .list

/-- A record makes the same of a tree and of what a change leaves of it. -/
theorem Steady.records (h : fs.Steady shapes) (hchange : Change (.record shapes) t t') :
    fs.Records t b ↔ fs.Records t' b := by
  cases hchange with
  | reorder hperm =>
    exact records_congr fun slots => ⟨.perm fill_swap hperm, .perm fill_swap hperm.symm⟩
  | add hname hother => exact records_congr fun slots => runs_add hname (h.fill_add hother)
  | member hname hfield hchange =>
    exact records_congr fun slots => runs_congr hname (h.fill_congr hfield hchange)
  | place hfield hchange =>
    simp only [records_array]
    exact h.place_congr hfield hchange

theorem Steady.record {α : Type} (h : fs.Steady shapes) (name : String) (make : τ → α)
    (parts : α → τ) : (Form.record name fs make parts).Steady (.record shapes) where
  reads := (h.readable.record name make parts).self
  makes_iff hchange := by
    simp only [(h.readable.record name make parts).makes_iff, h.records hchange]

end Fields

/-! ## Whole texts -/

namespace Form.Steady

variable {α : Type} {f : Form α} {s : Shape} {t t' : Tree} {a : α}

/-- After any number of changes the same is made of a tree. -/
theorem makes_iff_of_changes (h : f.Steady s) (hchanges : Relation.EqvGen (Change s) t t') :
    Makes f.read t a ↔ Makes f.read t' a := by
  induction hchanges with
  | rel t t' hchange => exact h.makes_iff hchange
  | refl t => exact Iff.rfl
  | symm t t' _ ih => exact ih.symm
  | trans t t' t'' _ _ ih ih' => exact ih.trans ih'

/-- After any number of changes, each text is read as the texts were before. -/
theorem parse_iff (h : f.Steady s) (hchanges : Relation.EqvGen (Change s) t t') {text text' : Bytes}
    (ht : t.WholeText text) (ht' : t'.WholeText text') :
    f.parse text = .ok a ↔ f.parse text' = .ok a := by
  rw [Form.parse, Form.parse, h.reads.readWhole_iff ht, h.reads.readWhole_iff ht',
    h.makes_iff_of_changes hchanges]

end Form.Steady

end Json
end Scoreline
