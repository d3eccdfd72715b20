import Scoreline.Id
import Scoreline.Proofs.Json.Form
import Scoreline.Proofs.Text.Parts

/-!
# Scoreline.Proofs.Name

What a name is made of. `Text.Unpadded` is known of every name: it has something in it, and no blank at
either end. A text makes a name if it has a character that is not blank (`Id.exists_make_iff`), and then
it is the name with blanks around it (`Id.make_eq_some_iff`). So a name makes itself (`Id.make_text`).

From JSON a name is read as it is made of the string there, whatever text that string has
(`Id.takes`); `Id.outcome` says what becomes of a string that makes no name.
-/

namespace Scoreline

open Json

/-! ## Texts with blanks around them -/

namespace Text

theorem head?_trimChars (s : List Char) : ∀ c ∈ (trimChars s).head?, isBlank c = false := by
  intro c hc
  have hdrop : (trimChars s).dropWhile isBlank = trimChars s :=
    dropWhile_dropBlankEnd (dropWhile_dropWhile _ _)
  have hhead := List.head?_dropWhile_not isBlank (trimChars s)
  rw [hdrop, hc] at hhead
  exact hhead

theorem getLast?_trimChars (s : List Char) : ∀ c ∈ (trimChars s).getLast?, isBlank c = false := by
  intro c hc
  have hhead := List.head?_dropWhile_not isBlank (s.dropWhile isBlank).reverse
  rw [trimChars, dropBlankEnd, List.getLast?_reverse] at hc
  rw [hc] at hhead
  exact hhead

/-- Only blanks are dropped, and only from the ends. -/
theorem exists_trimChars (s : List Char) :
    ∃ front back, (∀ c ∈ front, isBlank c = true) ∧ (∀ c ∈ back, isBlank c = true) ∧
      s = front ++ trimChars s ++ back := by
  let inside := s.dropWhile isBlank
  refine ⟨s.takeWhile isBlank, (inside.reverse.takeWhile isBlank).reverse,
    List.all_eq_true.1 List.all_takeWhile, fun c hc => ?_, ?_⟩
  · exact List.all_eq_true.1 List.all_takeWhile c (List.mem_reverse.1 hc)
  · have hinside : trimChars s ++ (inside.reverse.takeWhile isBlank).reverse = inside := by
      rw [trimChars, dropBlankEnd, ← List.reverse_append, List.takeWhile_append_dropWhile,
        List.reverse_reverse]
    rw [List.append_assoc, hinside, List.takeWhile_append_dropWhile]

/-- What has no blank at its ends is left of what has blanks around it. -/
theorem trimChars_append {front text back : List Char} (hfront : ∀ c ∈ front, isBlank c = true)
    (hback : ∀ c ∈ back, isBlank c = true) (hhead : ∀ c ∈ text.head?, isBlank c = false)
    (hlast : ∀ c ∈ text.getLast?, isBlank c = false) (hne : text ≠ []) :
    trimChars (front ++ text ++ back) = text := by
  have hdrop : (text ++ back).dropWhile isBlank = text ++ back := by
    cases text with
    | nil => exact absurd rfl hne
    | cons c text => exact List.dropWhile_cons_of_neg (by simp [hhead c rfl])
  have hreverse : ∀ c ∈ back.reverse, isBlank c = true := fun c hc =>
    hback c (List.mem_reverse.1 hc)
  rw [trimChars, dropBlankEnd, List.append_assoc, List.dropWhile_append_of_pos hfront, hdrop,
    List.reverse_append, List.dropWhile_append_of_pos hreverse, dropWhile_reverse hlast]

theorem trimChars_eq_nil_iff {s : List Char} :
    trimChars s = [] ↔ ∀ c ∈ s, isBlank c = true := by
  constructor
  · intro h
    obtain ⟨front, back, hfront, hback, hs⟩ := exists_trimChars s
    rw [h, List.append_nil] at hs
    rw [hs]
    exact List.forall_mem_append.2 ⟨hfront, hback⟩
  · intro h
    rw [trimChars, dropWhile_of_all h]
    rfl

/-- A text that has something in it and no blank at either end. -/
structure Unpadded (s : String) : Prop where
  nonempty : s ≠ ""
  head : ∀ c ∈ s.toList.head?, isBlank c = false
  last : ∀ c ∈ s.toList.getLast?, isBlank c = false

/-- Whether a text is another with blanks around it. -/
def Pads (s inside : String) : Prop :=
  ∃ front back, (∀ c ∈ front, isBlank c = true) ∧ (∀ c ∈ back, isBlank c = true) ∧
    s.toList = front ++ inside.toList ++ back

theorem trim_of_pads {s inside : String} (h : Pads s inside) (hinside : Unpadded inside) :
    trim s = inside := by
  obtain ⟨front, back, hfront, hback, hs⟩ := h
  have hne : inside.toList ≠ [] := fun hnil => hinside.nonempty (String.toList_eq_nil_iff.1 hnil)
  rw [← String.toList_inj, toList_trim, hs,
    trimChars_append hfront hback hinside.head hinside.last hne]

theorem pads_trim (s : String) : Pads s (trim s) := by
  obtain ⟨front, back, hfront, hback, hs⟩ := exists_trimChars s.toList
  exact ⟨front, back, hfront, hback, by rw [toList_trim, ← hs]⟩

end Text

/-! ## Names -/

namespace Id

variable {k : RankingKind} {s : String}

theorem unpadded (id : Id k) : Text.Unpadded id.text := by
  have htext : id.text.toList = Text.trimChars id.text.toList := by
    have htrim := congrArg String.toList id.trimmed
    rw [Text.toList_trim] at htrim
    exact htrim.symm
  refine ⟨id.nonempty, ?_, ?_⟩
  · rw [htext]
    exact Text.head?_trimChars _
  · rw [htext]
    exact Text.getLast?_trimChars _

theorem make_text (id : Id k) : make k id.text = some id := by
  obtain ⟨text, htrim, hne⟩ := id
  simp only [make, htrim, dif_neg hne]

/-- Texts that differ only in the blanks around them make the same. -/
theorem make_congr {t : String} (h : Text.trim s = Text.trim t) : make k s = make k t := by
  simp only [make, h]

/-- A text makes the name that it is with blanks around it. -/
theorem make_eq_some_iff {id : Id k} : make k s = some id ↔ Text.Pads s id.text := by
  constructor
  · intro h
    rw [make] at h
    split at h
    · cases h
    · rw [← Option.some.inj h]
      exact Text.pads_trim s
  · intro h
    have htrim : Text.trim s = Text.trim id.text := by
      rw [Text.trim_of_pads h id.unpadded, id.trimmed]
    rw [make_congr htrim, make_text]

theorem make_eq_none_iff : make k s = none ↔ ∀ c ∈ s.toList, Text.isBlank c = true := by
  have hempty : Text.trim s = "" ↔ Text.trimChars s.toList = [] := by
    rw [← String.toList_eq_nil_iff, Text.toList_trim]
  rw [← Text.trimChars_eq_nil_iff, ← hempty, make]
  by_cases h : Text.trim s = ""
  · rw [dif_pos h]
    exact iff_of_true rfl h
  · rw [dif_neg h]
    exact iff_of_false (Option.some_ne_none _) h

theorem exists_make_iff :
    (∃ id, make k s = some id) ↔ ∃ c ∈ s.toList, Text.isBlank c = false := by
  rw [← Option.isSome_iff_exists, Option.isSome_iff_ne_none, Ne, make_eq_none_iff]
  simp only [not_forall, Bool.not_eq_true, exists_prop]

/-! ## Names in JSON -/

/-- What is made of a string that is read where a name is wanted. -/
def outcome (k : RankingKind) (s : String) : Except Problem (Id k) :=
  match make k s with
  | some id => .ok id
  | none => .error (.mismatch (.refused (emptyMessage k)))

theorem outcome_eq_ok_iff {id : Id k} : outcome k s = .ok id ↔ make k s = some id := by
  rw [outcome]
  cases make k s with
  | none => simp
  | some id' => simp

theorem read_skipGap (text : Bytes) : (Id.form k).read (skipGap text) = (Id.form k).read text := by
  simp only [form, Form.checked, Form.string_lawful.read_skipGap]

/-- A name is read from any text of a string as it is made of the string. -/
theorem takes (k : RankingKind) {text : Bytes} (h : Quoted s text) :
    Takes (Id.form k).read text (outcome k s) := by
  refine ⟨h.opensValue, fun rest hrest => ?_⟩
  simp only [form, Form.checked, (Form.string_takes h).read_append rest hrest, Except.map, checked,
    outcome]
  cases make k s with
  | none => rfl
  | some id => rfl

end Id

end Scoreline
