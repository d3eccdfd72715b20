import Scoreline.Text.Parts

/-!
# Scoreline.Proofs.Text.Parts

Texts put together around a mark are taken apart again: by `splitBy` into all parts
(`splitBy_append`), by `cut` at the first mark (`cut_append`), and by any search that stops at the
mark (`takeWhile_append_cons`, `dropWhile_append_cons`).
-/

namespace Scoreline
namespace Text

section Search

variable {p : Char → Bool} {x : Char}

theorem takeWhile_append_cons (h : p x = false) (xs ys : List Char) :
    (xs ++ x :: ys).takeWhile p = xs.takeWhile p := by
  induction xs with
  | nil => rw [List.nil_append, List.takeWhile_cons_of_neg (by simp [h]), List.takeWhile_nil]
  | cons c xs ih =>
    rw [List.cons_append]
    cases hc : p c with
    | true => rw [List.takeWhile_cons_of_pos hc, List.takeWhile_cons_of_pos hc, ih]
    | false =>
      rw [List.takeWhile_cons_of_neg (by simp [hc]), List.takeWhile_cons_of_neg (by simp [hc])]

theorem dropWhile_append_cons (h : p x = false) (xs ys : List Char) :
    (xs ++ x :: ys).dropWhile p = xs.dropWhile p ++ x :: ys := by
  induction xs with
  | nil => rw [List.nil_append, List.dropWhile_cons_of_neg (by simp [h]), List.dropWhile_nil,
      List.nil_append]
  | cons c xs ih =>
    rw [List.cons_append]
    cases hc : p c with
    | true => rw [List.dropWhile_cons_of_pos hc, List.dropWhile_cons_of_pos hc, ih]
    | false =>
      rw [List.dropWhile_cons_of_neg (by simp [hc]), List.dropWhile_cons_of_neg (by simp [hc]),
        List.cons_append]

theorem takeWhile_of_all {xs : List Char} (h : ∀ c ∈ xs, p c = true) : xs.takeWhile p = xs := by
  have happend : (xs ++ []).takeWhile p = xs ++ [].takeWhile p := List.takeWhile_append_of_pos h
  rwa [List.append_nil, List.takeWhile_nil, List.append_nil] at happend

theorem dropWhile_of_all {xs : List Char} (h : ∀ c ∈ xs, p c = true) : xs.dropWhile p = [] := by
  have happend : (xs ++ []).dropWhile p = [].dropWhile p := List.dropWhile_append_of_pos h
  rwa [List.append_nil] at happend

theorem free_of_all {xs : List Char} (h : xs.all (!p ·) = true) : ∀ c ∈ xs, p c = false := by
  intro c hc
  have hfree := List.all_eq_true.1 h c hc
  rwa [Bool.not_eq_true'] at hfree

/-- Nothing is dropped from the end of a text that does not end in anything to be dropped. -/
theorem dropWhile_reverse {xs : List Char} (h : ∀ c ∈ xs.getLast?, p c = false) :
    (xs.reverse.dropWhile p).reverse = xs := by
  have hcut : xs.reverse.dropWhile p = xs.reverse := by
    rw [← List.head?_reverse] at h
    cases hrev : xs.reverse with
    | nil => rfl
    | cons c cs =>
      rw [hrev] at h
      exact List.dropWhile_cons_of_neg (by simp [h c rfl])
  rw [hcut, List.reverse_reverse]

end Search

/-! ## All parts -/

section Parts

variable {separates : Char → Bool}

theorem splitBy_cons {cs part : List Char} {parts : List (List Char)}
    (h : splitBy separates cs = part :: parts) (c : Char) :
    splitBy separates (c :: cs) =
      if separates c then [] :: part :: parts else (c :: part) :: parts := by
  rw [splitBy, h]

theorem exists_splitBy_eq_cons (separates : Char → Bool) (cs : List Char) :
    ∃ part parts, splitBy separates cs = part :: parts := by
  induction cs with
  | nil => exact ⟨[], [], rfl⟩
  | cons c cs ih =>
    obtain ⟨part, parts, h⟩ := ih
    rw [splitBy_cons h]
    split
    · exact ⟨_, _, rfl⟩
    · exact ⟨_, _, rfl⟩

theorem splitBy_append {x : Char} (hx : separates x = true) (xs ys : List Char) :
    splitBy separates (xs ++ x :: ys) = splitBy separates xs ++ splitBy separates ys := by
  induction xs with
  | nil =>
    obtain ⟨part, parts, hys⟩ := exists_splitBy_eq_cons separates ys
    rw [List.nil_append, splitBy_cons hys, if_pos hx, hys]
    rfl
  | cons c xs ih =>
    obtain ⟨part, parts, hxs⟩ := exists_splitBy_eq_cons separates xs
    rw [hxs, List.cons_append] at ih
    rw [List.cons_append, splitBy_cons ih, splitBy_cons hxs]
    split
    · rfl
    · rfl

/-- A text without a mark is one part. -/
theorem splitBy_of_free {xs : List Char} (h : ∀ c ∈ xs, separates c = false) :
    splitBy separates xs = [xs] := by
  induction xs with
  | nil => rfl
  | cons c xs ih =>
    rw [splitBy, ih fun d hd => h d (List.mem_cons_of_mem _ hd), h c List.mem_cons_self]
    simp only [Bool.false_eq_true, if_false]

/-- Parts without a mark are what a text put together from them is split into. -/
theorem splitBy_join {mark : Char} (hmark : separates mark = true) {first : List Char}
    {parts : List (List Char)}
    (h : ∀ part ∈ first :: parts, ∀ c ∈ part, separates c = false) :
    splitBy separates (first ++ parts.flatMap (mark :: ·)) = first :: parts := by
  induction parts generalizing first with
  | nil => rw [List.flatMap_nil, List.append_nil, splitBy_of_free (h first List.mem_cons_self)]
  | cons part parts ih =>
    rw [List.flatMap_cons, List.cons_append, splitBy_append hmark,
      splitBy_of_free (h first List.mem_cons_self), List.singleton_append,
      ih fun p hp => h p (List.mem_cons_of_mem first hp)]

theorem splitBy_congr {separates' : Char → Bool} {xs : List Char}
    (h : ∀ c ∈ xs, separates c = separates' c) : splitBy separates xs = splitBy separates' xs := by
  induction xs with
  | nil => rfl
  | cons c xs ih =>
    rw [splitBy, splitBy, ih fun d hd => h d (List.mem_cons_of_mem c hd), h c List.mem_cons_self]

theorem mem_of_mem_splitBy {xs part : List Char} (h : part ∈ splitBy separates xs) :
    ∀ c ∈ part, c ∈ xs := by
  induction xs generalizing part with
  | nil =>
    intro c hc
    rw [List.mem_singleton.1 h] at hc
    exact hc
  | cons x xs ih =>
    intro c hc
    obtain ⟨first, others, hxs⟩ := exists_splitBy_eq_cons separates xs
    have hpart (other : List Char) (hother : other ∈ first :: others) (hmem : c ∈ other) :
        c ∈ x :: xs := List.mem_cons_of_mem _ (ih (by rw [hxs]; exact hother) c hmem)
    rw [splitBy_cons hxs] at h
    split at h
    · rcases List.mem_cons.1 h with rfl | h
      · cases hc
      · exact hpart part h hc
    · rcases List.mem_cons.1 h with rfl | h
      · rcases List.mem_cons.1 hc with rfl | hc
        · exact List.mem_cons_self
        · exact hpart first List.mem_cons_self hc
      · exact hpart part (List.mem_cons_of_mem _ h) hc

theorem free_of_mem_splitBy {xs part : List Char} (h : part ∈ splitBy separates xs) :
    ∀ c ∈ part, separates c = false := by
  induction xs generalizing part with
  | nil =>
    intro c hc
    rw [List.mem_singleton.1 h] at hc
    cases hc
  | cons x xs ih =>
    intro c hc
    obtain ⟨first, others, hxs⟩ := exists_splitBy_eq_cons separates xs
    rw [hxs] at ih
    rw [splitBy_cons hxs] at h
    split at h
    · rcases List.mem_cons.1 h with rfl | h
      · cases hc
      · exact ih h c hc
    · rename_i hx
      rcases List.mem_cons.1 h with rfl | h
      · rcases List.mem_cons.1 hc with rfl | hc
        · exact Bool.eq_false_iff.2 hx
        · exact ih List.mem_cons_self c hc
      · exact ih (List.mem_cons_of_mem _ h) c hc

/-- The parts with the mark before each of them make up the text. -/
theorem flatMap_splitBy {mark : Char} {xs : List Char}
    (h : ∀ c ∈ xs, separates c = true → c = mark) :
    (splitBy separates xs).flatMap (mark :: ·) = mark :: xs := by
  induction xs with
  | nil => rfl
  | cons c xs ih =>
    obtain ⟨part, parts, hxs⟩ := exists_splitBy_eq_cons separates xs
    have hrest := ih fun d hd => h d (List.mem_cons_of_mem _ hd)
    rw [hxs, List.flatMap_cons, List.cons_append, List.cons.injEq] at hrest
    rw [splitBy_cons hxs]
    split
    · rename_i hc
      rw [List.flatMap_cons, List.flatMap_cons, h c List.mem_cons_self hc, ← hrest.2]
      rfl
    · rw [List.flatMap_cons, List.cons_append, List.cons_append, hrest.2]

end Parts

/-! ## The first mark -/

variable {mark : Char} {xs : List Char}

theorem cut_append (h : mark ∉ xs) (ys : List Char) : cut mark (xs ++ mark :: ys) = (xs, ys) := by
  have hxs : ∀ c ∈ xs, (c != mark) = true := fun c hc => bne_iff_ne.2 fun heq => h (heq ▸ hc)
  rw [cut, takeWhile_append_cons (by simp), dropWhile_append_cons (by simp), takeWhile_of_all hxs,
    dropWhile_of_all hxs]
  rfl

theorem cut_of_free (h : mark ∉ xs) : cut mark xs = (xs, []) := by
  have hxs : ∀ c ∈ xs, (c != mark) = true := fun c hc => bne_iff_ne.2 fun heq => h (heq ▸ hc)
  rw [cut, takeWhile_of_all hxs, dropWhile_of_all hxs]
  rfl

end Text
end Scoreline
