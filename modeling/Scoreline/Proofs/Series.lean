import Scoreline.Proofs.Layout
import Scoreline.Series

/-!
# Scoreline.Proofs.Series

From events to series, one stage at a time.

* `toList_assign` — bucket `i` holds the events whose index is `i`, in their order.
* `fill_eq` — the score of a bucket is what has been carried through all buckets up to it.
* `fit_getElem?` — a series of `n` points shows the last `n` scores, with zeros where there are
  fewer.
-/

namespace Scoreline

/-! ## Buckets -/

namespace Layout

/-- The events that fall into bucket `i`. -/
def eventsAt (l : Layout) (events : List Event) (i : Nat) : List Event :=
  events.filter fun e => l.indexOf e.time = i

theorem size_assign (l : Layout) (events : List Event) :
    (l.assign events).slots.size = l.count.toNat := by
  simp only [assign]
  induction events with
  | nil => simp
  | cons e events ih => simp only [List.foldr_cons, Array.size_modify, ih]

theorem slots_assign_getElem? (l : Layout) (events : List Event) {i : Nat} (h : i < l.count.toNat) :
    (l.assign events).slots[i]? = some (l.eventsAt events i) := by
  simp only [assign, eventsAt]
  induction events with
  | nil => simp [h]
  | cons e events ih =>
    rw [List.foldr_cons, Array.getElem?_modify, ih]
    by_cases hi : l.indexOf e.time = i
    · simp [hi]
    · simp [hi]

theorem eq_eventsAt_of_get? {l : Layout} {events bucket : List Event} {i : Nat}
    (h : (l.assign events).get? i = some bucket) : bucket = l.eventsAt events i := by
  have hi : i < l.count.toNat := by
    rw [← l.size_assign events]
    exact (Array.getElem?_eq_some_iff.1 h).1
  rw [Buckets.get?, slots_assign_getElem? l events hi, Option.some.injEq] at h
  exact h.symm

theorem toList_assign (l : Layout) (events : List Event) :
    (l.assign events).toList = (List.range l.count.toNat).map (l.eventsAt events) := by
  have hsize := l.size_assign events
  apply List.ext_getElem?
  intro i
  by_cases h : i < l.count.toNat
  · rw [Buckets.toList, Array.getElem?_toList, slots_assign_getElem? l events h]
    simp [h]
  · rw [Buckets.toList, Array.getElem?_toList, Array.getElem?_eq_none (by omega)]
    simp [h]

end Layout

/-! ## Forward fill -/

namespace Series

/-- The score after the buckets `bs`, when it was `last` before them. -/
def carry (last : Int64) (bs : List (List Event)) : Int64 :=
  bs.foldl (fun score events => (best? events).getD score) last

theorem carry_append_singleton (last : Int64) (bs : List (List Event)) (events : List Event) :
    carry last (bs ++ [events]) = (best? events).getD (carry last bs) := by
  simp [carry, List.foldl_append]

/-- The scan, by induction on the buckets still to come. -/
theorem fillFrom_eq (last : Int64) (bs : List (List Event)) :
    fillFrom last bs = (List.range bs.length).map fun i => carry last (bs.take (i + 1)) := by
  induction bs generalizing last with
  | nil => rfl
  | cons events bs ih =>
    rw [fillFrom, ih, List.length_cons, List.range_succ_eq_map, List.map_cons, List.map_map]
    simp [carry, Function.comp_def]

theorem fill_eq (l : Layout) (events : List Event) :
    fill (l.assign events) =
      (List.range l.count.toNat).map fun i =>
        carry 0 ((List.range (i + 1)).map (l.eventsAt events)) := by
  rw [fill, Layout.toList_assign, fillFrom_eq, List.length_map, List.length_range]
  apply List.map_congr_left
  intro i hi
  have hi : i < l.count.toNat := List.mem_range.1 hi
  rw [← List.map_take, List.take_range, Nat.min_eq_left (by omega)]

/-! ## Fit -/

theorem length_fit (n : Nat) (s : Series) : (fit n s).length = n := by
  simp only [fit]
  split
  · rw [List.length_drop]
    omega
  · rw [List.length_append, List.length_replicate]
    omega

/-- Point `k` of `n` shows the score that is as far from the end. -/
theorem fit_getElem? (n : Nat) (s : Series) (k : Nat) :
    (fit n s)[k]? = if k + s.length < n then some 0 else s[k + s.length - n]? := by
  simp only [fit]
  by_cases hlen : n < s.length
  · rw [if_pos hlen, if_neg (by omega), List.getElem?_drop]
    congr 1
    omega
  · rw [if_neg hlen]
    by_cases hk : k + s.length < n
    · rw [if_pos hk, List.getElem?_append_left (by simp; omega),
        List.getElem?_replicate_of_lt (by omega)]
    · rw [if_neg hk, List.getElem?_append_right (by simp; omega), List.length_replicate]
      congr 1
      omega

end Series

end Scoreline
