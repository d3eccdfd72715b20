import Scoreline.Proofs.Series

/-!
# Scoreline.Proofs.Partition

The buckets of a layout divide time, and `Layout.assign` divides events by them.

`Layout.indexOf` forms a quotient, and `Layout.bounds` forms a product and brings it into the range
of a word. Between them stand the exact starts of the buckets: inside the buckets, a time belongs to
a bucket before bucket `i` if and only if it lies before the start of bucket `i`
(`Layout.indexOf_lt_iff`). From this follow the two ends of the one bucket that a time belongs to
(`layout_partitions`).

Putting one more event into one bucket puts one more event into all of them (`flatten_modify_perm`);
by induction on the events, the buckets together hold what was put into them
(`Layout.flatten_assign_perm`). Their order in time is the order of the bucket numbers
(`assign_sorts`).
-/

namespace Scoreline

namespace Layout

variable {l : Layout}

/-! ## The bucket of a time, by its exact start -/

theorem lt_of_indexOf_lt (h : l.IsProper) {s t : Int64} (hst : l.indexOf s < l.indexOf t) :
    s < t := by
  apply lt_of_place_lt h
  rw [← indexOf_eq_place h, ← indexOf_eq_place h]
  omega

theorem indexOf_of_before (h : l.IsProper) {t : Int64} (ht : t.toInt < l.startOf 0) :
    l.indexOf t = 0 := by
  have hstart := startOf_mono h (Nat.zero_le (0 + 1))
  have hle := (indexOf_le_iff h 0 t).2 (Or.inl (by omega))
  omega

theorem indexOf_of_after (h : l.IsProper) {t : Int64} (ht : l.startOf l.count.toNat ≤ t.toInt) :
    l.indexOf t = l.count.toNat - 1 := by
  have hlt := indexOf_lt_count h t
  rcases Nat.lt_or_ge l.count.toNat 2 with hone | htwo
  · omega
  · -- the time is in none of the buckets before the last
    have hbefore := indexOf_le_iff h (l.count.toNat - 2) t
    have hstart := startOf_mono h (by omega : l.count.toNat - 2 + 1 ≤ l.count.toNat)
    omega

theorem indexOf_lt_iff (h : l.IsProper) {t : Int64} (hstart : l.startOf 0 ≤ t.toInt)
    (hstop : t.toInt < l.startOf l.count.toNat) (i : Nat) :
    l.indexOf t < i ↔ t.toInt < l.startOf i := by
  cases i with
  | zero =>
    constructor
    · intro hlt
      exact absurd hlt (Nat.not_lt_zero _)
    · intro hlt
      omega
  | succ i =>
    rw [Nat.lt_succ_iff, indexOf_le_iff h]
    constructor
    · rintro (hlt | hlast)
      · exact hlt
      · exact Int.lt_of_lt_of_le hstop (startOf_mono h hlast)
    · exact Or.inl

theorem indexOf_eq_iff (h : l.IsProper) {t : Int64} (hstart : l.startOf 0 ≤ t.toInt)
    (hstop : t.toInt < l.startOf l.count.toNat) (i : Nat) :
    l.indexOf t = i ↔ l.startOf i ≤ t.toInt ∧ t.toInt < l.startOf (i + 1) := by
  have hbefore := indexOf_lt_iff h hstart hstop i
  have hupto := indexOf_lt_iff h hstart hstop (i + 1)
  omega

theorem toInt_bounds_fst (l : Layout) (i : Nat) :
    (l.bounds i).1.toInt = max Int64.minValue.toInt (min (l.startOf i) Int64.maxValue.toInt) :=
  toInt_ofIntClamp _

theorem bounds_snd (l : Layout) (i : Nat) : (l.bounds i).2 = (l.bounds (i + 1)).1 := by
  simp only [bounds, startOf_succ]

end Layout

/-- In the layout for any window and number of points, bucket numbers do not fall as time goes on
and stay below the number of buckets. A time inside the buckets has the number of the one bucket that
begins at it or before and ends after it; earlier times have the first number and later ones the
last. The bounds of a bucket are the words nearest to its exact ends, and each bucket ends where the
next begins. -/
theorem layout_partitions (w : Window) (n : UInt64) :
    let l := Layout.ofWindow w n
    let start (i : Nat) : Int := w.min.toInt + i * l.width.toInt
    let nearest (t : Int) : Int := max Int64.minValue.toInt (min t Int64.maxValue.toInt)
    (∀ s t : Int64, s ≤ t → l.indexOf s ≤ l.indexOf t) ∧
      (∀ t : Int64, l.indexOf t < l.count.toNat) ∧
      (∀ t : Int64, w.min ≤ t → t.toInt < start l.count.toNat → ∀ i : Nat,
        l.indexOf t = i ↔ start i ≤ t.toInt ∧ t.toInt < start (i + 1)) ∧
      (∀ t : Int64, t < w.min → l.indexOf t = 0) ∧
      (∀ t : Int64, start l.count.toNat ≤ t.toInt → l.indexOf t = l.count.toNat - 1) ∧
      ∀ i : Nat, (l.bounds i).1.toInt = nearest (start i) ∧
        (l.bounds i).2.toInt = nearest (start (i + 1)) ∧ (l.bounds i).2 = (l.bounds (i + 1)).1 := by
  intro l start nearest
  have h : l.IsProper := Layout.ofWindow_isProper w n
  have hfirst : l.startOf 0 = w.min.toInt := l.startOf_zero
  refine ⟨fun s t => Layout.indexOf_mono h, Layout.indexOf_lt_count h, ?_, ?_, ?_, ?_⟩
  · intro t hmin hstop i
    rw [Int64.le_iff_toInt_le, ← hfirst] at hmin
    exact Layout.indexOf_eq_iff h hmin hstop i
  · intro t ht
    rw [Int64.lt_iff_toInt_lt, ← hfirst] at ht
    exact Layout.indexOf_of_before h ht
  · intro t ht
    exact Layout.indexOf_of_after h ht
  · intro i
    refine ⟨l.toInt_bounds_fst i, ?_, l.bounds_snd i⟩
    rw [l.bounds_snd i]
    exact l.toInt_bounds_fst (i + 1)

/-- The last bucket at the end of time: it covers the last word, and its exact end, two seconds
later, is no word. -/
theorem layout_partitions_last :
    let w : Window := ⟨9223372036854775797, Int64.maxValue⟩
    let l := Layout.ofWindow w 3
    l = ⟨w, 3, 4⟩ ∧ w.min ≤ Int64.maxValue ∧
      Int64.maxValue.toInt < w.min.toInt + l.count.toNat * l.width.toInt ∧
      l.indexOf Int64.maxValue = 3 ∧ (l.bounds 3).1.toInt = 9223372036854775806 ∧
      (l.bounds 3).2.toInt = 9223372036854775807 := by
  have hl : Layout.ofWindow ⟨9223372036854775797, Int64.maxValue⟩ 3 =
      ⟨⟨9223372036854775797, Int64.maxValue⟩, 3, 4⟩ := rfl
  intro w l
  have hmin : w.min ≤ Int64.maxValue := by decide
  have hstop : Int64.maxValue.toInt < w.min.toInt + l.count.toNat * l.width.toInt := by decide
  obtain ⟨-, -, hinside, -, -, hbounds⟩ := layout_partitions w 3
  obtain ⟨hfst, hsnd, -⟩ := hbounds 3
  refine ⟨hl, hmin, hstop, (hinside Int64.maxValue hmin hstop 3).2 ?_, ?_, ?_⟩
  · decide
  · rw [hfst]
    decide
  · rw [hsnd]
    decide

/-! ## Events in buckets -/

/-- One more event in one bucket is one more event in all of them. -/
theorem flatten_modify_perm (e : Event) {slots : List (List Event)} {i : Nat}
    (h : i < slots.length) : (slots.modify i (e :: ·)).flatten.Perm (e :: slots.flatten) := by
  induction slots generalizing i with
  | nil => cases h
  | cons slot slots ih =>
    cases i with
    | zero => exact List.Perm.refl _
    | succ i =>
      rw [List.modify_succ_cons, List.flatten_cons, List.flatten_cons]
      have hrest := ih (Nat.lt_of_succ_lt_succ h)
      exact (hrest.append_left slot).trans List.perm_middle

theorem Layout.flatten_assign_perm {l : Layout} (h : l.IsProper) (events : List Event) :
    (l.assign events).toList.flatten.Perm events := by
  induction events with
  | nil => simp [assign, Buckets.toList]
  | cons e events ih =>
    have hslots : (l.assign (e :: events)).toList =
        (l.assign events).toList.modify (l.indexOf e.time) (e :: ·) := Array.toList_modify
    have hindex : l.indexOf e.time < (l.assign events).toList.length := by
      rw [Layout.toList_assign, List.length_map, List.length_range]
      exact indexOf_lt_count h e.time
    rw [hslots]
    exact (flatten_modify_perm e hindex).trans (ih.cons e)

/-- Sorted into the buckets of the layout for any window and number of points, events are neither
lost nor made nor changed. There are as many buckets as the layout has; bucket `i` holds the events
with that number, in their order; all buckets together hold the events; and the events of a bucket
are earlier than all events of the buckets after it. -/
theorem assign_sorts (w : Window) (n : UInt64) (events : List Event) :
    let l := Layout.ofWindow w n
    let buckets := l.assign events
    buckets.size = l.count.toNat ∧
      (∀ i < l.count.toNat, buckets.get? i = some (events.filter fun e => l.indexOf e.time = i)) ∧
      buckets.toList.flatten.Perm events ∧
      buckets.toList.Pairwise fun earlier later =>
        ∀ e ∈ earlier, ∀ e' ∈ later, e.time < e'.time := by
  intro l buckets
  have h : l.IsProper := Layout.ofWindow_isProper w n
  refine ⟨l.size_assign events, fun i hi => l.slots_assign_getElem? events hi,
    Layout.flatten_assign_perm h events, ?_⟩
  rw [l.toList_assign events, List.pairwise_map]
  refine List.pairwise_lt_range.imp ?_
  intro i j hij e he e' he'
  rw [Layout.eventsAt, List.mem_filter, decide_eq_true_eq] at he he'
  exact Layout.lt_of_indexOf_lt h (by omega)

/-- Unsorted events before, in and after the buckets, one of them twice. -/
theorem assign_sorts_outside :
    let l := Layout.ofWindow ⟨0, 9⟩ 3
    let events : List Event := [⟨10, 1⟩, ⟨-4, 2⟩, ⟨4, 3⟩, ⟨-4, 2⟩]
    0 < l.count.toNat ∧ (l.assign events).get? 0 = some [⟨-4, 2⟩, ⟨-4, 2⟩] ∧
      (l.assign events).toList.flatten.Perm events ∧
      (l.assign events).toList.Pairwise fun earlier later =>
        ∀ e ∈ earlier, ∀ e' ∈ later, e.time < e'.time := by
  intro l events
  have hcount : 0 < l.count.toNat := by decide
  obtain ⟨-, hbuckets, hperm, hsorted⟩ := assign_sorts ⟨0, 9⟩ 3 events
  exact ⟨hcount, hbuckets 0 hcount, hperm, hsorted⟩

end Scoreline
