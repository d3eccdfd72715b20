import Scoreline.Graph
import Scoreline.Proofs.Partition

/-!
# Scoreline.Proofs.Clipping

Events that no bucket covers, and how many of them are reported.

`Layout.indexOf` decides exactly, by the quotient of a time, which events move into the first or the
last bucket (`Layout.Misses`, `Layout.misses_iff_indexOf_ne`). `Layout.isClipped` compares with bounds
that have been brought into the range of a word. The two agree on every time but the last one that a
word holds (`Layout.isClipped_iff`). No bound lies after that time, so an event there counts as clipped
even if its bucket covers it.

`clipping_reported` says what number is reported, `clipping_overreported` where it is too large.
-/

namespace Scoreline

namespace Layout

/-- Whole widths from the opening of the window to a time, rounded down. -/
def widthsTo (l : Layout) (t : Int64) : Int := (t.toInt - l.window.min.toInt) / l.width.toInt

/-- No bucket covers the time. -/
def Misses (l : Layout) (t : Int64) : Prop := l.widthsTo t < 0 ∨ l.count.toNat ≤ l.widthsTo t

instance (l : Layout) (t : Int64) : Decidable (l.Misses t) :=
  inferInstanceAs (Decidable (l.widthsTo t < 0 ∨ l.count.toNat ≤ l.widthsTo t))

variable {l : Layout}

theorem misses_iff (h : l.IsProper) (t : Int64) :
    l.Misses t ↔ t.toInt < l.startOf 0 ∨ l.startOf l.count.toNat ≤ t.toInt := by
  have hw := h.width_pos
  have hbefore : l.widthsTo t < 0 ↔ t.toInt - l.window.min.toInt < 0 * l.width.toInt :=
    Int.ediv_lt_iff_lt_mul (by omega)
  have hafter : l.count.toNat ≤ l.widthsTo t ↔
      l.count.toNat * l.width.toInt ≤ t.toInt - l.window.min.toInt :=
    Int.le_ediv_iff_mul_le (by omega)
  simp only [Misses, startOf, hbefore, hafter]
  omega

theorem misses_iff_indexOf_ne (h : l.IsProper) (t : Int64) :
    l.Misses t ↔ (l.indexOf t : Int) ≠ l.widthsTo t := by
  have hc := h.count_pos
  rw [indexOf_eq_place h]
  -- a quotient is cut exactly if it is no number of a bucket
  simp only [place, Misses, widthsTo]
  omega

theorem isClipped_eq_true_iff (l : Layout) (e : Event) :
    l.isClipped e = true ↔ e.time < (l.bounds (l.indexOf e.time)).1 ∨
      (l.bounds (l.indexOf e.time)).2 ≤ e.time := by
  simp [isClipped]

theorem isClipped_iff (h : l.IsProper) (e : Event) :
    l.isClipped e = true ↔ l.Misses e.time ∨ e.time = Int64.maxValue := by
  have hmin := minValue_toInt
  have hmax := maxValue_toInt
  have htime := toInt_bounds e.time
  have hwindow := toInt_bounds l.window.min
  have hfirst := l.startOf_zero
  rw [isClipped_eq_true_iff, bounds_snd, Int64.lt_iff_toInt_lt, Int64.le_iff_toInt_le,
    toInt_bounds_fst, toInt_bounds_fst, misses_iff h, eq_maxValue_iff]
  by_cases hbefore : e.time.toInt < l.startOf 0
  · rw [indexOf_of_before h hbefore]
    omega
  · by_cases hafter : l.startOf l.count.toNat ≤ e.time.toInt
    · have hcount : l.count.toNat - 1 + 1 = l.count.toNat := Nat.sub_add_cancel h.count_pos
      rw [indexOf_of_after h hafter, hcount]
      omega
    · -- the bucket covers the time, so only its end in the range of a word may not lie after it
      have hcovers := (indexOf_eq_iff h (by omega) (by omega) (l.indexOf e.time)).1 rfl
      omega

/-- The events that are counted: those that move, and besides those at the last time of all. -/
theorem clipped_eq (h : l.IsProper) (events : List Event) :
    l.clipped events = (events.countP fun e => l.Misses e.time) +
      events.countP fun e => ¬ l.Misses e.time ∧ e.time = Int64.maxValue := by
  rw [clipped, List.countP_eq_countP_filter_add events l.isClipped fun e => l.Misses e.time,
    List.countP_filter, List.countP_filter]
  congr 1
  · apply List.countP_congr
    intro e _
    rw [Bool.and_eq_true, isClipped_iff h, decide_eq_true_eq]
    exact and_iff_right_of_imp Or.inl
  · apply List.countP_congr
    intro e _
    rw [Bool.and_eq_true, isClipped_iff h, Bool.not_eq_true', decide_eq_false_iff_not,
      decide_eq_true_eq]
    constructor
    · rintro ⟨hmisses | hlast, hcovers⟩
      · exact absurd hmisses hcovers
      · exact ⟨hcovers, hlast⟩
    · rintro ⟨hcovers, hlast⟩
      exact ⟨Or.inr hlast, hcovers⟩

end Layout

/-- In the layout for any window and number of points, the events that move are those that no bucket
covers. Counted and reported are these events and those at the last time of all that their bucket
covers. So the count is that of the events that move if and only if there are none of the latter. -/
theorem clipping_reported (w : Window) (n : UInt64) (events : List Event) :
    let l := Layout.ofWindow w n
    let moved := events.countP fun e => l.Misses e.time
    let last := events.countP fun e => ¬ l.Misses e.time ∧ e.time = Int64.maxValue
    (∀ t : Int64, l.Misses t ↔ (l.indexOf t : Int) ≠ l.widthsTo t) ∧
      (l.assignNotices events =
        if moved + last = 0 then []
        else [⟨.debug, "scoregraph_progress::bucket",
          "Clipped " ++ toString (moved + last) ++ " out-of-range events into edge buckets"⟩]) ∧
      (l.clipped events = moved ↔ ∀ e ∈ events, e.time = Int64.maxValue → l.Misses e.time) := by
  intro l moved last
  have h : l.IsProper := Layout.ofWindow_isProper w n
  refine ⟨Layout.misses_iff_indexOf_ne h, ?_, ?_⟩
  · rw [Layout.assignNotices, Layout.clipped_eq h events]
  · have hnone : last = 0 ↔ ∀ e ∈ events, e.time = Int64.maxValue → l.Misses e.time := by
      simp only [last, List.countP_eq_zero, decide_eq_true_eq, not_and, Decidable.not_imp_not]
    have hclipped : l.clipped events = moved + last := Layout.clipped_eq h events
    rw [← hnone, hclipped]
    omega

/-- One second more than three buckets take up, at the end of time: the fourth bucket covers the last
time of all, and the event there is reported as clipped although it does not move. -/
theorem clipping_overreported :
    let w : Window := ⟨9223372036854775797, Int64.maxValue⟩
    let l : Layout := ⟨w, 3, 4⟩
    let events : List Event := [⟨Int64.maxValue, 1⟩]
    Layout.ofWindow w 3 = l ∧ (events.countP fun e => l.Misses e.time) = 0 ∧
      l.indexOf Int64.maxValue = 3 ∧ l.widthsTo Int64.maxValue = 3 ∧
      l.assignNotices events = [⟨.debug, "scoregraph_progress::bucket",
        "Clipped 1 out-of-range events into edge buckets"⟩] := by
  have hl : Layout.ofWindow ⟨9223372036854775797, Int64.maxValue⟩ 3 =
      ⟨⟨9223372036854775797, Int64.maxValue⟩, 3, 4⟩ := rfl
  intro w l events
  exact ⟨hl, by decide, by decide, by decide, by decide⟩

end Scoreline
