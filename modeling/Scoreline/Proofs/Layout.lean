import Scoreline.Layout
import Scoreline.Proofs.Words

/-!
# Scoreline.Proofs.Layout

The geometry of layouts. `Layout.ofWindow` computes with exact numbers and then brings the width and
the number of buckets into the range of a word; neither is changed by that (`toInt_width_ofWindow`,
`toNat_count_ofWindow`), so a layout made for a window has a bucket and a width (`IsProper`). Its
buckets are enough for the span, and one less would not be (`le_countFor_mul`,
`countFor_sub_one_mul_lt`).

In such a layout `Layout.indexOf` agrees with the plain rule `Layout.place`: whole widths since the
opening of the window, cut to the numbers of the buckets (`indexOf_eq_place`). Its numbers compare
with the exact starts of the buckets (`indexOf_le_iff`).
-/

namespace Scoreline

theorem Window.span_bounds (w : Window) :
    0 ≤ w.span.toInt ∧ w.span.toInt ≤ 9223372036854775807 := by
  rw [Window.span, toInt_ofIntClamp]
  omega

/-! ## Widths and counts -/

namespace Layout

/-- The number of points that a width is computed for: at least one, and a word with a sign. -/
def pointsFor (pointCount : UInt64) : Int :=
  min (max (pointCount.toNat : Int) 1) Int64.maxValue.toInt

theorem pointsFor_bounds (n : UInt64) :
    1 ≤ pointsFor n ∧ pointsFor n ≤ 9223372036854775807 := by
  have := maxValue_toInt
  simp only [pointsFor]
  omega

theorem widthFor_pos (span points : Int) : 1 ≤ widthFor span points := Int.le_max_right _ _

theorem widthFor_le {span : Int} (points : Int) (h0 : 0 ≤ span) :
    widthFor span points ≤ max span 1 := by
  have : span / points ≤ span := Int.ediv_le_self _ h0
  simp only [widthFor]
  omega

theorem countFor_pos (span width : Int) : 1 ≤ countFor span width := Int.le_max_right _ _

theorem le_countFor_mul (span : Int) {width : Int} (hw : 1 ≤ width) :
    span ≤ countFor span width * width := by
  have hdiv := Int.mul_ediv_add_emod span width
  have hrem := Int.emod_lt_of_pos span (by omega : 0 < width)
  have hcount : (span / width + if span % width = 0 then 0 else 1) ≤ countFor span width :=
    Int.le_max_left _ _
  have hmul := Int.mul_le_mul_of_nonneg_right hcount (by omega : 0 ≤ width)
  rw [Int.add_mul, Int.mul_comm (span / width)] at hmul
  split at hmul <;> omega

theorem countFor_sub_one_mul_lt {span width : Int} (hw : 1 ≤ width)
    (h : 1 < countFor span width) : (countFor span width - 1) * width < span := by
  have hdiv := Int.mul_ediv_add_emod span width
  have hrem := Int.emod_nonneg span (by omega : width ≠ 0)
  have hcount : countFor span width = span / width + if span % width = 0 then 0 else 1 := by
    simp only [countFor] at h ⊢
    omega
  rw [hcount, Int.sub_mul, Int.add_mul, Int.mul_comm (span / width)]
  split <;> omega

/-- No more buckets than it takes to cover the span. -/
theorem countFor_le_of_le_mul {span width k : Int} (hw : 1 ≤ width) (hk : 1 ≤ k)
    (h : span ≤ k * width) : countFor span width ≤ k := by
  apply Int.not_lt.1
  intro hlt
  have hless := countFor_sub_one_mul_lt hw (by omega : 1 < countFor span width)
  have hmul := Int.mul_le_mul_of_nonneg_right (by omega : k ≤ countFor span width - 1)
    (by omega : 0 ≤ width)
  omega

/-- A span in seconds is at least as long as it has buckets. -/
theorem countFor_le {span width : Int} (h0 : 0 ≤ span) (hw : 1 ≤ width) :
    countFor span width ≤ max span 1 := by
  refine countFor_le_of_le_mul hw (Int.le_max_right _ _) ?_
  have hmul := Int.mul_le_mul_of_nonneg_left hw (by omega : 0 ≤ max span 1)
  omega

/-- More points than a word with a sign counts make no difference to the width: it is a second even
for as many as that. -/
theorem widthFor_pointsFor {span : Int} (h0 : 0 ≤ span) (h : span ≤ Int64.maxValue.toInt)
    {n : UInt64} (hn : 0 < n.toNat) : widthFor span (pointsFor n) = max (span / n.toNat) 1 := by
  have hmax := maxValue_toInt
  by_cases hle : (n.toNat : Int) ≤ Int64.maxValue.toInt
  · have hpoints : pointsFor n = n.toNat := by
      simp only [pointsFor]
      omega
    rw [widthFor, hpoints]
  · have hpoints : pointsFor n = Int64.maxValue.toInt := by
      simp only [pointsFor]
      omega
    have hmany : span / n.toNat = 0 := Int.ediv_eq_zero_of_lt h0 (by omega)
    have hlongest : span / Int64.maxValue.toInt < 2 :=
      (Int.ediv_lt_iff_lt_mul (by omega)).2 (by omega)
    rw [widthFor, hpoints, hmany]
    omega

/-- The width of a layout is the exact one. -/
theorem toInt_width_ofWindow (w : Window) (n : UInt64) :
    (ofWindow w n).width.toInt = widthFor w.span.toInt (pointsFor n) := by
  have hs := w.span_bounds
  have hw := widthFor_pos w.span.toInt (pointsFor n)
  have hle := widthFor_le (pointsFor n) hs.1
  show (Int64.ofIntClamp (widthFor w.span.toInt (pointsFor n))).toInt = _
  rw [toInt_ofIntClamp]
  omega

/-- The number of buckets of a layout is the exact one. -/
theorem toNat_count_ofWindow (w : Window) (n : UInt64) :
    ((ofWindow w n).count.toNat : Int) =
      countFor w.span.toInt (widthFor w.span.toInt (pointsFor n)) := by
  have hs := w.span_bounds
  have hw := widthFor_pos w.span.toInt (pointsFor n)
  have hc := countFor_pos w.span.toInt (widthFor w.span.toInt (pointsFor n))
  have hle := countFor_le hs.1 hw
  show ((UInt64.ofNatClamp
    (countFor w.span.toInt (widthFor w.span.toInt (pointsFor n))).toNat).toNat : Int) = _
  rw [toNat_ofNatClamp]
  omega

/-- A layout in which every time has a bucket. -/
structure IsProper (l : Layout) : Prop where
  width_pos : 1 ≤ l.width.toInt
  count_pos : 1 ≤ l.count.toNat

theorem ofWindow_isProper (w : Window) (n : UInt64) : (ofWindow w n).IsProper where
  width_pos := by
    rw [toInt_width_ofWindow]
    exact widthFor_pos _ _
  count_pos := by
    have := countFor_pos w.span.toInt (widthFor w.span.toInt (pointsFor n))
    have := toNat_count_ofWindow w n
    omega

/-! ## The bucket of a time -/

/-- Whole widths from the opening of the window to a time, cut to the numbers of the buckets. -/
def place (l : Layout) (time : Int64) : Int :=
  max 0 (min ((time.toInt - l.window.min.toInt) / l.width.toInt) (l.count.toNat - 1))

theorem place_nonneg (l : Layout) (time : Int64) : 0 ≤ l.place time := Int.le_max_left _ _

variable {l : Layout}

theorem indexOf_eq_place (h : l.IsProper) (time : Int64) :
    (l.indexOf time : Int) = l.place time := by
  obtain ⟨hw, hc⟩ := h
  simp only [indexOf, lastIndex, place, Int64.le_iff_toInt_le]
  by_cases hmin : time.toInt ≤ l.window.min.toInt
  · -- before the window the quotient is not positive
    have : (time.toInt - l.window.min.toInt) / l.width.toInt ≤ 0 :=
      Int.ediv_nonpos_of_nonpos_of_neg (by omega) (by omega)
    rw [if_pos hmin]
    omega
  · have hdiv : (time.toInt - l.window.min.toInt).tdiv l.width.toInt =
        (time.toInt - l.window.min.toInt) / l.width.toInt :=
      Int.tdiv_eq_ediv_of_nonneg (by omega)
    have hq : 0 ≤ (time.toInt - l.window.min.toInt) / l.width.toInt :=
      Int.ediv_nonneg (by omega) (by omega)
    rw [if_neg hmin, hdiv, if_neg (by omega)]
    omega

theorem place_lt_count (h : l.IsProper) (time : Int64) : l.place time < l.count.toNat := by
  have := h.count_pos
  simp only [place]
  omega

theorem indexOf_lt_count (h : l.IsProper) (time : Int64) : l.indexOf time < l.count.toNat := by
  have := place_lt_count h time
  rw [← indexOf_eq_place h] at this
  omega

/-- Bucket numbers do not fall as time goes on. -/
theorem place_mono (h : l.IsProper) {s t : Int64} (hst : s ≤ t) : l.place s ≤ l.place t := by
  have hle : s.toInt - l.window.min.toInt ≤ t.toInt - l.window.min.toInt := by
    have := Int64.le_iff_toInt_le.1 hst
    omega
  have hw := h.width_pos
  have := Int.ediv_le_ediv (by omega : 0 < l.width.toInt) hle
  simp only [place]
  omega

theorem lt_of_place_lt (h : l.IsProper) {s t : Int64} (hst : l.place s < l.place t) : s < t := by
  apply Int64.not_le.1
  intro hts
  have hle := place_mono h hts
  omega

theorem indexOf_mono (h : l.IsProper) {s t : Int64} (hst : s ≤ t) : l.indexOf s ≤ l.indexOf t := by
  have hplace := place_mono h hst
  rw [← indexOf_eq_place h, ← indexOf_eq_place h] at hplace
  omega

/-- The times of the buckets up to bucket `i`: those before its end, and all times for the last. -/
theorem place_le_iff (h : l.IsProper) {i : Int} (h0 : 0 ≤ i) (time : Int64) :
    l.place time ≤ i ↔
      time.toInt < l.window.min.toInt + (i + 1) * l.width.toInt ∨ l.count.toNat - 1 ≤ i := by
  have hw := h.width_pos
  have hdiv : (time.toInt - l.window.min.toInt) / l.width.toInt < i + 1 ↔
      time.toInt - l.window.min.toInt < (i + 1) * l.width.toInt :=
    Int.ediv_lt_iff_lt_mul (by omega)
  simp only [place]
  omega

/-! ## The starts of the buckets -/

theorem startOf_zero (l : Layout) : l.startOf 0 = l.window.min.toInt := by simp [startOf]

/-- A bucket ends where the next one begins. -/
theorem startOf_succ (l : Layout) (i : Nat) :
    l.startOf (i + 1) = l.startOf i + l.width.toInt := by
  simp only [startOf, Int.natCast_add, Int.natCast_one, Int.add_mul, Int.one_mul, Int.add_assoc]

theorem startOf_mono (h : l.IsProper) {i j : Nat} (hij : i ≤ j) : l.startOf i ≤ l.startOf j := by
  have hw := h.width_pos
  have hmul := Int.mul_le_mul_of_nonneg_right (by omega : (i : Int) ≤ j)
    (by omega : 0 ≤ l.width.toInt)
  simp only [startOf]
  omega

/-- The times of the buckets up to bucket `i`: those before the next start, and all for the last. -/
theorem indexOf_le_iff (h : l.IsProper) (i : Nat) (t : Int64) :
    l.indexOf t ≤ i ↔ t.toInt < l.startOf (i + 1) ∨ l.count.toNat ≤ i + 1 := by
  have hplace := place_le_iff h (by omega : 0 ≤ (i : Int)) t
  rw [← indexOf_eq_place h] at hplace
  simp only [startOf, Int.natCast_add, Int.natCast_one]
  omega

theorem startOf_indexOf_le (h : l.IsProper) {t : Int64} (hmin : l.window.min.toInt ≤ t.toInt) :
    l.startOf (l.indexOf t) ≤ t.toInt := by
  cases hindex : l.indexOf t with
  | zero =>
    rw [startOf_zero]
    exact hmin
  | succ i =>
    -- the time does not belong to the buckets before its own
    have hbefore := indexOf_le_iff h i t
    omega

end Layout

end Scoreline
