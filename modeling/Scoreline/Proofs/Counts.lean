import Scoreline.Proofs.Layout

/-!
# Scoreline.Proofs.Counts

How many buckets a layout has for the points that are asked for. The span is divided twice: by the
number of points, rounded down, for the width of a bucket, and by that width, rounded up, for the
number of buckets. Neither is ever less than one.

* `le_countFor_widthFor` — a span of as many seconds as there are points has a bucket for each point.
* `countFor_widthFor_le` — the buckets are fewer than twice the points, since what the first division
  leaves over is less than a second for each point. So a window cannot ask for more memory than that.
* `countFor_sub_mul_le` — the time in front that the points leave out is what the first division
  leaves over and less than one bucket.

`layout_counts` states them of the layout for any window.
-/

namespace Scoreline

namespace Layout

variable {span points : Int}

/-! ## The width for a number of points -/

theorem widthFor_of_le (hp : 1 ≤ points) (h : points ≤ span) :
    widthFor span points = span / points := by
  have hone : 1 ≤ span / points := (Int.le_ediv_iff_mul_le (by omega)).2 (by omega)
  simp only [widthFor]
  omega

theorem widthFor_of_lt (h0 : 0 ≤ span) (h : span < points) : widthFor span points = 1 := by
  rw [widthFor, Int.ediv_eq_zero_of_lt h0 h]
  rfl

/-- The points at their width, and what is left over. -/
theorem mul_widthFor_add_emod (hp : 1 ≤ points) (h : points ≤ span) :
    points * widthFor span points + span % points = span := by
  rw [widthFor_of_le hp h]
  exact Int.mul_ediv_add_emod span points

/-! ## The number of buckets of that width -/

theorem countFor_one (span : Int) : countFor span 1 = max span 1 := by simp [countFor]

theorem countFor_sub_one_mul_lt_of_pos {width : Int} (hw : 1 ≤ width) (h : 0 < span) :
    (countFor span width - 1) * width < span := by
  rcases Int.lt_or_eq_of_le (countFor_pos span width) with hmany | hone
  · exact countFor_sub_one_mul_lt hw hmany
  · rw [← hone]
    omega

theorem le_countFor_widthFor (hp : 1 ≤ points) (h : points ≤ span) :
    points ≤ countFor span (widthFor span points) := by
  have hw := widthFor_pos span points
  have hsplit := mul_widthFor_add_emod hp h
  have hrest := Int.emod_nonneg span (by omega : points ≠ 0)
  have hcover := le_countFor_mul span hw
  exact Int.le_of_mul_le_mul_right (by omega) (by omega : 0 < widthFor span points)

theorem countFor_widthFor_le (h0 : 0 ≤ span) (hp : 1 ≤ points) :
    countFor span (widthFor span points) ≤ 2 * points - 1 := by
  have hw := widthFor_pos span points
  refine countFor_le_of_le_mul hw (by omega) ?_
  by_cases h : points ≤ span
  · have hsplit := mul_widthFor_add_emod hp h
    have hrest := Int.emod_lt_of_pos span (by omega : 0 < points)
    -- the rest is covered by one bucket a point, but for one
    have hmul := Int.mul_le_mul_of_nonneg_left hw (by omega : 0 ≤ points - 1)
    calc span ≤ points * widthFor span points + (points - 1) * 1 := by omega
      _ ≤ points * widthFor span points + (points - 1) * widthFor span points := by omega
      _ = (2 * points - 1) * widthFor span points := by rw [← Int.add_mul]; congr 1; omega
  · rw [widthFor_of_lt h0 (by omega)]
    omega

theorem countFor_sub_mul_le (hp : 1 ≤ points) (h : points ≤ span) :
    (countFor span (widthFor span points) - points) * widthFor span points ≤
      span % points + widthFor span points - 1 := by
  have hw := widthFor_pos span points
  have hsplit := mul_widthFor_add_emod hp h
  have hrest := Int.emod_nonneg span (by omega : points ≠ 0)
  have hless := countFor_sub_one_mul_lt_of_pos hw (by omega : 0 < span)
  rw [Int.sub_mul] at hless ⊢
  omega

end Layout

/-- The layout for a window and a number of points has a width and a bucket, and fewer than twice as
many buckets as points. The buckets cover the span and one less would not, unless the span is
nothing. If there is a second for each point, there is a bucket for each point, and the oldest
buckets, which are more than the points, make up less than one bucket beyond what is left over of the
span. Otherwise each second has its bucket. -/
theorem layout_counts (w : Window) (n : UInt64) (hn : 1 ≤ n.toNat) :
    let l := Layout.ofWindow w n
    let span := w.span.toInt
    let width := l.width.toInt
    let count : Int := l.count.toNat
    let points : Int := n.toNat
    1 ≤ width ∧ 1 ≤ count ∧ count ≤ 2 * points - 1 ∧
      span ≤ count * width ∧ (0 < span → (count - 1) * width < span) ∧
      (points ≤ span → points ≤ count ∧ (count - points) * width ≤ span % points + width - 1) ∧
      (span < points → width = 1 ∧ count = max span 1) := by
  intro l span width count points
  obtain ⟨h0, hmax⟩ := w.span_bounds
  have hp : 1 ≤ points := by omega
  have hw : width = Layout.widthFor span points :=
    (Layout.toInt_width_ofWindow w n).trans (Layout.widthFor_pointsFor h0 hmax hn)
  have hc : count = Layout.countFor span width := by
    have hcount := Layout.toNat_count_ofWindow w n
    rwa [← Layout.toInt_width_ofWindow] at hcount
  have hwidth : 1 ≤ width := hw ▸ Layout.widthFor_pos span points
  refine ⟨hwidth, hc ▸ Layout.countFor_pos span width, ?_, ?_, ?_, ?_, ?_⟩
  · rw [hc, hw]
    exact Layout.countFor_widthFor_le h0 hp
  · rw [hc]
    exact Layout.le_countFor_mul span hwidth
  · intro hspan
    rw [hc]
    exact Layout.countFor_sub_one_mul_lt_of_pos hwidth hspan
  · intro hle
    rw [hc, hw]
    exact ⟨Layout.le_countFor_widthFor hp hle, Layout.countFor_sub_mul_le hp hle⟩
  · intro hlt
    have hone : width = 1 := hw.trans (Layout.widthFor_of_lt h0 hlt)
    rw [hc, hone]
    exact ⟨rfl, Layout.countFor_one span⟩

/-- Twice as many buckets as points, but for one: a second is left over for each point but one, and
all these seconds are left out. -/
theorem layout_counts_reached :
    let w : Window := ⟨-300, 1139⟩
    let n : UInt64 := 720
    let l := Layout.ofWindow w n
    l = ⟨w, 1, 1439⟩ ∧ 1 ≤ n.toNat ∧ (l.count.toNat : Int) ≤ 2 * n.toNat - 1 ∧
      n.toNat ≤ w.span.toInt ∧
      ((l.count.toNat : Int) - n.toNat) * l.width.toInt ≤
        w.span.toInt % n.toNat + l.width.toInt - 1 := by
  have hl : Layout.ofWindow ⟨-300, 1139⟩ 720 = ⟨⟨-300, 1139⟩, 1, 1439⟩ := rfl
  intro w n l
  have hn : 1 ≤ n.toNat := by decide
  have hspan : n.toNat ≤ w.span.toInt := by decide
  obtain ⟨-, -, hcount, -, -, hlong, -⟩ := layout_counts w n hn
  exact ⟨hl, hn, hcount, hspan, (hlong hspan).2⟩

end Scoreline
