import Scoreline.Proofs.Machine.Run
import Scoreline.Proofs.Series

/-!
# Scoreline.Proofs.Machine.Safety

The run of `Machine.graph` never traps, and what comes of it is the graph that `Settings.graph`
draws with exact numbers (`graph_never_traps`). So the exact definitions say what a machine with
64-bit words computes, whatever the times, scores and settings are.

Every operation has its own bound. The width is at least one and at most the span; the number of
buckets is at most the span; the quotient in `indexOf` lies below the distance of two 64-bit words;
and the product in `bounds`, of a count and a width, has room for two more words in 128 bits.

* `place_sorted` — one event put into its bucket: the sorted events so far with one more at the end.
* `placeAll_sorted` — all events, by induction on those still to come.
-/

namespace Scoreline
namespace Machine

/-! ## Words -/

theorem ok_bind {α β : Type} (a : α) (f : α → Except Trap β) : (Except.ok a >>= f) = f a := rfl

theorem pure_ok {α : Type} (a : α) : (pure a : Except Trap α) = .ok a := rfl

namespace Width

variable {w : Width} {a b n : Int}

/-- Whether a word of this width holds a number. -/
def Fits (w : Width) (n : Int) : Prop := w.low ≤ n ∧ n ≤ w.high

theorem convert_ok (h : w.Fits n) : w.convert n = .ok n := if_pos h

theorem add_ok (h : w.Fits (a + b)) : w.add a b = .ok (a + b) := convert_ok h

theorem sub_ok (h : w.Fits (a - b)) : w.sub a b = .ok (a - b) := convert_ok h

theorem mul_ok (h : w.Fits (a * b)) : w.mul a b = .ok (a * b) := convert_ok h

/-- Of numbers without a sign the machine takes the quotient rounded down. -/
theorem div_ok (ha : 0 ≤ a) (hb : 1 ≤ b) (h : w.Fits (a / b)) : w.div a b = .ok (a / b) := by
  rw [div, if_neg (by omega), Int.tdiv_eq_ediv_of_nonneg ha, convert_ok h]

theorem rem_ok (ha : 0 ≤ a) (hb : 1 ≤ b) (h : w.Fits (a / b)) : w.rem a b = .ok (a % b) := by
  rw [rem, div_ok ha hb h, ok_bind, Int.tmod_eq_emod_of_nonneg ha, pure_ok]

end Width

theorem fits_i64 (hl : -9223372036854775808 ≤ n) (hh : n ≤ 9223372036854775807) : i64.Fits n :=
  ⟨hl, hh⟩

theorem fits_usize (hl : 0 ≤ n) (hh : n ≤ 18446744073709551615) : usize.Fits n := ⟨hl, hh⟩

/-- Any sum or difference of a few words, or of them and a product of two, is far from the ends. -/
theorem fits_i128 (hl : -170141183460469231731687303715884105728 ≤ n)
    (hh : n ≤ 170141183460469231731687303715884105727) : i128.Fits n := ⟨hl, hh⟩

theorem ofInt_eq_ofIntClamp {n : Int} (h : i64.Fits n) : Int64.ofInt n = Int64.ofIntClamp n := by
  have hl : Int64.minValue.toInt ≤ n := h.1
  have hh : n ≤ Int64.maxValue.toInt := h.2
  rw [Int64.ofIntClamp, dif_pos hl, dif_pos hh, Int64.ofIntLE]

theorem ofInt_saturate (n : Int) : Int64.ofInt (i64.saturate n) = Int64.ofIntClamp n := by
  have hsat : i64.saturate n = max (-9223372036854775808) (min n 9223372036854775807) := rfl
  have hfits : i64.Fits (i64.saturate n) := fits_i64 (by omega) (by omega)
  apply Int64.toInt_inj.1
  rw [ofInt_eq_ofIntClamp hfits, toInt_ofIntClamp, toInt_ofIntClamp]
  omega

/-! ## Layouts -/

theorem span_eq (w : Window) : span w = w.span.toInt := by
  have hsat : i64.saturate (w.max.toInt - w.min.toInt) =
      max (-9223372036854775808) (min (w.max.toInt - w.min.toInt) 9223372036854775807) := rfl
  rw [span, hsat, Window.span, toInt_ofIntClamp]
  omega

theorem points_eq (n : UInt64) :
    i64.convertOr i64.high (max (n.toNat : Int) 1) = Layout.pointsFor n := by
  have hhigh : i64.high = 9223372036854775807 := rfl
  have hmax := maxValue_toInt
  simp only [Width.convertOr, Layout.pointsFor]
  by_cases h : max (n.toNat : Int) 1 ≤ 9223372036854775807
  · rw [Width.convert_ok (fits_i64 (by omega) h)]
    simp only
    omega
  · rw [Width.convert, if_neg (fun hfits => h hfits.2)]
    simp only
    omega

theorem layout_ok (w : Window) (n : UInt64) : layout w n = .ok (.ofWindow w n) := by
  obtain ⟨hs0, hs1⟩ := w.span_bounds
  obtain ⟨hp0, _⟩ := Layout.pointsFor_bounds n
  let width := Layout.widthFor w.span.toInt (Layout.pointsFor n)
  have hw0 : 1 ≤ width := Layout.widthFor_pos _ _
  have hw1 : width ≤ max w.span.toInt 1 := Layout.widthFor_le _ hs0
  have hc1 : Layout.countFor w.span.toInt width ≤ max w.span.toInt 1 := Layout.countFor_le hs0 hw0
  have hq (d : Int) : 0 ≤ d → i64.Fits (w.span.toInt / d) := fun hd =>
    fits_i64 (by have := Int.ediv_nonneg hs0 hd; omega)
      (by have := Int.ediv_le_self d hs0; omega)
  let parts := w.span.toInt / width + if w.span.toInt % width = 0 then 0 else 1
  have hparts : Layout.countFor w.span.toInt width = max parts 1 := rfl
  have hp : 0 ≤ parts := by
    have := Int.ediv_nonneg hs0 (by omega : 0 ≤ width)
    simp only [parts]
    split <;> omega
  have hwidth : max (w.span.toInt / Layout.pointsFor n) 1 = width := rfl
  rw [layout, span_eq, points_eq]
  simp only [Width.div_ok hs0 hp0 (hq _ (by omega)), ok_bind, hwidth,
    Width.div_ok hs0 hw0 (hq _ (by omega)), Width.rem_ok hs0 hw0 (hq _ (by omega))]
  rw [Width.add_ok (fits_i64 (show _ ≤ parts by omega) (show parts ≤ _ by omega)), ok_bind,
    Width.convert_ok (fits_usize hp (show parts ≤ _ by omega)), ok_bind, pure_ok,
    ofInt_eq_ofIntClamp (fits_i64 (by omega) (by omega)), ← UInt64.ofNatClamp_eq_ofNat]
  · rfl
  · simp only [UInt64.size]
    omega

variable {l : Layout}

/-- The quotient of a distance of two words always fits a word without a sign. -/
theorem indexOf_ok (h : l.IsProper) (time : Int64) :
    indexOf l time = .ok (l.indexOf time : Int) := by
  have ht := toInt_bounds time
  have hm := toInt_bounds l.window.min
  have hcount := toNat_bound l.count
  obtain ⟨hw, hc⟩ := h
  rw [indexOf, Layout.indexOf]
  by_cases hmin : time ≤ l.window.min
  · rw [if_pos hmin, if_pos hmin]
    rfl
  · have hlt : l.window.min.toInt < time.toInt := by
      rw [Int64.le_iff_toInt_le] at hmin
      omega
    have hoff : 0 ≤ time.toInt - l.window.min.toInt := by omega
    let raw := (time.toInt - l.window.min.toInt) / l.width.toInt
    have hraw0 : 0 ≤ raw := Int.ediv_nonneg hoff (by omega)
    have hraw1 : raw ≤ time.toInt - l.window.min.toInt := Int.ediv_le_self _ hoff
    rw [if_neg hmin, if_neg hmin, Width.sub_ok (fits_i128 (by omega) (by omega)), ok_bind,
      Width.div_ok hoff hw (fits_i128 (show _ ≤ raw by omega) (show raw ≤ _ by omega)), ok_bind,
      Width.convert_ok (fits_usize hraw0 (show raw ≤ _ by omega)), ok_bind,
      Width.sub_ok (fits_usize (by omega) (by omega)), ok_bind, pure_ok,
      Int.tdiv_eq_ediv_of_nonneg hoff]
    congr 1
    simp only [Layout.lastIndex]
    rw [if_neg (by omega)]
    omega

/-- Nothing saturates in 128 bits, whatever the number of the bucket. -/
theorem bounds_ok (h : l.IsProper) {index : Nat} (hi : index ≤ 18446744073709551615) :
    bounds l index = .ok (l.bounds index) := by
  have hm := toInt_bounds l.window.min
  have hw := toInt_bounds l.width
  have hw0 := h.width_pos
  let offset := (index : Int) * l.width.toInt
  have h0 : 0 ≤ offset := Int.mul_nonneg (by omega) (by omega)
  have h1 : offset ≤ 18446744073709551615 * 9223372036854775807 :=
    Int.mul_le_mul (by omega) hw.2 (by omega) (by omega)
  rw [bounds, Width.convert_ok (fits_i128 (by omega) (by omega)), ok_bind,
    Width.mul_ok (fits_i128 (show _ ≤ offset by omega) (show offset ≤ _ by omega)), ok_bind,
    Width.add_ok (fits_i128 (show _ ≤ _ + offset by omega) (show _ + offset ≤ _ by omega)), ok_bind,
    Width.add_ok (fits_i128 (show _ ≤ _ + offset + _ by omega) (show _ + offset + _ ≤ _ by omega)),
    ok_bind, pure_ok, ofInt_saturate, ofInt_saturate]
  rfl

/-! ## Series -/

/-- The events `done` sorted into buckets. -/
def sorted (l : Layout) (done : List Event) : Sorted :=
  ⟨(l.assign done).slots, l.clipped done⟩

theorem slots_assign_append (l : Layout) (done : List Event) (e : Event) :
    (l.assign (done ++ [e])).slots =
      (l.assign done).slots.modify (l.indexOf e.time) (· ++ [e]) := by
  apply Array.ext_getElem?
  intro i
  by_cases hi : i < l.count.toNat
  · rw [Layout.slots_assign_getElem? _ _ hi, Array.getElem?_modify,
      Layout.slots_assign_getElem? _ _ hi]
    by_cases he : l.indexOf e.time = i
    · simp [Layout.eventsAt, he]
    · simp [Layout.eventsAt, he]
  · rw [Array.getElem?_eq_none (by rw [Layout.size_assign]; omega),
      Array.getElem?_eq_none (by rw [Array.size_modify, Layout.size_assign]; omega)]

theorem place_sorted (h : l.IsProper) {done : List Event} (e : Event)
    (hlen : done.length < 18446744073709551615) :
    place l (sorted l done) e = .ok (sorted l (done ++ [e])) := by
  have hi := Layout.indexOf_lt_count h e.time
  have hsize : l.indexOf e.time < (l.assign done).slots.size := by
    rw [Layout.size_assign]
    exact hi
  have hcount := toNat_bound l.count
  have hle : l.clipped done ≤ done.length := List.countP_le_length
  have hclipped : l.clipped (done ++ [e]) = l.clipped done + if l.isClipped e then 1 else 0 := by
    simp only [Layout.clipped, List.countP_append, List.countP_singleton]
  rw [place, indexOf_ok h, ok_bind, bounds_ok h (by omega), ok_bind, sorted, sorted,
    slots_assign_append, hclipped]
  -- index and bounds are exact by now; left are the count of clipped events and the slot
  show (do
    let clipped ←
      if l.isClipped e then usize.add (l.clipped done) 1 else pure (l.clipped done : Int)
    if l.indexOf e.time < (l.assign done).slots.size then
      return ⟨(l.assign done).slots.modify (l.indexOf e.time) (· ++ [e]), clipped⟩
    else throw Trap.index) = Except.ok (⟨_, _⟩ : Sorted)
  simp only [if_pos hsize, pure_ok]
  by_cases hclip : l.isClipped e
  · rw [if_pos hclip, if_pos hclip, Width.add_ok (fits_usize (by omega) (by omega)), ok_bind,
      Int.natCast_add, Int.natCast_one]
  · rw [if_neg hclip, if_neg hclip, ok_bind, Nat.add_zero]

theorem placeAll_sorted (h : l.IsProper) (events : List Event) (done : List Event)
    (hlen : done.length + events.length ≤ 18446744073709551615) :
    placeAll l (sorted l done) events = .ok (sorted l (done ++ events)) := by
  induction events generalizing done with
  | nil => rw [placeAll, List.append_nil]
  | cons e events ih =>
    rw [List.length_cons] at hlen
    rw [placeAll, place_sorted h e (by omega), ok_bind, ih _ (by simp; omega), List.append_assoc,
      List.singleton_append]

theorem assign_ok (h : l.IsProper) {events : List Event}
    (hlen : events.length ≤ 18446744073709551615) :
    assign l events = .ok (sorted l events) :=
  placeAll_sorted h events [] (by simpa using hlen)

theorem fit_ok (n : UInt64) {s : Series} (hs : s.length ≤ 18446744073709551615) :
    fit n s = .ok (s.fit n.toNat) := by
  have hn := toNat_bound n
  rw [fit, Series.fit]
  by_cases hlt : n.toNat < s.length
  · have hcut : ((s.length : Int) - n.toNat).toNat = s.length - n.toNat := by omega
    rw [if_pos hlt, if_pos hlt, Width.sub_ok (fits_usize (by omega) (by omega)), ok_bind,
      if_pos (by omega), hcut, pure_ok]
  · rw [if_neg hlt, if_neg hlt]
    by_cases hgt : s.length < n.toNat
    · have hmissing : ((n.toNat : Int) - s.length).toNat = n.toNat - s.length := by omega
      rw [if_pos hgt, Width.sub_ok (fits_usize (by omega) (by omega)), ok_bind, hmissing, pure_ok]
    · have hzero : n.toNat - s.length = 0 := by omega
      rw [if_neg hgt, hzero, List.replicate_zero, List.nil_append]

theorem seriesOf_ok (s : Settings) (h : l.IsProper) {events : List Event}
    (hlen : events.length ≤ 18446744073709551615) :
    seriesOf l s.pointCount events = .ok (s.seriesOf l events) := by
  have hfill : (Series.fill (l.assign events)).length ≤ 18446744073709551615 := by
    rw [Series.fill_eq, List.length_map, List.length_range]
    exact toNat_bound l.count
  rw [seriesOf, assign_ok h hlen, ok_bind]
  exact fit_ok s.pointCount hfill

theorem seriesOfAll_ok (s : Settings) (h : l.IsProper) {teams : List (List Event)}
    (hlen : ∀ events ∈ teams, events.length ≤ 18446744073709551615) :
    seriesOfAll l s.pointCount teams = .ok (teams.map (s.seriesOf l)) := by
  induction teams with
  | nil => rfl
  | cons events teams ih =>
    rw [seriesOfAll, seriesOf_ok s h (hlen _ List.mem_cons_self), ok_bind,
      ih fun es hes => hlen es (List.mem_cons_of_mem _ hes), ok_bind, pure_ok, List.map_cons]

end Machine

/-- However long and extreme the input, the machine draws what the exact definitions draw, and its
arithmetic on layouts is exact for every window, number of points, time and bucket. -/
theorem graph_never_traps (s : Settings) (teams : List (List Event)) (now : Option Int64)
    (hlen : ∀ events ∈ teams, events.length < 9223372036854775808) :
    Machine.graph s teams now = .ok (s.graph teams now) ∧
      ∀ (w : Window) (n : UInt64), Machine.layout w n = .ok (.ofWindow w n) ∧
        1 ≤ (Layout.ofWindow w n).width.toInt ∧
        (∀ time : Int64, Machine.indexOf (.ofWindow w n) time =
          .ok ((Layout.ofWindow w n).indexOf time : Int)) ∧
        ∀ index : UInt64, Machine.bounds (.ofWindow w n) index.toNat =
          .ok ((Layout.ofWindow w n).bounds index.toNat) := by
  constructor
  · rw [Machine.graph, Settings.graph]
    cases s.validate with
    | error f => rfl
    | ok _ =>
      cases Window.resolve s teams now with
      | error f => rfl
      | ok w =>
        have hp := Layout.ofWindow_isProper w s.pointCount
        have hseries := Machine.seriesOfAll_ok s hp fun events he => by
          have := hlen events he
          omega
        simp only [Machine.layout_ok, Machine.ok_bind, hseries, Machine.pure_ok]
  · intro w n
    have hp := Layout.ofWindow_isProper w n
    exact ⟨Machine.layout_ok w n, hp.width_pos, Machine.indexOf_ok hp,
      fun index => Machine.bounds_ok hp (toNat_bound index)⟩

/-- The widest window, more points than a word with a sign counts, and a bucket for nearly every
second of it. -/
theorem graph_never_traps_extremes :
    let teams : List (List Event) := [[⟨Int64.maxValue, 7⟩, ⟨Int64.minValue, -5⟩], []]
    let s : Settings := ⟨18446744073709551615, 0, Int64.maxValue⟩
    (∀ events ∈ teams, events.length < 9223372036854775808) ∧
      Machine.graph s teams (some Int64.maxValue) = .ok (s.graph teams (some Int64.maxValue)) ∧
      ∀ (w : Window) (n : UInt64), Machine.layout w n = .ok (.ofWindow w n) ∧
        1 ≤ (Layout.ofWindow w n).width.toInt ∧
        (∀ time : Int64, Machine.indexOf (.ofWindow w n) time =
          .ok ((Layout.ofWindow w n).indexOf time : Int)) ∧
        ∀ index : UInt64, Machine.bounds (.ofWindow w n) index.toNat =
          .ok ((Layout.ofWindow w n).bounds index.toNat) := by
  intro teams s
  have hlen : ∀ events ∈ teams, events.length < 9223372036854775808 := by decide
  exact ⟨hlen, graph_never_traps s teams (some Int64.maxValue) hlen⟩

end Scoreline
