import Scoreline.Proofs.Graph
import Scoreline.Proofs.Json.Buffered

/-!
# Scoreline.Proofs.Points

Points are read as they were written. They are read whole, and what they are is told by their first
item: a single series begins with a score, several series with a list. Several series of which there
is none have no item, and are read as a single one without scores. No graph has such points, since
there is none without a team (`Settings.ne_multi_nil_of_points`).

`points_reread` states which points are read back, and that the shape of points loses no series.
-/

namespace Scoreline

open Json

theorem decodeItems_map {α : Type} {decode : Decoder α} {write : α → Value} {as : List α}
    (h : ∀ a ∈ as, decode (write a) = .ok a) : decodeItems decode (as.map write) = .ok as := by
  induction as with
  | nil => rfl
  | cons a as ih =>
    have has : decodeItems decode (as.map write) = .ok as :=
      ih fun a' ha' => h a' (List.mem_cons_of_mem a ha')
    simp only [List.map_cons, decodeItems, h a List.mem_cons_self, has]

theorem decodeInt64_write (n : Int64) : decodeInt64 (Form.int64.write n) = .ok n := by
  have hbounds : Int64.minValue.toInt ≤ n.toInt ∧ n.toInt ≤ Int64.maxValue.toInt :=
    ⟨Int64.minValue_le_toInt n, Int64.toInt_le n⟩
  simp only [decodeInt64, decodeInteger, Form.int64, Number.within, if_pos hbounds,
    Int64.ofInt_toInt]

theorem whole_int64 (depth : Nat) (n : Int64) : Whole depth (Form.int64.write n) := by
  have hhigh := Int64.toInt_le n
  rw [maxValue_toInt] at hhigh
  refine .integer depth (Int64.minValue_le_toInt n) ?_
  simp only [largestSignificand, UInt64.size]
  omega

namespace Series

theorem decode_write (s : Series) :
    decodeList decodeInt64 ((Form.list Form.int64).write s) = .ok s :=
  decodeItems_map fun n _ => decodeInt64_write n

theorem whole_write (depth : Nat) (s : Series) :
    Whole (depth + 1) ((Form.list Form.int64).write s) := by
  refine .array fun v hv => ?_
  obtain ⟨n, -, rfl⟩ := List.mem_map.1 hv
  exact whole_int64 depth n

end Series

namespace Points

theorem whole_write (depth : Nat) (p : Points) : Whole (depth + 2) p.write := by
  cases p with
  | single s => exact Series.whole_write (depth + 1) s
  | multi ss =>
    refine .array fun v hv => ?_
    obtain ⟨s, -, rfl⟩ := List.mem_map.1 hv
    exact Series.whole_write depth s

theorem decode_write {p : Points} (h : p ≠ .multi []) : decode p.write = .ok p := by
  cases p with
  | single s => simp only [decode, write, Series.decode_write]
  | multi ss =>
    cases ss with
    | nil => exact absurd rfl h
    | cons s ss =>
      -- a list is no score, so these are no single series
      have hnot : decodeList decodeInt64 ((Form.list (Form.list Form.int64)).write (s :: ss)) =
          .error (.mismatch (.type .sequence "i64")) := rfl
      have hall : decodeList (decodeList decodeInt64)
          ((Form.list (Form.list Form.int64)).write (s :: ss)) = .ok (s :: ss) :=
        decodeItems_map fun s' _ => Series.decode_write s'
      simp only [decode, write, hnot, hall]

theorem form_lawfulAt {p : Points} (h : p ≠ .multi []) : form.LawfulAt p where
  read_skipGap text := by
    simp only [form, read, readBuffered_skipGap]
  readsAs gap := by
    have hwhole := (whole_write (nestingLimit - 2) p).readsAs gap
    refine ⟨hwhole.opensValue, fun rest hrest => ?_⟩
    have hread : readBuffered nestingLimit (Text.bytes (p.write.chars gap) ++ rest) =
        .ok (p.write, rest) := hwhole.read_append rest hrest
    simp only [form, read, hread, decode_write h]

/-! ## Points of graphs -/

theorem series_ofSeries (ss : List Series) : (ofSeries ss).series = ss := by
  match ss with
  | [] => rfl
  | [s] => rfl
  | s :: s' :: ss => rfl

theorem ofSeries_ne_multi_nil {ss : List Series} (h : ss ≠ []) : ofSeries ss ≠ .multi [] := by
  intro heq
  have hseries := congrArg Points.series heq
  rw [series_ofSeries] at hseries
  exact h hseries

end Points

theorem Settings.ne_multi_nil_of_points {s : Settings} {teams : List (List Event)}
    {now : Option Int64} {p : Points} (h : s.points teams now = .ok p) : p ≠ .multi [] := by
  simp only [points] at h
  split at h
  · cases h
  · rename_i g hg
    cases h
    obtain ⟨-, w, hw, rfl⟩ := graph_ok hg
    apply Points.ofSeries_ne_multi_nil
    intro hnil
    -- without a team there is no window
    rw [List.map_eq_nil_iff.1 hnil] at hw
    cases hw

/-- Points are read back, in their shape, unless they are several series of which there is none.
Settings never draw such points, and all series of a graph are in its points. -/
theorem points_reread :
    (∀ p : Points, Points.form.Rereads p ↔ p ≠ .multi []) ∧
      (∀ (s : Settings) (teams : List (List Event)) (now : Option Int64),
        s.points teams now ≠ .ok (.multi [])) ∧
      ∀ g : Graph, g.points.series = g.series := by
  refine ⟨fun p => ⟨?_, fun h => (Points.form_lawfulAt h).rereads⟩, fun s teams now h => ?_,
    fun g => Points.series_ofSeries g.series⟩
  · rintro ⟨hread, -⟩ rfl
    -- a single series without scores has the same text
    have htext : Points.form.text (.multi []) = Points.form.text (.single []) := rfl
    have hne : Points.single [] ≠ .multi [] := Points.noConfusion
    rw [htext, (Points.form_lawfulAt hne).parse_text] at hread
    cases hread
  · exact Settings.ne_multi_nil_of_points h rfl

end Scoreline
