import Scoreline.Chart.Builder
import Scoreline.Proofs.Json.Real

/-!
# Scoreline.Proofs.Chart.Form

A chart whose lines are all straight is read as it was written (`Line.form_lawfulAt`): the tensions
of its lines, the only real numbers in it, are zero. All charts that are built are such
(`flat_of_topTeams`, `flat_of_team`).
-/

namespace Scoreline
namespace Chart

open Json (Form)

/-- A chart none of whose lines is bent. -/
def Line.Flat (c : Line) : Prop :=
  ∀ d ∈ c.data.datasets, d.tension = Decimal.Format.single.ofNat 0

/-! ## Forms -/

theorem Kind.form_lawful : Kind.form.Lawful :=
  Form.lawful_of_readsAs Json.readVariant_skipGap fun gap k => by
    cases k
    exact Json.readVariant_readsAs rfl gap

theorem GridLines.form_lawful : GridLines.form.Lawful := by
  refine Form.record_lawful _ ?_ fun _ => rfl
  exact ⟨by decide, Form.boolean_lawful, trivial⟩

theorem Axis.form_lawful : Axis.form.Lawful := by
  refine Form.record_lawful _ ?_ fun _ => rfl
  exact ⟨by decide, GridLines.form_lawful, trivial⟩

theorem Scales.form_lawful : Scales.form.Lawful := by
  refine Form.record_lawful _ ?_ fun _ => rfl
  exact ⟨by decide, Form.list_lawful Axis.form_lawful, by decide,
    Form.list_lawful Axis.form_lawful, trivial⟩

theorem Options.form_lawful : Options.form.Lawful := by
  refine Form.record_lawful _ ?_ fun _ => rfl
  exact ⟨by decide, Scales.form_lawful, trivial⟩

theorem Dataset.form_lawfulAt {d : Dataset} (h : d.tension = Decimal.Format.single.ofNat 0) :
    Dataset.form.LawfulAt d := by
  refine Form.record_lawfulAt _ ?_ rfl
  have hstring (s : String) : Form.string.LawfulAt s := Form.string_lawful.lawfulAt s
  have hradius (n : UInt32) : Form.uint32.LawfulAt n := Form.uint32_lawful.lawfulAt n
  have htension : Form.single.LawfulAt d.tension := by
    rw [h]
    exact Form.single_lawfulAt_zero
  exact ⟨by decide, hstring _, by decide, (Form.list_lawful Form.int64_lawful).lawfulAt _,
    by decide, hstring _, by decide, hstring _, by decide, hstring _, by decide, hradius _,
    by decide, hradius _, by decide, htension, trivial⟩

/-- A flat chart is read as it was written. -/
theorem Line.form_lawfulAt {c : Line} (h : c.Flat) : Line.form.LawfulAt c := by
  have hdata : Data.form.LawfulAt c.data := by
    refine Form.record_lawfulAt _ ?_ rfl
    exact ⟨by decide, (Form.list_lawful Form.string_lawful).lawfulAt _, by decide,
      Form.list_lawfulAt fun d hd => Dataset.form_lawfulAt (h d hd), trivial⟩
  refine Form.record_lawfulAt _ ?_ rfl
  exact ⟨by decide, Kind.form_lawful.lawfulAt _, by decide, hdata, by decide,
    Options.form_lawful.lawfulAt _, trivial⟩

/-! ## Built charts -/

namespace Builder

variable {b : Builder} {now : Option Int64} {c : Line}

theorem tension_datasets (b : Builder) (i : Nat) (teams : List Team) (ss : List Series) :
    ∀ d ∈ b.datasets i teams ss, d.tension = Decimal.Format.single.ofNat 0 := by
  induction teams generalizing i ss with
  | nil => intro d hd; cases hd
  | cons t teams ih =>
    cases ss with
    | nil => intro d hd; cases hd
    | cons s ss =>
      intro d hd
      rcases List.mem_cons.1 hd with rfl | hd
      · rfl
      · exact ih (i + 1) ss d hd

theorem flat_of_topTeams {teams : List Team} (h : b.topTeams teams now = .ok (.chart c)) :
    c.Flat := by
  unfold topTeams at h
  split at h
  · cases h
  · split at h
    · split at h
      · cases h
      · cases h
        exact b.tension_datasets 0 teams _
    · cases h

theorem flat_of_team {events : List Event} (h : b.team events now = .ok (.chart c)) :
    c.Flat := by
  unfold team at h
  split at h
  · cases h
  · split at h
    · cases h
    · cases h
      intro d hd
      obtain ⟨s, -, rfl⟩ := List.mem_map.1 hd
      rfl

end Builder
end Chart
end Scoreline
