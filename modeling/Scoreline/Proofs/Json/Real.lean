import Scoreline.Proofs.Json.Form

/-!
# Scoreline.Proofs.Json.Real

Zero as a real number. It is written `0.0` in every format. The text is read as a zero of the
double format and a digit after the point, which takes a tenth of it; the outcome is brought into
the format that is wanted. A zero stays a zero at each of these steps, since its significand
decides.

`Form.single_lawfulAt_zero` puts the steps together.
-/

namespace Scoreline

namespace Decimal

theorem Format.round_zero (f : Format) (negative : Bool) (d : Nat) :
    f.round negative 0 d = .finite negative 0 f.least := by
  rw [round, if_pos rfl]

theorem Format.ofNat_zero (f : Format) : f.ofNat 0 = .finite false 0 f.least :=
  f.round_zero false 1

namespace Binary

theorem quotient_zero (e : Int) : (quotient 0 e).1 = 0 := by
  unfold quotient
  split
  · exact Nat.zero_mul _
  · rfl

theorem toFormat_zero (f : Format) (negative : Bool) (e : Int) :
    (finite negative 0 e).toFormat f = .finite negative 0 f.least := by
  simp only [toFormat, quotient_zero, Format.round_zero]

theorem dividedBy_zero (f : Format) (negative : Bool) (e : Int) (k : Nat) :
    (finite negative 0 e).dividedBy f k = .finite negative 0 f.least := by
  simp only [dividedBy, quotient_zero, Format.round_zero]

end Binary
end Decimal

namespace Json

open Text (bytes)
open Decimal (Format)

theorem scaleByTen_zero (fuel : Nat) :
    scaleByTen fuel (Format.double.ofNat 0) (-1) = .ok (Format.double.ofNat 0) := by
  have htenth : ¬ (0 : Int) ≤ -1 := by decide
  unfold scaleByTen
  rw [if_pos (by decide)]
  simp only [if_neg htenth, Format.ofNat_zero, Decimal.Binary.dividedBy_zero]

/-- The zero after a point, and what ends the number. -/
theorem readFraction_zero {rest : Bytes} (h : EndsNumber rest) :
    readFraction false 0 0 (zero :: rest) = .ok (.real .double (Format.double.ofNat 0), rest) := by
  have hzero : ∀ b ∈ [zero], isDigit b = true := List.forall_mem_singleton.2 rfl
  obtain ⟨htake, hdrop⟩ := span_digits hzero h.endsDigits
  have hplace : (0 : Int) - (([zero].length - 0 : Nat) : Int) = -1 := rfl
  have hreal : realNumber false 0 (-1) rest =
      .ok (.real .double (Format.double.ofNat 0), rest) := by
    simp only [realNumber, scaleByTen_zero, Bool.false_eq_true, if_false]
  have hgather : gather 0 [zero] = (0, 0) := rfl
  rw [List.singleton_append] at htake hdrop
  unfold readFraction
  rw [htake]
  simp only [hdrop, hgather, hplace]
  cases rest with
  | nil => exact hreal
  | cons b rest =>
    obtain ⟨-, -, he, hE⟩ := h b rfl
    split
    · rename_i heq
      cases heq
      exact absurd rfl he
    · rename_i heq
      cases heq
      exact absurd rfl hE
    · exact hreal

namespace Form

theorem bytes_zero (gap : Option Nat) :
    bytes ((single.write (Format.single.ofNat 0)).chars gap) = [zero, point, zero] := by
  rw [Format.ofNat_zero]
  rfl

theorem single_lawfulAt_zero : single.LawfulAt (Format.single.ofNat 0) where
  read_skipGap text := by
    simp only [single, readNumber, skipGap_skipGap]
  readsAs gap := by
    refine ⟨?_, fun rest hrest => ?_⟩
    · rw [bytes_zero]
      exact opensValue_cons rfl (by decide) (by decide) _
    · have hread : readNumber "f32" ([zero, point, zero] ++ rest) =
          readFraction false 0 0 (zero :: rest) := rfl
      rw [bytes_zero]
      simp only [single, hread, readFraction_zero hrest, toSingle]
      rw [Format.ofNat_zero, Decimal.Binary.toFormat_zero, Format.ofNat_zero]

end Form
end Json
end Scoreline
