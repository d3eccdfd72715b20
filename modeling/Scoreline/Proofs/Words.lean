import Scoreline.Event

/-!
# Scoreline.Proofs.Words

Machine words as whole numbers. An exact result that is brought into the range of a word
(`Int64.ofIntClamp`, `UInt64.ofNatClamp`) is cut to the nearest number of that range, and words are
ordered as the numbers that they stand for. The second fact lets the library's lemmas on least and
greatest elements of lists speak of times and scores.
-/

namespace Scoreline

open Std

theorem minValue_toInt : Int64.minValue.toInt = -9223372036854775808 := rfl

theorem maxValue_toInt : Int64.maxValue.toInt = 9223372036854775807 := rfl

/-- The bounds of a word, in figures. -/
theorem toInt_bounds (x : Int64) :
    -9223372036854775808 ≤ x.toInt ∧ x.toInt ≤ 9223372036854775807 :=
  ⟨x.minValue_le_toInt, x.toInt_le⟩

theorem eq_maxValue_iff (t : Int64) : t = Int64.maxValue ↔ Int64.maxValue.toInt ≤ t.toInt := by
  have hmax := maxValue_toInt
  have ht := toInt_bounds t
  rw [← Int64.toInt_inj]
  omega

theorem toNat_bound (n : UInt64) : n.toNat ≤ 18446744073709551615 :=
  Nat.le_of_lt_succ n.toNat_lt_size

/-- The word nearest to an exact number. -/
theorem toInt_ofIntClamp (n : Int) :
    (Int64.ofIntClamp n).toInt = max (-9223372036854775808) (min n 9223372036854775807) := by
  have hmin := minValue_toInt
  have hmax := maxValue_toInt
  by_cases hl : Int64.minValue.toInt ≤ n
  · by_cases hu : n ≤ Int64.maxValue.toInt
    · rw [Int64.toInt_ofIntClamp hl hu]
      omega
    · rw [Int64.ofIntClamp, dif_pos hl, dif_neg hu]
      omega
  · rw [Int64.ofIntClamp, dif_neg hl]
    omega

theorem toNat_ofNatClamp (n : Nat) :
    (UInt64.ofNatClamp n).toNat = min n 18446744073709551615 := by
  by_cases h : n < UInt64.size
  · rw [UInt64.ofNatClamp, dif_pos h, UInt64.toNat_ofNatLT]
    simp only [UInt64.size] at h
    omega
  · rw [UInt64.ofNatClamp, dif_neg h, UInt64.toNat_ofNatLT]
    simp only [UInt64.size] at h ⊢
    omega

theorem int64_max_def (a b : Int64) : max a b = if a ≤ b then b else a := rfl

theorem int64_min_def (a b : Int64) : min a b = if a ≤ b then a else b := rfl

theorem toInt_min (a b : Int64) : (min a b).toInt = min a.toInt b.toInt := by
  rw [int64_min_def]
  split <;> simp only [Int64.le_iff_toInt_le] at * <;> omega

theorem toInt_max (a b : Int64) : (max a b).toInt = max a.toInt b.toInt := by
  rw [int64_max_def]
  split <;> simp only [Int64.le_iff_toInt_le] at * <;> omega

instance lawfulOrderMax_int64 : LawfulOrderMax Int64 where
  max_eq_or a b := by
    rw [int64_max_def]
    split <;> simp
  max_le_iff a b c := by
    rw [Int64.le_iff_toInt_le, toInt_max, Int64.le_iff_toInt_le, Int64.le_iff_toInt_le]
    omega

instance lawfulOrderMin_int64 : LawfulOrderMin Int64 where
  min_eq_or a b := by
    rw [int64_min_def]
    split <;> simp
  le_min_iff a b c := by
    rw [Int64.le_iff_toInt_le, toInt_min, Int64.le_iff_toInt_le, Int64.le_iff_toInt_le]
    omega

end Scoreline
