import Scoreline.Json.Reader
import Scoreline.Json.Render
import Scoreline.Proofs.Text.Bytes

/-!
# Scoreline.Proofs.Json.Lexis

Blanks are passed over, and integers are read as they were written (`readInteger_write`), with what
follows them left over. A number has no end mark, so what follows may not go on with it
(`EndsNumber`).
-/

namespace Scoreline
namespace Json

open Text (bytes)

theorem skipGap_cons {b : UInt8} (h : isGap b = false) (rest : Bytes) :
    skipGap (b :: rest) = b :: rest := by
  rw [skipGap, List.dropWhile_cons_of_neg (by simp [h])]

/-! ## Integers -/

/-- Whether a text, following a number, leaves it as it is. -/
def EndsNumber (rest : Bytes) : Prop :=
  ∀ b ∈ rest.head?, isDigit b = false ∧ b ≠ point ∧ b ≠ lowerE ∧ b ≠ upperE

theorem endsNumber_nil : EndsNumber [] := by
  intro b hb
  cases hb

theorem endsNumber_cons {b : UInt8} (hd : isDigit b = false) (hp : b ≠ point) (he : b ≠ lowerE)
    (hE : b ≠ upperE) (rest : Bytes) : EndsNumber (b :: rest) := by
  intro c hc
  cases hc
  exact ⟨hd, hp, he, hE⟩

/-- Whether a text does not go on with the digits before it. -/
def EndsDigits (rest : Bytes) : Prop := ∀ b ∈ rest.head?, isDigit b = false

theorem EndsNumber.endsDigits {rest : Bytes} (h : EndsNumber rest) : EndsDigits rest :=
  fun b hb => (h b hb).1

theorem span_digits {ds rest : Bytes} (hds : ∀ b ∈ ds, isDigit b = true) (hrest : EndsDigits rest) :
    (ds ++ rest).takeWhile isDigit = ds ∧ (ds ++ rest).dropWhile isDigit = rest := by
  rw [List.takeWhile_append_of_pos hds, List.dropWhile_append_of_pos hds]
  cases rest with
  | nil => simp
  | cons b rest =>
    have hb : isDigit b = false := hrest b rfl
    simp [hb]

/-- The digits of a number as bytes. -/
def digitBytes (n : Nat) : Bytes := bytes (Nat.toDigits 10 n)

theorem digitBytes_eq (n : Nat) :
    digitBytes n = if n < 10 then [UInt8.ofNat (48 + n)]
      else digitBytes (n / 10) ++ [UInt8.ofNat (48 + n % 10)] := by
  have hchar : ∀ d, d < 10 → bytes [Nat.digitChar d] = [UInt8.ofNat (48 + d)] := by decide
  rw [digitBytes, Nat.toDigits_eq_if (by omega)]
  split
  · exact hchar n (by assumption)
  · rw [Text.bytes_append, hchar _ (Nat.mod_lt _ (by omega)), digitBytes]

theorem isDigit_ofNat : ∀ d, d < 10 → isDigit (UInt8.ofNat (48 + d)) = true := by decide

theorem isDigit_of_mem_digitBytes (n : Nat) : ∀ b ∈ digitBytes n, isDigit b = true := by
  induction n using Nat.strongRecOn with
  | ind n ih =>
    intro b hb
    rw [digitBytes_eq] at hb
    split at hb
    · rw [List.mem_singleton.1 hb]
      exact isDigit_ofNat n (by assumption)
    · rcases List.mem_append.1 hb with hb | hb
      · exact ih (n / 10) (by omega) b hb
      · rw [List.mem_singleton.1 hb]
        exact isDigit_ofNat _ (Nat.mod_lt _ (by omega))

/-- A positive number begins with a digit that is not zero. -/
theorem exists_digitBytes_eq_cons {n : Nat} (h : 0 < n) :
    ∃ d ds, digitBytes n = d :: ds ∧ isDigit d = true ∧ d ≠ zero := by
  induction n using Nat.strongRecOn with
  | ind n ih =>
    rw [digitBytes_eq]
    split
    · have hne : ∀ d, d < 10 → 0 < d → UInt8.ofNat (48 + d) ≠ zero := by decide
      exact ⟨_, [], rfl, isDigit_ofNat n (by assumption), hne n (by assumption) h⟩
    · obtain ⟨d, ds, heq, hd, hz⟩ := ih (n / 10) (by omega) (by omega)
      exact ⟨d, ds ++ [UInt8.ofNat (48 + n % 10)], by rw [heq]; rfl, hd, hz⟩

theorem gather_append {s m : Nat} {xs : Bytes} (ys : Bytes) (h : gather s xs = (m, 0)) :
    gather s (xs ++ ys) = gather m ys := by
  induction xs generalizing s with
  | nil =>
    cases h
    rfl
  | cons d xs ih =>
    simp only [List.cons_append, gather] at h ⊢
    split
    · rw [if_pos (by assumption)] at h
      cases h
    · rw [if_neg (by assumption)] at h
      exact ih h

/-- Digits are gathered into their number. -/
theorem gather_digitBytes {n : Nat} (h : n ≤ largestSignificand) :
    gather 0 (digitBytes n) = (n, 0) := by
  have hdigit : ∀ d, d < 10 → (UInt8.ofNat (48 + d)).toNat - 0x30 = d := by decide
  induction n using Nat.strongRecOn with
  | ind n ih =>
    rw [digitBytes_eq]
    split
    · simp only [gather, hdigit n (by assumption), Nat.zero_mul, Nat.zero_add]
      rw [if_neg (by omega)]
    · have hn : n / 10 * 10 + n % 10 = n := by omega
      rw [gather_append _ (ih (n / 10) (by omega) (by omega))]
      simp only [gather, hdigit _ (Nat.mod_lt n (by omega : 10 > 0)), hn]
      rw [if_neg (by omega)]

theorem readTail_of_endsNumber (negative : Bool) (s left : Nat) {rest : Bytes} (h : EndsNumber rest) :
    readTail negative s left rest =
      if left = 0 then wholeNumber negative s rest else realNumber negative s left rest := by
  rw [readTail]
  · rintro text rfl
    exact (h point rfl).2.1 rfl
  · rintro text rfl
    exact (h lowerE rfl).2.2.1 rfl
  · rintro text rfl
    exact (h upperE rfl).2.2.2 rfl

theorem readMagnitude_zero_cons (negative : Bool) (b : UInt8) (text : Bytes) :
    readMagnitude negative (zero :: b :: text) =
      if isDigit b then .error (.breach .number) else readTail negative 0 0 (b :: text) := rfl

/-- A zero stands alone. -/
theorem readMagnitude_zero (negative : Bool) {rest : Bytes} (hrest : EndsDigits rest) :
    readMagnitude negative (zero :: rest) = readTail negative 0 0 rest := by
  cases rest with
  | nil => rfl
  | cons d rest =>
    have hd : isDigit d = false := hrest d rfl
    rw [readMagnitude_zero_cons, hd, if_neg (by simp)]

theorem readMagnitude_digits (negative : Bool) {d : UInt8} {ds rest : Bytes} (hd : isDigit d = true)
    (hzero : d ≠ zero) (hds : ∀ b ∈ ds, isDigit b = true) (hrest : EndsDigits rest) :
    readMagnitude negative (d :: (ds ++ rest)) =
      readTail negative (gather 0 (d :: ds)).1 (gather 0 (d :: ds)).2 rest := by
  obtain ⟨htake, hdrop⟩ := span_digits (List.forall_mem_cons.2 ⟨hd, hds⟩) hrest
  rw [List.cons_append] at htake hdrop
  rw [readMagnitude]
  · simp only [hd, if_true, htake, hdrop]
  · exact hzero

theorem readMagnitude_digitBytes (negative : Bool) {n : Nat} {rest : Bytes}
    (hn : n ≤ largestSignificand) (h : EndsNumber rest) :
    readMagnitude negative (digitBytes n ++ rest) = wholeNumber negative n rest := by
  by_cases h0 : n = 0
  · subst h0
    have hz : digitBytes 0 = [zero] := rfl
    rw [hz, List.singleton_append, readMagnitude_zero negative h.endsDigits,
      readTail_of_endsNumber negative 0 0 h, if_pos rfl]
  · obtain ⟨d, ds, heq, hd, hz⟩ := exists_digitBytes_eq_cons (by omega : 0 < n)
    have hall := isDigit_of_mem_digitBytes n
    rw [heq] at hall
    rw [heq, List.cons_append,
      readMagnitude_digits negative hd hz (List.forall_mem_cons.1 hall).2 h.endsDigits, ← heq,
      gather_digitBytes hn, readTail_of_endsNumber negative n 0 h, if_pos rfl]

theorem isGap_eq_false_of_isDigit {b : UInt8} (h : isDigit b = true) : isGap b = false := by
  simp only [isDigit, Bool.and_eq_true, decide_eq_true_eq, UInt8.le_iff_toNat_le] at h
  simp only [isGap, Bool.or_eq_false_iff, beq_eq_false_iff_ne, ne_eq, ← UInt8.toNat_inj]
  have h1 : (0x30 : UInt8).toNat = 48 := rfl
  have h2 : (0x39 : UInt8).toNat = 57 := rfl
  have h3 : (0x20 : UInt8).toNat = 32 := rfl
  have h4 : (0x0A : UInt8).toNat = 10 := rfl
  have h5 : (0x0D : UInt8).toNat = 13 := rfl
  have h6 : (0x09 : UInt8).toNat = 9 := rfl
  omega

theorem exists_digitBytes_cons (n : Nat) : ∃ d ds, digitBytes n = d :: ds ∧ isDigit d = true := by
  cases h : digitBytes n with
  | nil =>
    rw [digitBytes_eq] at h
    split at h <;> simp at h
  | cons d ds =>
    exact ⟨d, ds, rfl, isDigit_of_mem_digitBytes n d (by rw [h]; exact List.mem_cons_self)⟩

theorem readNumber_nonneg (expected : String) {n : Nat} {rest : Bytes}
    (hn : n ≤ largestSignificand) (h : EndsNumber rest) :
    readNumber expected (digitBytes n ++ rest) = .ok (.integer n, rest) := by
  obtain ⟨d, ds, heq, hd⟩ := exists_digitBytes_cons n
  have hmag := readMagnitude_digitBytes false hn h
  rw [heq, List.cons_append] at hmag ⊢
  rw [readNumber, skipGap_cons (isGap_eq_false_of_isDigit hd)]
  split
  · rename_i hcons
    cases hcons
  · rename_i rest' hcons
    cases hcons
    exact absurd hd (by decide)
  · rename_i hcons
    cases hcons
    rw [if_pos hd, hmag]
    rfl

theorem readNumber_neg (expected : String) {n : Nat} {rest : Bytes} (h0 : 0 < n)
    (hn : Int64.minValue.toInt ≤ -(n : Int)) (h : EndsNumber rest) :
    readNumber expected (minus :: (digitBytes n ++ rest)) = .ok (.integer (-n), rest) := by
  have hmin : Int64.minValue.toInt = -9223372036854775808 := rfl
  have hlarge : n ≤ largestSignificand := by
    simp only [largestSignificand, UInt64.size]
    omega
  have hmag : readNumber expected (minus :: (digitBytes n ++ rest)) =
      readMagnitude true (digitBytes n ++ rest) := rfl
  rw [hmag, readMagnitude_digitBytes true hlarge h, wholeNumber, if_pos rfl, if_neg (by omega)]

theorem bytes_integerChars (n : Int) :
    bytes (integerChars n) =
      if n < 0 then minus :: digitBytes n.natAbs else digitBytes n.natAbs := by
  rw [integerChars]
  split
  · rw [Text.bytes_cons_ascii (by decide)]
    rfl
  · rfl

theorem readNumber_write (expected : String) {n : Int} {rest : Bytes}
    (hmin : Int64.minValue.toInt ≤ n) (hmax : n ≤ (largestSignificand : Int))
    (h : EndsNumber rest) :
    readNumber expected (bytes (integerChars n) ++ rest) = .ok (.integer n, rest) := by
  rw [bytes_integerChars]
  split
  · have habs : -(n.natAbs : Int) = n := by omega
    rw [List.cons_append, readNumber_neg expected (by omega) (by omega) h, habs]
  · have habs : (n.natAbs : Int) = n := by omega
    rw [readNumber_nonneg expected (by omega) h, habs]

/-- An integer is read as it was written, if it is wanted and fits a machine word. -/
theorem readInteger_write (expected : String) {low high n : Int} {rest : Bytes}
    (hl : low ≤ n) (hh : n ≤ high) (hmin : Int64.minValue.toInt ≤ n)
    (hmax : n ≤ (largestSignificand : Int)) (h : EndsNumber rest) :
    readInteger expected low high (bytes (integerChars n) ++ rest) = .ok (n, rest) := by
  rw [readInteger, readNumber_write expected hmin hmax h]
  simp only [Number.within, if_pos (And.intro hl hh)]

end Json
end Scoreline
