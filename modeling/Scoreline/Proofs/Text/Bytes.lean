import Scoreline.Text.Utf8

/-!
# Scoreline.Proofs.Text.Bytes

Texts as lists of characters and the bytes that carry them. `bytes` encodes a list of characters one
by one; `Text.utf8` is `bytes` of the characters of a text, and `Text.ofUtf8?` undoes it.

A character of ASCII is its own byte, and the bytes of all other characters lie beyond ASCII
(`utf8EncodeChar_ascii`, `beyond_ascii_of_mem`). So a byte of ASCII always is a character.

`Text.decode` makes a text of any bytes. Of the bytes of a text it makes that text (`decode_bytes`).
-/

namespace Scoreline
namespace Text

/-- The bytes of characters, one character after the other. -/
def bytes (cs : List Char) : Bytes := cs.flatMap String.utf8EncodeChar

@[simp] theorem bytes_nil : bytes [] = [] := rfl

theorem bytes_cons (c : Char) (cs : List Char) :
    bytes (c :: cs) = String.utf8EncodeChar c ++ bytes cs := List.flatMap_cons

theorem bytes_append (cs ds : List Char) : bytes (cs ++ ds) = bytes cs ++ bytes ds :=
  List.flatMap_append

theorem utf8_ofList (cs : List Char) : utf8 (String.ofList cs) = bytes cs := by
  rw [utf8, String.toByteArray_ofList, List.utf8Encode, List.data_toByteArray, bytes]

theorem ofUtf8?_bytes (cs : List Char) : ofUtf8? (bytes cs) = some (String.ofList cs) := by
  rw [← utf8_ofList, ofUtf8?_utf8]

/-- Only the bytes of a text carry it. -/
theorem eq_bytes_of_ofUtf8? {bs : Bytes} {s : String} (h : ofUtf8? bs = some s) :
    bs = bytes s.toList := by
  rw [ofUtf8?, String.fromUTF8?] at h
  split at h
  · cases h
    rw [← utf8_ofList, String.ofList_toList]
    rfl
  · cases h

theorem bytes_inj {cs ds : List Char} (h : bytes cs = bytes ds) : cs = ds := by
  have hread := congrArg ofUtf8? h
  rw [ofUtf8?_bytes, ofUtf8?_bytes, Option.some.injEq] at hread
  exact String.ofList_inj.1 hread

theorem length_le_bytes (cs : List Char) : cs.length ≤ (bytes cs).length := by
  induction cs with
  | nil => exact Nat.le_refl 0
  | cons c cs ih =>
    have hpos : 0 < (String.utf8EncodeChar c).length := by
      rw [String.length_utf8EncodeChar]
      exact c.utf8Size_pos
    rw [bytes_cons, List.length_append, List.length_cons]
    omega

/-! ## ASCII -/

theorem utf8EncodeChar_ascii {c : Char} (h : c.toNat < 0x80) :
    String.utf8EncodeChar c = [UInt8.ofNat c.toNat] := by
  have hle : c.val.toNat ≤ 0x7F := Nat.le_of_lt_succ h
  rw [String.utf8EncodeChar, if_pos hle]
  rfl

theorem bytes_cons_ascii {c : Char} (h : c.toNat < 0x80) (cs : List Char) :
    bytes (c :: cs) = UInt8.ofNat c.toNat :: bytes cs := by
  rw [bytes_cons, utf8EncodeChar_ascii h, List.singleton_append]

/-- Characters of ASCII are their own bytes. -/
theorem bytes_ascii {cs : List Char} (h : ∀ c ∈ cs, c.toNat < 0x80) :
    bytes cs = cs.map fun c => UInt8.ofNat c.toNat := by
  induction cs with
  | nil => rfl
  | cons c cs ih =>
    rw [bytes_cons_ascii (h c List.mem_cons_self), ih fun d hd => h d (List.mem_cons_of_mem _ hd),
      List.map_cons]

theorem toNat_ofNat_ascii {c : Char} (h : c.toNat < 0x80) :
    (UInt8.ofNat c.toNat).toNat = c.toNat := by
  rw [UInt8.toNat_ofNat']
  omega

theorem beyond_ascii_of_mem {c : Char} (h : 0x80 ≤ c.toNat) {b : UInt8}
    (hb : b ∈ String.utf8EncodeChar c) : 0x80 ≤ b.toNat := by
  have hgt : ¬ c.val.toNat ≤ 0x7F := Nat.not_le_of_lt h
  have hv : c.val.toNat < 1114112 := by
    have := c.valid
    simp only [UInt32.isValidChar, Nat.isValidChar] at this
    omega
  rw [String.utf8EncodeChar, if_neg hgt] at hb
  split at hb
  · simp only [List.mem_cons, List.not_mem_nil, or_false] at hb
    rcases hb with rfl | rfl <;> simp only [UInt8.toNat_ofNat'] <;> omega
  · split at hb
    · simp only [List.mem_cons, List.not_mem_nil, or_false] at hb
      rcases hb with rfl | rfl | rfl <;> simp only [UInt8.toNat_ofNat'] <;> omega
    · simp only [List.mem_cons, List.not_mem_nil, or_false] at hb
      rcases hb with rfl | rfl | rfl | rfl <;> simp only [UInt8.toNat_ofNat'] <;> omega

/-! ## Decoding -/

theorem toNat_ofNat_byte {n : Nat} (h : n < 256) : (UInt8.ofNat n).toNat = n := by
  rw [UInt8.toNat_ofNat', Nat.mod_eq_of_lt h]

theorem lead_ascii {n : Nat} (h : n < 0x80) : lead (UInt8.ofNat n) = .whole (Char.ofNat n) := by
  have hn := toNat_ofNat_byte (n := n) (by omega)
  have hlt : UInt8.ofNat n < 0x80 := UInt8.lt_iff_toNat_lt.2 (hn.symm ▸ h)
  rw [lead, if_pos hlt, hn]

theorem lead_two {n : Nat} (h : 0xC2 ≤ n) (h' : n < 0xE0) :
    lead (UInt8.ofNat n) = .start ⟨n - 0xC0, 1, 0x80, 0xBF⟩ := by
  have hn := toNat_ofNat_byte (n := n) (by omega)
  simp only [lead, UInt8.lt_iff_toNat_lt, hn]
  rw [if_neg (by simp; omega), if_neg (by simp; omega), if_pos (by simp; omega)]

theorem lead_three {n : Nat} (h : 0xE0 ≤ n) (h' : n < 0xF0) :
    lead (UInt8.ofNat n) = .start ⟨n - 0xE0, 2, if n = 0xE0 then 0xA0 else 0x80,
      if n = 0xED then 0x9F else 0xBF⟩ := by
  have hn := toNat_ofNat_byte (n := n) (by omega)
  simp only [lead, UInt8.lt_iff_toNat_lt, ← UInt8.toNat_inj, hn]
  rw [if_neg (by simp; omega), if_neg (by simp; omega), if_neg (by simp; omega),
    if_pos (by simp; omega)]
  rfl

theorem lead_four {n : Nat} (h : 0xF0 ≤ n) (h' : n < 0xF5) :
    lead (UInt8.ofNat n) = .start ⟨n - 0xF0, 3, if n = 0xF0 then 0x90 else 0x80,
      if n = 0xF4 then 0x8F else 0xBF⟩ := by
  have hn := toNat_ofNat_byte (n := n) (by omega)
  simp only [lead, UInt8.lt_iff_toNat_lt, ← UInt8.toNat_inj, hn]
  rw [if_neg (by simp; omega), if_neg (by simp; omega), if_neg (by simp; omega),
    if_neg (by simp; omega), if_pos (by simp; omega)]
  rfl

/-- A byte that goes on with a character brings six bits. -/
theorem decodeFrom_next {p : Pending} {n : Nat} (hn : n < 64) (hlow : p.low.toNat ≤ n + 128)
    (hhigh : n + 128 ≤ p.high.toNat) (rest : Bytes) :
    decodeFrom (some p) (UInt8.ofNat (n + 128) :: rest) =
      if p.missing ≤ 1 then Char.ofNat (p.code * 64 + n) :: decodeFrom none rest
      else decodeFrom (some ⟨p.code * 64 + n, p.missing - 1, 0x80, 0xBF⟩) rest := by
  have hbyte := toNat_ofNat_byte (n := n + 128) (by omega)
  have hbits : (n + 128) % 64 = n := by omega
  have hrange : p.low ≤ UInt8.ofNat (n + 128) ∧ UInt8.ofNat (n + 128) ≤ p.high := by
    rw [UInt8.le_iff_toNat_le, UInt8.le_iff_toNat_le, hbyte]
    exact ⟨hlow, hhigh⟩
  rw [decodeFrom, if_pos hrange, hbyte, hbits]

theorem decodeFrom_encodeChar (c : Char) (rest : Bytes) :
    decodeFrom none (String.utf8EncodeChar c ++ rest) = c :: decodeFrom none rest := by
  have hc : c = Char.ofNat c.val.toNat := (Char.ofNat_toNat c).symm
  have hvalid : c.val.toNat < 0xD800 ∨ 0xDFFF < c.val.toNat ∧ c.val.toNat < 0x110000 := c.valid
  rw [String.utf8EncodeChar]
  generalize c.val.toNat = v at hc hvalid
  subst hc
  by_cases hone : v ≤ 0x7F
  · rw [if_pos hone, List.singleton_append, decodeFrom, lead_ascii (by omega)]
  by_cases htwo : v ≤ 0x7FF
  · have hv : (v / 64 % 32 + 192 - 192) * 64 + v % 64 = v := by omega
    rw [if_neg hone, if_pos htwo, List.cons_append, List.singleton_append, decodeFrom,
      lead_two (by omega) (by omega)]
    simp only
    rw [decodeFrom_next (by omega) (by simp) (by simp; omega), if_pos (by simp), hv]
  by_cases hthree : v ≤ 0xFFFF
  · have hv : ((v / 4096 % 16 + 224 - 224) * 64 + v / 64 % 64) * 64 + v % 64 = v := by omega
    -- no character is written longer than it need be, and none is a surrogate
    have hlow : (if v / 4096 % 16 + 224 = 0xE0 then (0xA0 : UInt8) else 0x80).toNat ≤
        v / 64 % 64 + 128 := by
      split
      · simp
        omega
      · simp
    have hhigh : v / 64 % 64 + 128 ≤
        (if v / 4096 % 16 + 224 = 0xED then (0x9F : UInt8) else 0xBF).toNat := by
      split <;> simp <;> omega
    rw [if_neg hone, if_neg htwo, if_pos hthree, List.cons_append, List.cons_append,
      List.singleton_append, decodeFrom, lead_three (by omega) (by omega)]
    simp only
    rw [decodeFrom_next (by omega) (by exact hlow) (by exact hhigh), if_neg (by simp),
      decodeFrom_next (by omega) (by simp) (by simp; omega), if_pos (by simp), hv]
  · have hv : (((v / 262144 % 8 + 240 - 240) * 64 + v / 4096 % 64) * 64 + v / 64 % 64) * 64 +
        v % 64 = v := by omega
    have hlow : (if v / 262144 % 8 + 240 = 0xF0 then (0x90 : UInt8) else 0x80).toNat ≤
        v / 4096 % 64 + 128 := by
      split
      · simp
        omega
      · simp
    have hhigh : v / 4096 % 64 + 128 ≤
        (if v / 262144 % 8 + 240 = 0xF4 then (0x8F : UInt8) else 0xBF).toNat := by
      split <;> simp <;> omega
    rw [if_neg hone, if_neg htwo, if_neg hthree, List.cons_append, List.cons_append,
      List.cons_append, List.singleton_append, decodeFrom, lead_four (by omega) (by omega)]
    simp only
    rw [decodeFrom_next (by omega) (by exact hlow) (by exact hhigh), if_neg (by simp),
      decodeFrom_next (by omega) (by simp) (by simp; omega), if_neg (by simp),
      decodeFrom_next (by omega) (by simp) (by simp; omega), if_pos (by simp), hv]

/-- The bytes of a text are decoded to the text. -/
theorem decode_bytes (cs : List Char) : decode (bytes cs) = String.ofList cs := by
  have hread : decodeFrom none (bytes cs) = cs := by
    induction cs with
    | nil => rfl
    | cons c cs ih => rw [bytes_cons, decodeFrom_encodeChar, ih]
  rw [decode, hread]

theorem decode_utf8 (s : String) : decode (utf8 s) = s := by
  rw [← String.ofList_toList (s := s), utf8_ofList, decode_bytes]

/-- Bytes that begin with a character of ASCII have no mark. -/
theorem decodeMarked_ascii {b : UInt8} (h : b < 0x80) (rest : Bytes) :
    decodeMarked (b :: rest) = decode (b :: rest) := by
  unfold decodeMarked
  split
  · rename_i heq
    cases heq
    exact absurd h (by decide)
  · rename_i heq
    cases heq
    exact absurd h (by decide)
  · rename_i heq
    cases heq
    exact absurd h (by decide)
  · rfl

end Text
end Scoreline
