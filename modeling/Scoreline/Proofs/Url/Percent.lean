import Scoreline.Proofs.Text.Bytes
import Scoreline.Url.Percent

/-!
# Scoreline.Proofs.Url.Percent

Encoded text is decoded to the bytes of the text (`decode_encode`), whatever characters are kept, as
long as no percent sign of the text is. `formDecode?` reads what a form writes, and
`formDecode?_formEncode` says that no text is lost on the way.
-/

namespace Scoreline
namespace Url

open Text (bytes)

theorem hexDigit?_upperHexDigit : ∀ n, n < 16 → hexDigit? (upperHexDigit n) = some n := by decide

theorem decode_percent {a b : Char} {m n : Nat} (ha : hexDigit? a = some m)
    (hb : hexDigit? b = some n) (rest : List Char) :
    decode ('%' :: a :: b :: rest) = UInt8.ofNat (m * 16 + n) :: decode rest := by
  rw [decode, ha, hb]

theorem decode_cons {c : Char} (h : c ≠ '%') (rest : List Char) :
    decode (c :: rest) = String.utf8EncodeChar c ++ decode rest := by
  rw [decode]
  intro a b rest' heq
  exact absurd heq h

theorem decode_encodeByte (b : UInt8) (rest : List Char) :
    decode (encodeByte b ++ rest) = b :: decode rest := by
  have hb : b.toNat < 256 := b.toNat_lt
  have hhigh := hexDigit?_upperHexDigit (b.toNat / 16) (by omega)
  have hlow := hexDigit?_upperHexDigit (b.toNat % 16) (by omega)
  have hnum : b.toNat / 16 * 16 + b.toNat % 16 = b.toNat := by omega
  rw [encodeByte, List.cons_append, List.cons_append, List.cons_append, List.nil_append,
    decode_percent hhigh hlow, hnum, UInt8.ofNat_toNat]

theorem decode_encodeBytes (bs : Bytes) (rest : List Char) :
    decode (bs.flatMap encodeByte ++ rest) = bs ++ decode rest := by
  induction bs with
  | nil => rfl
  | cons b bs ih =>
    rw [List.flatMap_cons, List.append_assoc, decode_encodeByte, ih, List.cons_append]

section Encode

variable {keep : Char → Bool}

theorem ne_percent_of_kept (h : keep '%' = false) {c : Char} (hc : keep c = true) : c ≠ '%' := by
  rintro rfl
  rw [h] at hc
  cases hc

theorem decode_encodeChar {c : Char} (h : keep c = true → c ≠ '%') (rest : List Char) :
    decode (encodeChar keep c ++ rest) = String.utf8EncodeChar c ++ decode rest := by
  rw [encodeChar]
  split
  · rename_i hc
    exact decode_cons (h hc) rest
  · exact decode_encodeBytes _ rest

/-- A text whose percent signs are encoded is what its encoded form is decoded to. -/
theorem decode_encode {s : List Char} (h : ∀ c ∈ s, keep c = true → c ≠ '%') :
    decode (encode keep s) = bytes s := by
  induction s with
  | nil => rfl
  | cons c s ih =>
    have hcons : encode keep (c :: s) = encodeChar keep c ++ encode keep s := List.flatMap_cons
    rw [hcons, decode_encodeChar (h c List.mem_cons_self),
      ih fun d hd => h d (List.mem_cons_of_mem _ hd), Text.bytes_cons]

theorem encode_of_kept {s : List Char} (h : ∀ c ∈ s, keep c = true) : encode keep s = s := by
  induction s with
  | nil => rfl
  | cons c s ih =>
    have hcons : encode keep (c :: s) = encodeChar keep c ++ encode keep s := List.flatMap_cons
    rw [hcons, ih fun d hd => h d (List.mem_cons_of_mem _ hd), encodeChar,
      if_pos (h c List.mem_cons_self), List.singleton_append]

end Encode

/-! ## Forms -/

/-- Whether a form may write a character: one that it keeps, or a sign of its encoding. -/
def isFormChar (c : Char) : Bool := keptInForm c || c == '%' || c == '+'

theorem keptInForm_upperHexDigit : ∀ n, n < 16 → keptInForm (upperHexDigit n) = true := by decide

theorem mem_encodeByte {c : Char} {b : UInt8} (h : c ∈ encodeByte b) :
    keptInForm c = true ∨ c = '%' := by
  have hb : b.toNat < 256 := b.toNat_lt
  rw [encodeByte, List.mem_cons, List.mem_cons, List.mem_singleton] at h
  rcases h with rfl | rfl | rfl
  · exact .inr rfl
  · exact .inl (keptInForm_upperHexDigit _ (by omega))
  · exact .inl (keptInForm_upperHexDigit _ (by omega))

/-- What encoding writes: characters that are kept, and those of encoded bytes. -/
theorem mem_encodeChar {keep : Char → Bool} {c d : Char} (h : d ∈ encodeChar keep c) :
    (d = c ∧ keep c = true) ∨ keptInForm d = true ∨ d = '%' := by
  rw [encodeChar] at h
  split at h
  · rename_i hc
    exact .inl ⟨List.mem_singleton.1 h, hc⟩
  · obtain ⟨b, -, hb⟩ := List.mem_flatMap.1 h
    exact .inr (mem_encodeByte hb)

theorem mem_encode {keep : Char → Bool} {s : List Char} {d : Char} (h : d ∈ encode keep s) :
    (d ∈ s ∧ keep d = true) ∨ keptInForm d = true ∨ d = '%' := by
  obtain ⟨c, hc, hd⟩ := List.mem_flatMap.1 h
  rcases mem_encodeChar hd with ⟨rfl, hkeep⟩ | hform
  · exact .inl ⟨hc, hkeep⟩
  · exact .inr hform

theorem mem_encodeChar_form {c d : Char} (h : d ∈ encodeChar keptInForm c) :
    keptInForm d = true ∨ d = '%' := by
  rcases mem_encodeChar h with ⟨rfl, hkeep⟩ | hform
  · exact .inl hkeep
  · exact hform

theorem isFormChar_of_mem {s : List Char} {d : Char} (h : d ∈ formEncode s) :
    isFormChar d = true := by
  obtain ⟨c, -, hd⟩ := List.mem_flatMap.1 h
  rw [formEncodeChar] at hd
  split at hd
  · rw [List.mem_singleton.1 hd]
    rfl
  · rcases mem_encodeChar_form hd with hd | rfl
    · rw [isFormChar, hd]
      rfl
    · rfl

theorem not_mem_formEncode {mark : Char} (h : isFormChar mark = false) (s : List Char) :
    mark ∉ formEncode s := by
  intro hmem
  rw [isFormChar_of_mem hmem] at h
  cases h

theorem length_formEncodeChar_pos (c : Char) : 0 < (formEncodeChar c).length := by
  rw [formEncodeChar]
  split
  · exact Nat.one_pos
  · rw [encodeChar]
    split
    · exact Nat.one_pos
    · have hne : String.utf8EncodeChar c ≠ [] :=
        List.ne_nil_of_length_pos (String.length_utf8EncodeChar c ▸ c.utf8Size_pos)
      obtain ⟨b, bs, hbytes⟩ := List.exists_cons_of_ne_nil hne
      rw [hbytes, List.flatMap_cons, List.length_append]
      exact Nat.add_pos_left (List.length_pos_of_mem List.mem_cons_self) _

/-- A text is written in no fewer characters than it has. -/
theorem length_le_formEncode (s : List Char) : s.length ≤ (formEncode s).length := by
  induction s with
  | nil => exact Nat.le_refl 0
  | cons c s ih =>
    have hpos := length_formEncodeChar_pos c
    rw [formEncode] at ih
    rw [formEncode, List.flatMap_cons, List.length_append, List.length_cons]
    omega

/-- In a form a plus sign stands for a space. -/
def spaceOfPlus (c : Char) : Char := if c = '+' then ' ' else c

/-- The text that a form has written, if it is one. -/
def formDecode? (s : List Char) : Option String := Text.ofUtf8? (decode (s.map spaceOfPlus))

theorem map_spaceOfPlus_encodeChar (c : Char) :
    (encodeChar keptInForm c).map spaceOfPlus = encodeChar keptInForm c := by
  have hid : ∀ d ∈ encodeChar keptInForm c, spaceOfPlus d = id d := by
    intro d hd
    have hne : d ≠ '+' := by
      rintro rfl
      rcases mem_encodeChar_form hd with h | h <;> exact absurd h (by decide)
    rw [spaceOfPlus, if_neg hne, id]
  rw [List.map_congr_left hid, List.map_id]

theorem decode_formEncode (s : List Char) : decode ((formEncode s).map spaceOfPlus) = bytes s := by
  induction s with
  | nil => rfl
  | cons c s ih =>
    have hcons : formEncode (c :: s) = formEncodeChar c ++ formEncode s := List.flatMap_cons
    rw [hcons, List.map_append, formEncodeChar, Text.bytes_cons]
    split
    · rename_i hc
      subst hc
      rw [← ih]
      exact decode_cons (by decide) _
    · rw [map_spaceOfPlus_encodeChar, decode_encodeChar (ne_percent_of_kept (by decide)), ih]

theorem formDecode?_formEncode (s : String) : formDecode? (formEncode s.toList) = some s := by
  rw [formDecode?, decode_formEncode, Text.ofUtf8?_bytes, String.ofList_toList]

end Url
end Scoreline
