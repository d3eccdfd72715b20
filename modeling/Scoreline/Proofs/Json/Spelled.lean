import Scoreline.Proofs.Json.Quoted

/-!
# Scoreline.Proofs.Json.Spelled

A string is read from its texts alone: what is read up to the closing quote spells the string
(`content_of_readQuoted`).

The reader gathers bytes, and only at the end asks whether they are of a text. So the pieces that it
takes are those of `Content`, but for characters beyond ASCII, whose bytes it takes one by one
(`Gathered`). Since no escape is read as a byte from inside a character, the bytes of one character
stand together in the text as well (`Gathered.of_continued`).
-/

namespace Scoreline
namespace Json

open Text (bytes)

/-! ## Escapes -/

theorem hexDigit_of_hexValue? {b : UInt8} {n : Nat} (h : hexValue? b = some n) : HexDigit n b := by
  have hall : ∀ k < 256, ∀ n ∈ hexValue? (UInt8.ofNat k), n < 16 ∧
      (UInt8.ofNat k = UInt8.ofNat (Nat.digitChar n).toNat ∨
        UInt8.ofNat k = UInt8.ofNat (Nat.digitChar n).toUpper.toNat) := by decide +kernel
  obtain ⟨hn, hb⟩ := hall b.toNat b.toNat_lt n (by rwa [UInt8.ofNat_toNat])
  rw [UInt8.ofNat_toNat] at hb
  rcases hb with rfl | rfl
  · exact .small hn
  · exact .capital hn

theorem hex4_of_readHex4 {text rest : Bytes} {n : Nat} (h : readHex4 text = .ok (n, rest)) :
    ∃ ds, Hex4 n ds ∧ text = ds ++ rest := by
  unfold readHex4 at h
  split at h
  · split at h
    · rename_i ha hb hc hd
      cases h
      exact ⟨_, .digits (hexDigit_of_hexValue? ha) (hexDigit_of_hexValue? hb)
        (hexDigit_of_hexValue? hc) (hexDigit_of_hexValue? hd), rfl⟩
    · cases h
  · cases h

theorem HexDigit.lt {n : Nat} {b : UInt8} (h : HexDigit n b) : n < 16 := by
  cases h <;> assumption

theorem Hex4.lt {n : Nat} {ds : Bytes} (h : Hex4 n ds) : n < 0x10000 := by
  obtain ⟨ha, hb, hc, hd⟩ := h
  have := ha.lt
  have := hb.lt
  have := hc.lt
  have := hd.lt
  omega

theorem letter_of_shortEscape? {b c : UInt8} (h : shortEscape? b = some c) :
    ∃ p ∈ letters, b = UInt8.ofNat p.1.toNat ∧ [c] = String.utf8EncodeChar p.2 := by
  unfold shortEscape? at h
  split at h
  all_goals cases h
  · exact ⟨('"', '"'), by decide, rfl, rfl⟩
  · exact ⟨('\\', '\\'), by decide, rfl, rfl⟩
  · exact ⟨('/', '/'), by decide, rfl, rfl⟩
  · exact ⟨('b', '\x08'), by decide, rfl, rfl⟩
  · exact ⟨('f', '\x0c'), by decide, rfl, rfl⟩
  · exact ⟨('n', '\n'), by decide, rfl, rfl⟩
  · exact ⟨('r', '\r'), by decide, rfl, rfl⟩
  · exact ⟨('t', '\t'), by decide, rfl, rfl⟩

theorem toNat_ofNat_of_valid {n : Nat} (h : n < 0xD800 ∨ 0xDFFF < n ∧ n < 0x110000) :
    (Char.ofNat n).toNat = n := by
  have hvalid : n.isValidChar := h
  rw [Char.ofNat, dif_pos hvalid]
  rfl

/-- The second half of a pair completes the character that the first half begins. -/
theorem escapes_of_readLowSurrogate {high : Nat} {ds text rest : Bytes} {c : Char}
    (hhigh : Hex4 high ds) (hhighs : isHighSurrogate high = true)
    (h : readLowSurrogate high text = .ok (c, rest)) :
    ∃ es, Escapes c (lowerU :: (ds ++ es)) ∧ text = es ++ rest := by
  simp only [isHighSurrogate, Bool.and_eq_true, decide_eq_true_eq] at hhighs
  unfold readLowSurrogate at h
  split at h
  · cases h
  · cases h
  · split at h
    · cases h
    · rename_i low rest' hread
      split at h
      · rename_i hlows
        rw [Except.ok.injEq, Prod.mk.injEq] at h
        obtain ⟨rfl, rfl⟩ := h
        obtain ⟨es, hlow, rfl⟩ := hex4_of_readHex4 hread
        simp only [isLowSurrogate, Bool.and_eq_true, decide_eq_true_eq] at hlows
        exact ⟨_, .pair hhigh hlow hhighs hlows (toNat_ofNat_of_valid (by omega)), rfl⟩
      · cases h
  · cases h

theorem escapes_of_readNumbered {text rest : Bytes} {c : Char}
    (h : readNumbered text = .ok (c, rest)) :
    ∃ es, Escapes c (lowerU :: es) ∧ text = es ++ rest := by
  unfold readNumbered at h
  split at h
  · cases h
  · rename_i n rest' hread
    obtain ⟨ds, hds, rfl⟩ := hex4_of_readHex4 hread
    split at h
    · cases h
    · rename_i hlow
      split at h
      · rename_i hhigh
        obtain ⟨es, hes, rfl⟩ := escapes_of_readLowSurrogate hds hhigh h
        exact ⟨ds ++ es, hes, (List.append_assoc ..).symm⟩
      · rename_i hhigh
        cases h
        have hlt := hds.lt
        simp only [isLowSurrogate, isHighSurrogate, Bool.not_eq_true, Bool.and_eq_false_iff,
          decide_eq_false_iff_not] at hlow hhigh
        have hn := toNat_ofNat_of_valid (n := n) (by omega)
        exact ⟨ds, .number (by rwa [hn]), rfl⟩

/-- What is read as an escape is one, of the character that is read. -/
theorem escapes_of_readEscape {text piece rest : Bytes} (h : readEscape text = .ok (piece, rest)) :
    ∃ c es, Escapes c es ∧ piece = String.utf8EncodeChar c ∧ text = es ++ rest := by
  unfold readEscape at h
  split at h
  · cases h
  · split at h
    · cases h
    · rename_i hread
      cases h
      obtain ⟨es, hes, rfl⟩ := escapes_of_readNumbered hread
      exact ⟨_, _, hes, rfl, rfl⟩
  · split at h
    · rename_i hshort
      cases h
      obtain ⟨p, hp, rfl, hpiece⟩ := letter_of_shortEscape? hshort
      exact ⟨p.2, _, .letter hp, hpiece, rfl⟩
    · cases h

/-! ## Contents -/

/-- The bytes that are gathered from what stands between the quotes. -/
inductive Gathered : Bytes → Bytes → Prop where
  | nil : Gathered [] []
  | literal {b : UInt8} {content out : Bytes} (h : isLiteral b = true)
      (tail : Gathered content out) : Gathered (b :: content) (b :: out)
  | escaped {c : Char} {es content out : Bytes} (h : Escapes c es) (tail : Gathered content out) :
      Gathered (backslash :: (es ++ content)) (String.utf8EncodeChar c ++ out)

theorem isLiteral_of_not {b : UInt8} (hcontrol : ¬ b < 0x20) (hquote : b ≠ quoteMark)
    (hback : b ≠ backslash) : isLiteral b = true := by
  simp only [isLiteral, Bool.and_eq_true, decide_eq_true_eq, bne_iff_ne]
  exact ⟨⟨UInt8.not_lt.1 hcontrol, hquote⟩, hback⟩

/-- The loop gathers up to the first quote that is not escaped. -/
theorem gathered_of_readContent {budget done text out rest : Bytes}
    (h : readContent budget done text = .ok (out, rest)) :
    ∃ content out', Gathered content out' ∧ out = done.reverse ++ out' ∧
      text = content ++ quoteMark :: rest := by
  induction budget generalizing done text with
  | nil => cases h
  | cons x budget ih =>
    unfold readContent at h
    split at h
    · cases h
    · cases h
      exact ⟨[], [], .nil, (List.append_nil _).symm, rfl⟩
    · split at h
      · cases h
      · rename_i piece text' hread
        obtain ⟨c, es, hes, rfl, rfl⟩ := escapes_of_readEscape hread
        obtain ⟨content, out', hcontent, rfl, rfl⟩ := ih h
        refine ⟨_, _, .escaped hes hcontent, ?_, ?_⟩
        · simp only [List.reverse_append, List.reverse_reverse, List.append_assoc]
        · rw [List.cons_append, List.append_assoc]
          rfl
    · rename_i b text' hquote hback
      split at h
      · cases h
      · rename_i hcontrol
        obtain ⟨content, out', hcontent, rfl, rfl⟩ := ih h
        refine ⟨_, _, .literal (isLiteral_of_not hcontrol hquote hback) hcontent, ?_, rfl⟩
        simp only [List.reverse_cons, List.append_assoc, List.singleton_append]

/-! ## Characters -/

/-- Of the bytes of a character only the first is one that a character begins with. -/
theorem exists_utf8EncodeChar_cons (c : Char) :
    ∃ b more, String.utf8EncodeChar c = b :: more ∧ b.IsUTF8FirstByte ∧
      ∀ x ∈ more, ¬ x.IsUTF8FirstByte := by
  have hiff (i : Nat) (hi : i < (String.utf8EncodeChar c).length) :
      (String.utf8EncodeChar c)[i].IsUTF8FirstByte ↔ i = 0 :=
    UInt8.isUTF8FirstByte_getElem_utf8EncodeChar
  have hne := String.utf8EncodeChar_ne_nil (c := c)
  generalize String.utf8EncodeChar c = piece at hiff hne
  cases piece with
  | nil => exact absurd rfl hne
  | cons b more =>
    refine ⟨b, more, rfl, (hiff 0 (Nat.succ_pos _)).2 rfl, fun x hx => ?_⟩
    obtain ⟨i, hi, rfl⟩ := List.getElem_of_mem hx
    exact fun hfirst => absurd ((hiff (i + 1) (Nat.succ_lt_succ hi)).1 hfirst) (Nat.succ_ne_zero i)

/-- A character is told by the bytes that it begins a text with. -/
theorem eq_of_encodeChar_append {c d : Char} {xs ys : Bytes}
    (h : String.utf8EncodeChar c ++ xs = String.utf8EncodeChar d ++ ys) : c = d ∧ xs = ys := by
  have hread := congrArg (Text.decodeFrom none) h
  rw [Text.decodeFrom_encodeChar, Text.decodeFrom_encodeChar, List.cons.injEq] at hread
  obtain ⟨rfl, -⟩ := hread
  exact ⟨rfl, List.append_cancel_left h⟩

/-- A character whose bytes all stand for themselves does so as well. -/
theorem spells_of_isLiteral {c : Char} (h : ∀ b ∈ String.utf8EncodeChar c, isLiteral b = true) :
    Spells c (String.utf8EncodeChar c) := by
  by_cases hc : c.toNat < 0x80
  · have hb := h (UInt8.ofNat c.toNat) (by rw [Text.utf8EncodeChar_ascii hc]; exact List.mem_cons_self)
    simp only [isLiteral, Bool.and_eq_true, decide_eq_true_eq, bne_iff_ne, ne_eq,
      UInt8.le_iff_toNat_le, Text.toNat_ofNat_ascii hc] at hb
    obtain ⟨⟨hlow, hquote⟩, hback⟩ := hb
    refine .plain hlow ?_ ?_
    · rintro rfl
      exact hquote rfl
    · rintro rfl
      exact hback rfl
  · refine .plain (by omega) ?_ ?_
    all_goals
      rintro rfl
      exact absurd (by decide) hc

/-- Bytes from inside a character are gathered one by one. -/
theorem Gathered.of_continued {more content out : Bytes}
    (hmore : ∀ x ∈ more, ¬ x.IsUTF8FirstByte) (h : Gathered content (more ++ out)) :
    ∃ content', content = more ++ content' ∧ (∀ x ∈ more, isLiteral x = true) ∧
      Gathered content' out := by
  induction more generalizing content with
  | nil => exact ⟨content, rfl, List.forall_mem_nil _, h⟩
  | cons x more ih =>
    obtain ⟨hx, hmore⟩ := List.forall_mem_cons.1 hmore
    rw [List.cons_append] at h
    generalize hout : x :: (more ++ out) = bs at h
    cases h with
    | nil => cases hout
    | literal hb tail =>
      cases hout
      obtain ⟨content', rfl, hliteral, hcontent⟩ := ih hmore tail
      exact ⟨content', rfl, List.forall_mem_cons.2 ⟨hb, hliteral⟩, hcontent⟩
    | @escaped c es content out' hes tail =>
      obtain ⟨b, rest, hc, hfirst, -⟩ := exists_utf8EncodeChar_cons c
      rw [hc, List.cons_append, List.cons.injEq] at hout
      exact absurd (hout.1 ▸ hfirst) hx

/-- If the bytes that are gathered are of a text, the pieces they come from spell it. -/
theorem Gathered.content {content : Bytes} {cs : List Char} (h : Gathered content (bytes cs)) :
    Content cs content := by
  induction cs generalizing content with
  | nil =>
    rw [Text.bytes_nil] at h
    generalize hout : ([] : Bytes) = out at h
    cases h with
    | nil => exact .nil
    | literal => cases hout
    | @escaped c =>
      exact absurd (List.append_eq_nil_iff.1 hout.symm).1 String.utf8EncodeChar_ne_nil
  | cons c cs ih =>
    rw [Text.bytes_cons] at h
    generalize hout : String.utf8EncodeChar c ++ bytes cs = out at h
    cases h with
    | nil => exact absurd (List.append_eq_nil_iff.1 hout).1 String.utf8EncodeChar_ne_nil
    | @literal b content out hb tail =>
      obtain ⟨b', more, hc, -, hmore⟩ := exists_utf8EncodeChar_cons c
      rw [hc, List.cons_append, List.cons.injEq] at hout
      obtain ⟨rfl, rfl⟩ := hout
      obtain ⟨content', rfl, hliteral, hcontent⟩ := tail.of_continued hmore
      have hspells := spells_of_isLiteral (c := c) (by
        rw [hc]
        exact List.forall_mem_cons.2 ⟨hb, hliteral⟩)
      rw [hc] at hspells
      exact .cons hspells (ih hcontent)
    | escaped hes tail =>
      obtain ⟨rfl, rfl⟩ := eq_of_encodeChar_append hout
      rw [← List.cons_append]
      exact .cons (.escaped hes) (ih tail)

/-- What is read as a string, its opening quote read, spells it up to the closing quote. -/
theorem content_of_readQuoted {text rest : Bytes} {s : String}
    (h : readQuoted text = .ok (s, rest)) :
    ∃ content, Content s.toList content ∧ text = content ++ quoteMark :: rest := by
  unfold readQuoted at h
  split at h
  · cases h
  · rename_i out rest' hread
    split at h
    · rename_i hutf8
      cases h
      obtain ⟨content, out, hcontent, rfl, rfl⟩ := gathered_of_readContent hread
      have hout : out = bytes s.toList := Text.eq_bytes_of_ofUtf8? hutf8
      rw [hout] at hcontent
      exact ⟨content, hcontent.content, rfl⟩
    · cases h

end Json
end Scoreline
