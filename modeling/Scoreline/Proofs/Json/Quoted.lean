import Scoreline.Proofs.Json.Lexis

/-!
# Scoreline.Proofs.Json.Quoted

The texts of a string, and what is read of them.

A character may stand for itself, or be escaped by a letter or by numbers (`Spells`); a string is a
sequence of such pieces between quotes (`Quoted`). Whichever of them a text is made of, the string is
read from it (`readQuoted_content`). One character is `readContent_spells`, and the string is by
induction on its characters; the budget of the loop is never shorter than the text that is left.

What is written is one of the texts of a string (`quoted_stringChars`).
-/

namespace Scoreline
namespace Json

open Text (bytes)

/-! ## Texts of a string -/

/-- A hexadecimal digit, small or capital. -/
inductive HexDigit : Nat → UInt8 → Prop where
  | small {n : Nat} (h : n < 16) : HexDigit n (UInt8.ofNat (Nat.digitChar n).toNat)
  | capital {n : Nat} (h : n < 16) : HexDigit n (UInt8.ofNat (Nat.digitChar n).toUpper.toNat)

/-- A number in four hexadecimal digits. -/
inductive Hex4 : Nat → Bytes → Prop where
  | digits {i j k l : Nat} {a b c d : UInt8} (ha : HexDigit i a) (hb : HexDigit j b)
      (hc : HexDigit k c) (hd : HexDigit l d) :
      Hex4 (((i * 16 + j) * 16 + k) * 16 + l) [a, b, c, d]

/-- The letters that escape a character, and the character. -/
def letters : List (Char × Char) :=
  [('"', '"'), ('\\', '\\'), ('/', '/'), ('b', '\x08'), ('f', '\x0c'), ('n', '\n'), ('r', '\r'),
   ('t', '\t')]

/-- An escape of a character, its backslash left out: a letter, its number, or a pair of numbers for
a character beyond the first 65536. -/
inductive Escapes (c : Char) : Bytes → Prop where
  | letter {e : Char} (h : (e, c) ∈ letters) : Escapes c [UInt8.ofNat e.toNat]
  | number {ds : Bytes} (h : Hex4 c.toNat ds) : Escapes c (lowerU :: ds)
  | pair {high low : Nat} {ds es : Bytes} (hhigh : Hex4 high ds) (hlow : Hex4 low es)
      (hhighs : 0xD800 ≤ high ∧ high ≤ 0xDBFF) (hlows : 0xDC00 ≤ low ∧ low ≤ 0xDFFF)
      (hc : c.toNat = 0x10000 + (high - 0xD800) * 0x400 + (low - 0xDC00)) :
      Escapes c (lowerU :: (ds ++ backslash :: lowerU :: es))

/-- A piece of a string that stands for a character. -/
inductive Spells (c : Char) : Bytes → Prop where
  | plain (hcontrol : 0x20 ≤ c.toNat) (hquote : c ≠ '"') (hback : c ≠ '\\') :
      Spells c (String.utf8EncodeChar c)
  | escaped {es : Bytes} (h : Escapes c es) : Spells c (backslash :: es)

/-- What stands between the quotes. -/
inductive Content : List Char → Bytes → Prop where
  | nil : Content [] []
  | cons {c : Char} {cs : List Char} {piece text : Bytes} (head : Spells c piece)
      (tail : Content cs text) : Content (c :: cs) (piece ++ text)

/-- A text of a string. -/
inductive Quoted (s : String) : Bytes → Prop where
  | quotes {content : Bytes} (h : Content s.toList content) :
      Quoted s (quoteMark :: (content ++ [quoteMark]))

/-! ## Escapes -/

theorem HexDigit.hexValue?_eq {n : Nat} {b : UInt8} (h : HexDigit n b) : hexValue? b = some n := by
  have hsmall : ∀ d, d < 16 → hexValue? (UInt8.ofNat (Nat.digitChar d).toNat) = some d := by decide
  have hcapital : ∀ d, d < 16 →
      hexValue? (UInt8.ofNat (Nat.digitChar d).toUpper.toNat) = some d := by decide
  cases h with
  | small h => exact hsmall n h
  | capital h => exact hcapital n h

theorem Hex4.readHex4_eq {n : Nat} {ds : Bytes} (h : Hex4 n ds) (rest : Bytes) :
    readHex4 (ds ++ rest) = .ok (n, rest) := by
  obtain ⟨ha, hb, hc, hd⟩ := h
  simp only [List.cons_append, List.nil_append, readHex4, ha.hexValue?_eq, hb.hexValue?_eq,
    hc.hexValue?_eq, hd.hexValue?_eq]

theorem isLowSurrogate_toNat (c : Char) : isLowSurrogate c.toNat = false := by
  have hvalid : c.toNat < 0xD800 ∨ 0xDFFF < c.toNat ∧ c.toNat < 0x110000 := c.valid
  simp only [isLowSurrogate, Bool.and_eq_false_iff, decide_eq_false_iff_not]
  omega

theorem isHighSurrogate_toNat (c : Char) : isHighSurrogate c.toNat = false := by
  have hvalid : c.toNat < 0xD800 ∨ 0xDFFF < c.toNat ∧ c.toNat < 0x110000 := c.valid
  simp only [isHighSurrogate, Bool.and_eq_false_iff, decide_eq_false_iff_not]
  omega

theorem readEscape_numbered (text : Bytes) :
    readEscape (lowerU :: text) =
      match readNumbered text with
      | .error p => .error p
      | .ok (c, rest) => .ok (String.utf8EncodeChar c, rest) := rfl

theorem readLowSurrogate_numbered (high : Nat) (text : Bytes) :
    readLowSurrogate high (backslash :: lowerU :: text) =
      match readHex4 text with
      | .error p => .error p
      | .ok (low, rest) =>
        if isLowSurrogate low then
          .ok (Char.ofNat (0x10000 + (high - 0xD800) * 0x400 + (low - 0xDC00)), rest)
        else .error (.breach .loneSurrogate) := rfl

/-- An escape is read as the character that it stands for. -/
theorem Escapes.readEscape_eq {c : Char} {es : Bytes} (h : Escapes c es) (rest : Bytes) :
    readEscape (es ++ rest) = .ok (String.utf8EncodeChar c, rest) := by
  cases h with
  | letter h =>
    simp only [letters, List.mem_cons, List.not_mem_nil, or_false, Prod.mk.injEq] at h
    rcases h with ⟨rfl, rfl⟩ | ⟨rfl, rfl⟩ | ⟨rfl, rfl⟩ | ⟨rfl, rfl⟩ | ⟨rfl, rfl⟩ | ⟨rfl, rfl⟩ |
      ⟨rfl, rfl⟩ | ⟨rfl, rfl⟩
    all_goals rfl
  | number h =>
    rw [List.cons_append, readEscape_numbered]
    simp only [readNumbered, h.readHex4_eq, isLowSurrogate_toNat, isHighSurrogate_toNat,
      Bool.false_eq_true, if_false, Char.ofNat_toNat]
  | @pair high low ds es hhigh hlow hhighs hlows hc =>
    have hnotLow : isLowSurrogate high = false := by
      simp only [isLowSurrogate, Bool.and_eq_false_iff, decide_eq_false_iff_not]
      omega
    have hisHigh : isHighSurrogate high = true := by
      simp only [isHighSurrogate, Bool.and_eq_true, decide_eq_true_eq]
      exact hhighs
    have hisLow : isLowSurrogate low = true := by
      simp only [isLowSurrogate, Bool.and_eq_true, decide_eq_true_eq]
      exact hlows
    rw [List.cons_append, List.append_assoc, readEscape_numbered]
    simp only [readNumbered, hhigh.readHex4_eq, hnotLow, hisHigh, Bool.false_eq_true, if_false,
      if_true, List.cons_append, readLowSurrogate_numbered, hlow.readHex4_eq, hisLow, ← hc,
      Char.ofNat_toNat]

/-! ## Pieces -/

/-- Whether a byte stands for itself in a string. -/
def isLiteral (b : UInt8) : Bool := 0x20 ≤ b && b != quoteMark && b != backslash

theorem readContent_literal {b : UInt8} (h : isLiteral b = true) (x : UInt8)
    (budget done rest : Bytes) :
    readContent (x :: budget) done (b :: rest) = readContent budget (b :: done) rest := by
  simp only [isLiteral, Bool.and_eq_true, decide_eq_true_eq, bne_iff_ne, ne_eq] at h
  obtain ⟨⟨hlow, hquote⟩, hback⟩ := h
  rw [readContent]
  · rw [if_neg (UInt8.not_lt.2 hlow)]
  · exact hquote
  · exact hback

theorem readContent_literals {bs : Bytes} (h : ∀ b ∈ bs, isLiteral b = true)
    (budget done rest : Bytes) (hlen : (bs ++ rest).length ≤ budget.length) :
    ∃ left, rest.length ≤ left.length ∧
      readContent budget done (bs ++ rest) = readContent left (bs.reverse ++ done) rest := by
  induction bs generalizing budget done with
  | nil => exact ⟨budget, hlen, rfl⟩
  | cons b bs ih =>
    cases budget with
    | nil => simp at hlen
    | cons x budget =>
      obtain ⟨left, hleft, heq⟩ := ih (fun c hc => h c (List.mem_cons_of_mem _ hc)) budget
        (b :: done) (by simpa using hlen)
      refine ⟨left, hleft, ?_⟩
      rw [List.cons_append, readContent_literal (h b List.mem_cons_self), heq, List.reverse_cons,
        List.append_assoc, List.singleton_append]

/-- Every byte of a character that is not escaped stands for itself. -/
theorem isLiteral_of_mem {c : Char} (hlow : 0x20 ≤ c.toNat) (hquote : c ≠ '"') (hback : c ≠ '\\')
    {b : UInt8} (hb : b ∈ String.utf8EncodeChar c) : isLiteral b = true := by
  have hlit : ∀ b : UInt8, 32 ≤ b.toNat → b.toNat ≠ 34 → b.toNat ≠ 92 → isLiteral b = true := by
    intro b h1 h2 h3
    simp only [isLiteral, Bool.and_eq_true, decide_eq_true_eq, bne_iff_ne, ne_eq,
      UInt8.le_iff_toNat_le, ← UInt8.toNat_inj]
    exact ⟨⟨h1, h2⟩, h3⟩
  by_cases hc : c.toNat < 0x80
  · rw [Text.utf8EncodeChar_ascii hc, List.mem_singleton] at hb
    rw [hb]
    have hne (d : Char) (hd : c ≠ d) : c.toNat ≠ d.toNat := fun heq => hd (Char.toNat_inj.1 heq)
    have := hne '"' hquote
    have := hne '\\' hback
    apply hlit <;> rw [Text.toNat_ofNat_ascii hc] <;> assumption
  · have := Text.beyond_ascii_of_mem (by omega) hb
    exact hlit b (by omega) (by omega) (by omega)

theorem readContent_quoteMark (x : UInt8) (budget done rest : Bytes) :
    readContent (x :: budget) done (quoteMark :: rest) = .ok (done.reverse, rest) := rfl

theorem readContent_backslash (x : UInt8) (budget done text : Bytes) :
    readContent (x :: budget) done (backslash :: text) =
      match readEscape text with
      | .error p => .error p
      | .ok (piece, rest) => readContent budget (piece.reverse ++ done) rest := rfl

/-- A piece is read as its character, and costs no more of the budget than it takes of the text. -/
theorem readContent_spells {c : Char} {piece : Bytes} (h : Spells c piece)
    (budget done rest : Bytes) (hlen : (piece ++ rest).length ≤ budget.length) :
    ∃ left, rest.length ≤ left.length ∧
      readContent budget done (piece ++ rest) =
        readContent left ((String.utf8EncodeChar c).reverse ++ done) rest := by
  cases h with
  | plain hcontrol hquote hback =>
    exact readContent_literals (fun b hb => isLiteral_of_mem hcontrol hquote hback hb) budget done
      rest hlen
  | escaped h =>
    rw [List.cons_append] at hlen ⊢
    cases budget with
    | nil => simp at hlen
    | cons x budget =>
      refine ⟨budget, ?_, ?_⟩
      · simp only [List.length_cons, List.length_append] at hlen
        omega
      · rw [readContent_backslash, h.readEscape_eq]

theorem readContent_content {cs : List Char} {content : Bytes} (h : Content cs content)
    (budget done rest : Bytes) (hlen : (content ++ quoteMark :: rest).length ≤ budget.length) :
    readContent budget done (content ++ quoteMark :: rest) =
      .ok (done.reverse ++ bytes cs, rest) := by
  induction h generalizing budget done with
  | nil =>
    cases budget with
    | nil => simp at hlen
    | cons x budget =>
      rw [Text.bytes_nil, List.nil_append, readContent_quoteMark, List.append_nil]
  | @cons c cs piece text head tail ih =>
    rw [List.append_assoc] at hlen ⊢
    -- of the budget only its length counts, so the hypothesis is needed for any that is left
    obtain ⟨left, hleft, heq⟩ := readContent_spells head budget done _ hlen
    rw [heq, ih left _ hleft, Text.bytes_cons, List.reverse_append, List.reverse_reverse,
      List.append_assoc]

/-- A string is read from any text of it, its opening quote read. -/
theorem readQuoted_content {s : String} {content : Bytes} (h : Content s.toList content)
    (rest : Bytes) : readQuoted (content ++ quoteMark :: rest) = .ok (s, rest) := by
  rw [readQuoted, readContent_content h _ _ _ (Nat.le_refl _)]
  simp only [List.reverse_nil, List.nil_append, Text.ofUtf8?_bytes, String.ofList_toList]

/-- After its opening quote a text of a string is read as the string. -/
theorem Quoted.exists_inside {s : String} {text : Bytes} (h : Quoted s text) :
    ∃ inside, text = quoteMark :: inside ∧ ∀ rest, readQuoted (inside ++ rest) = .ok (s, rest) := by
  obtain ⟨hcontent⟩ := h
  refine ⟨_, rfl, fun rest => ?_⟩
  rw [List.append_assoc, List.singleton_append, readQuoted_content hcontent]

/-! ## Written strings -/

theorem hexDigit_hexDigit (n : Nat) : HexDigit (n % 16) (UInt8.ofNat (hexDigit n).toNat) :=
  .small (Nat.mod_lt n (by omega))

theorem bytes_hexDigit (n : Nat) (cs : List Char) :
    bytes (hexDigit n :: cs) = UInt8.ofNat (hexDigit n).toNat :: bytes cs := by
  have hall : ∀ d, d < 16 → (Nat.digitChar d).toNat < 0x80 := by decide
  exact Text.bytes_cons_ascii (hall _ (Nat.mod_lt n (by omega))) cs

/-- The number of a control, as it is written. -/
theorem hex4_control {n : Nat} (h : n < 0x20) :
    Hex4 n [0x30, 0x30, UInt8.ofNat (hexDigit (n / 16)).toNat, UInt8.ofNat (hexDigit n).toNat] := by
  have hzero : HexDigit 0 0x30 := .small (by decide)
  have hn : ((0 * 16 + 0) * 16 + n / 16 % 16) * 16 + n % 16 = n := by omega
  have hdigits := Hex4.digits hzero hzero (hexDigit_hexDigit (n / 16)) (hexDigit_hexDigit n)
  rwa [hn] at hdigits

/-- A character is written as a piece that stands for it. -/
theorem spells_escapeChar (c : Char) : Spells c (bytes (escapeChar c)) := by
  unfold escapeChar
  split
  -- the seven characters with an escape of one letter
  all_goals try exact .escaped (.letter (by decide))
  rename_i hquote hback _ _ _ _ _
  by_cases hcontrol : c.toNat < 0x20
  · rw [if_pos hcontrol]
    iterate 4 rw [Text.bytes_cons_ascii (by decide)]
    rw [bytes_hexDigit, bytes_hexDigit]
    exact .escaped (.number (hex4_control hcontrol))
  · rw [if_neg hcontrol, Text.bytes_cons, Text.bytes_nil, List.append_nil]
    exact .plain (by omega) hquote hback

theorem content_flatMap (cs : List Char) : Content cs (bytes (cs.flatMap escapeChar)) := by
  induction cs with
  | nil => exact .nil
  | cons c cs ih =>
    rw [List.flatMap_cons, Text.bytes_append]
    exact .cons (spells_escapeChar c) ih

theorem bytes_stringChars (s : String) (rest : Bytes) :
    bytes (stringChars s) ++ rest =
      quoteMark :: (bytes (s.toList.flatMap escapeChar) ++ quoteMark :: rest) := by
  have hclose : bytes ['"'] = [quoteMark] := rfl
  rw [stringChars, List.cons_append, Text.bytes_cons_ascii (by decide), Text.bytes_append, hclose,
    List.cons_append, List.append_assoc, List.singleton_append]
  rfl

/-- What is written is a text of the string. -/
theorem quoted_stringChars (s : String) : Quoted s (bytes (stringChars s)) := by
  rw [← List.append_nil (bytes (stringChars s)), bytes_stringChars]
  exact .quotes (content_flatMap s.toList)

end Json
end Scoreline
