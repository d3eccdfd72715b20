import Scoreline.Proofs.Json.Passing

/-!
# Scoreline.Proofs.Json.Numerals

A number is read from its own text, and nothing that follows it has a say in it
(`magnitude_of_readMagnitude`). Each part of a number is taken up to where its digits end, so the reader
finds the same digits again when something else follows.
-/

namespace Scoreline
namespace Json

theorem realNumber_eq_ok {negative : Bool} {s : Nat} {e : Int} {text rest : Bytes} {n : Number}
    (h : realNumber negative s e text = .ok (n, rest)) :
    text = rest ∧ ∀ rest', realNumber negative s e rest' = .ok (n, rest') := by
  unfold realNumber at h
  split at h
  · cases h
  · rename_i hscale
    cases h
    exact ⟨rfl, fun rest' => by rw [realNumber, hscale]⟩

section Numbers

variable {negative : Bool} {s : Nat} {e : Int} {n : Number} {text rest : Bytes}

/-! ## Exponents -/

/-- What the digits of an exponent say. -/
def powerOf (digits : Bytes) : Int :=
  digits.foldl (fun n d => n * 10 + (d.toNat - 0x30 : Nat)) 0

/-- The number behind the sign of an exponent. -/
def readPower (negative : Bool) (s : Nat) (e : Int) (down : Bool) (text : Bytes) :
    Except Problem (Number × Bytes) :=
  match text with
  | [] => .error (.ended .value)
  | d :: _ =>
    if isDigit d then
      let n := powerOf (text.takeWhile isDigit)
      realNumber negative s (if down then e - n else e + n) (text.dropWhile isDigit)
    else .error (.breach .number)

theorem readExponent_plain (hplus : ∀ rest, text ≠ plus :: rest)
    (hminus : ∀ rest, text ≠ minus :: rest) :
    readExponent negative s e text = readPower negative s e false text := by
  unfold readExponent
  split
  rename_i heq
  split at heq
  · exact absurd rfl (hplus _)
  · exact absurd rfl (hminus _)
  · cases heq
    rfl

theorem readPower_digits {d : UInt8} {ds : Bytes} {down : Bool} (hd : isDigit d = true)
    (hds : ∀ b ∈ ds, isDigit b = true) (hrest : EndsDigits rest) :
    readPower negative s e down (d :: (ds ++ rest)) =
      realNumber negative s (if down then e - powerOf (d :: ds) else e + powerOf (d :: ds)) rest := by
  obtain ⟨htake, hdrop⟩ := span_digits (List.forall_mem_cons.2 ⟨hd, hds⟩) hrest
  rw [List.cons_append] at htake hdrop
  rw [readPower, if_pos hd, htake, hdrop]

theorem digits_of_readPower {down : Bool} (h : readPower negative s e down text = .ok (n, rest)) :
    ∃ d ds, isDigit d = true ∧ (∀ b ∈ ds, isDigit b = true) ∧ text = d :: (ds ++ rest) ∧
      ∀ rest', EndsDigits rest' →
        readPower negative s e down (d :: (ds ++ rest')) = .ok (n, rest') := by
  cases text with
  | nil => cases h
  | cons d text =>
    by_cases hd : isDigit d = true
    · obtain ⟨ds, tail, hds, htail, rfl⟩ := exists_digits text
      rw [readPower_digits hd hds htail] at h
      obtain ⟨rfl, hagain⟩ := realNumber_eq_ok h
      exact ⟨d, ds, hd, hds, rfl, fun rest' hrest' => by rw [readPower_digits hd hds hrest', hagain]⟩
    · rw [readPower, if_neg hd] at h
      cases h

/-- Behind its mark an exponent is read from its own text. -/
theorem exponent_of_readExponent {mark : UInt8} (hmark : mark = lowerE ∨ mark = upperE)
    (h : readExponent negative s e text = .ok (n, rest)) :
    ∃ used, Exponent (mark :: used) ∧ text = used ++ rest ∧
      ∀ rest', EndsDigits rest' → readExponent negative s e (used ++ rest') = .ok (n, rest') := by
  have hsigned {sign text : Bytes} {down : Bool} (hsign : sign = [] ∨ sign = [plus] ∨ sign = [minus])
      (hread : ∀ d ds, isDigit d = true → readExponent negative s e (sign ++ d :: ds) =
        readPower negative s e down (d :: ds))
      (h : readPower negative s e down text = .ok (n, rest)) :
      ∃ used, Exponent (mark :: used) ∧ sign ++ text = used ++ rest ∧
        ∀ rest', EndsDigits rest' →
          readExponent negative s e (used ++ rest') = .ok (n, rest') := by
    obtain ⟨d, ds, hd, hds, rfl, hagain⟩ := digits_of_readPower h
    refine ⟨_, .some hmark hsign hd hds, ?_, fun rest' hrest' => ?_⟩
    · rw [List.append_assoc, List.cons_append]
    · rw [List.append_assoc, List.cons_append, hread d _ hd, hagain rest' hrest']
  have hplain (d : UInt8) (ds : Bytes) (hd : isDigit d = true) :
      readExponent negative s e (d :: ds) = readPower negative s e false (d :: ds) := by
    refine readExponent_plain ?_ ?_
    all_goals
      rintro rest ⟨⟩
      exact absurd hd (by decide)
  by_cases hplus : ∃ text', text = plus :: text'
  · obtain ⟨text', rfl⟩ := hplus
    exact hsigned (.inr (.inl rfl)) (fun d ds _ => rfl) h
  by_cases hminus : ∃ text', text = minus :: text'
  · obtain ⟨text', rfl⟩ := hminus
    exact hsigned (.inr (.inr rfl)) (fun d ds _ => rfl) h
  rw [readExponent_plain (fun t ht => hplus ⟨t, ht⟩) (fun t ht => hminus ⟨t, ht⟩)] at h
  exact hsigned (.inl rfl) hplain h

/-! ## Fractions -/

/-- The number behind the digits of a fraction. -/
def readPast (negative : Bool) (s : Nat) (e : Int) (text : Bytes) :
    Except Problem (Number × Bytes) :=
  match text with
  | lowerE :: rest | upperE :: rest => readExponent negative s e rest
  | rest => realNumber negative s e rest

theorem exponent_of_readPast (h : readPast negative s e text = .ok (n, rest)) :
    ∃ used, Exponent used ∧ text = used ++ rest ∧
      ∀ rest', EndsNumber rest' → readPast negative s e (used ++ rest') = .ok (n, rest') := by
  unfold readPast at h
  split at h
  · obtain ⟨used, hused, rfl, hagain⟩ := exponent_of_readExponent (.inl rfl) h
    exact ⟨_, hused, rfl, fun rest' hrest' => hagain rest' hrest'.endsDigits⟩
  · obtain ⟨used, hused, rfl, hagain⟩ := exponent_of_readExponent (.inr rfl) h
    exact ⟨_, hused, rfl, fun rest' hrest' => hagain rest' hrest'.endsDigits⟩
  · obtain ⟨rfl, hagain⟩ := realNumber_eq_ok h
    refine ⟨[], .none, rfl, fun rest' hrest' => ?_⟩
    rw [List.nil_append, readPast]
    · exact hagain rest'
    · rintro text rfl
      exact (hrest' lowerE rfl).2.2.1 rfl
    · rintro text rfl
      exact (hrest' upperE rfl).2.2.2 rfl

theorem readFraction_digits {d : UInt8} {ds : Bytes} (hd : isDigit d = true)
    (hds : ∀ b ∈ ds, isDigit b = true) (hrest : EndsDigits rest) :
    readFraction negative s e (d :: (ds ++ rest)) =
      readPast negative (gather s (d :: ds)).1
        (e - (((d :: ds).length - (gather s (d :: ds)).2 : Nat) : Int)) rest := by
  obtain ⟨htake, hdrop⟩ := span_digits (List.forall_mem_cons.2 ⟨hd, hds⟩) hrest
  rw [List.cons_append] at htake hdrop
  unfold readFraction
  simp only [htake, hdrop]
  rfl

theorem fraction_of_readFraction (h : readFraction negative s e text = .ok (n, rest)) :
    ∃ f x, Fraction (point :: f) ∧ Exponent x ∧ text = f ++ (x ++ rest) ∧
      ∀ rest', EndsNumber rest' →
        readFraction negative s e (f ++ (x ++ rest')) = .ok (n, rest') := by
  obtain ⟨ds, tail, hds, htail, rfl⟩ := exists_digits text
  cases ds with
  | nil =>
    have htake := (span_digits (List.forall_mem_nil _) htail).1
    unfold readFraction at h
    simp only [htake] at h
    split at h
    · cases h
    · cases h
    · rename_i heq
      cases heq
  | cons d ds =>
    obtain ⟨hd, hds⟩ := List.forall_mem_cons.1 hds
    rw [List.cons_append, readFraction_digits hd hds htail] at h
    obtain ⟨x, hx, rfl, hagain⟩ := exponent_of_readPast h
    refine ⟨_, x, .some hd hds, hx, rfl, fun rest' hrest' => ?_⟩
    rw [List.cons_append, readFraction_digits hd hds (hx.endsDigits hrest'), hagain rest' hrest']

/-! ## Numbers -/

theorem wholeNumber_eq_ok (h : wholeNumber negative s text = .ok (n, rest)) :
    text = rest ∧ ∀ rest', wholeNumber negative s rest' = .ok (n, rest') := by
  unfold wholeNumber at h
  split at h
  · rename_i hneg
    split at h
    · rename_i hreal
      obtain ⟨rfl, hagain⟩ := realNumber_eq_ok h
      exact ⟨rfl, fun rest' => by rw [wholeNumber, if_pos hneg, if_pos hreal, hagain]⟩
    · rename_i hreal
      cases h
      exact ⟨rfl, fun rest' => by rw [wholeNumber, if_pos hneg, if_neg hreal]⟩
  · rename_i hneg
    cases h
    exact ⟨rfl, fun rest' => by rw [wholeNumber, if_neg hneg]⟩

theorem tail_of_readTail {left : Nat} (h : readTail negative s left text = .ok (n, rest)) :
    ∃ f x, Fraction f ∧ Exponent x ∧ text = f ++ (x ++ rest) ∧
      ∀ rest', EndsNumber rest' → readTail negative s left (f ++ (x ++ rest')) = .ok (n, rest') := by
  unfold readTail at h
  split at h
  · obtain ⟨f, x, hf, hx, rfl, hagain⟩ := fraction_of_readFraction h
    exact ⟨_, x, hf, hx, rfl, hagain⟩
  · obtain ⟨used, hused, rfl, hagain⟩ := exponent_of_readExponent (.inl rfl) h
    exact ⟨[], _, .none, hused, rfl, fun rest' hrest' => hagain rest' hrest'.endsDigits⟩
  · obtain ⟨used, hused, rfl, hagain⟩ := exponent_of_readExponent (.inr rfl) h
    exact ⟨[], _, .none, hused, rfl, fun rest' hrest' => hagain rest' hrest'.endsDigits⟩
  · split at h
    · rename_i hleft
      obtain ⟨rfl, hagain⟩ := wholeNumber_eq_ok h
      refine ⟨[], [], .none, .none, rfl, fun rest' hrest' => ?_⟩
      rw [List.nil_append, List.nil_append, readTail_of_endsNumber negative s left hrest',
        if_pos hleft, hagain]
    · rename_i hleft
      obtain ⟨rfl, hagain⟩ := realNumber_eq_ok h
      refine ⟨[], [], .none, .none, rfl, fun rest' hrest' => ?_⟩
      rw [List.nil_append, List.nil_append, readTail_of_endsNumber negative s left hrest',
        if_neg hleft, hagain]

/-- A number is read from its own text, whatever follows that it could end at. -/
theorem magnitude_of_readMagnitude (h : readMagnitude negative text = .ok (n, rest)) :
    ∃ used, Magnitude used ∧ text = used ++ rest ∧
      ∀ rest', EndsNumber rest' → readMagnitude negative (used ++ rest') = .ok (n, rest') := by
  cases text with
  | nil => cases h
  | cons d text =>
    by_cases hzero : d = zero
    · subst hzero
      have hends : EndsDigits text := by
        intro b hb
        obtain ⟨text', rfl⟩ := List.head?_eq_some_iff.1 hb
        rw [readMagnitude_zero_cons] at h
        split at h
        · cases h
        · exact Bool.eq_false_iff.2 ‹_›
      rw [readMagnitude_zero negative hends] at h
      obtain ⟨f, x, hf, hx, rfl, hagain⟩ := tail_of_readTail h
      refine ⟨_, .zero hf hx, ?_, fun rest' hrest' => ?_⟩
      · rw [List.cons_append, List.append_assoc]
      · rw [List.cons_append, List.append_assoc,
          readMagnitude_zero negative (hf.endsDigits hx hrest'), hagain rest' hrest']
    · by_cases hd : isDigit d = true
      · obtain ⟨ds, tail, hds, htail, rfl⟩ := exists_digits text
        rw [readMagnitude_digits negative hd hzero hds htail] at h
        obtain ⟨f, x, hf, hx, rfl, hagain⟩ := tail_of_readTail h
        refine ⟨_, .digits hd hzero hds hf hx, ?_, fun rest' hrest' => ?_⟩
        · simp only [List.cons_append, List.append_assoc]
        · simp only [List.cons_append, List.append_assoc]
          rw [readMagnitude_digits negative hd hzero hds (hf.endsDigits hx hrest'),
            hagain rest' hrest']
      · rw [readMagnitude, if_neg hd] at h
        · cases h
        · exact hzero

end Numbers

end Json
end Scoreline
