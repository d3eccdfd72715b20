import Scoreline.Proofs.Text.Parts
import Scoreline.Proofs.Url.Percent
import Scoreline.Url.Address

/-!
# Scoreline.Proofs.Url.Address

What a path put behind a base does to an address.

* `Address.IsSettled` — the paths meant: the parser takes in all of their characters, finds no query
  in them and resolves none of their segments. ASCII letters, digits, `-`, `_` and slashes make such
  paths (`isPathChar`), and so do segments that are neither `.` nor `..` and hold none of the
  characters with a meaning of their own (`isSteady_encode`).
* `Address.parse_append` — the scheme and the host are those of the base, and the path stands
  behind whatever follows the host.
* `Address.path_append` — so does its normal form (`Address.spelled`): behind the same characters
  (the mount) for all paths of one base. Dots of the base are resolved among themselves, since the
  path has none.
* `Address.path_snoc` — the mount is the path of the base itself, but for a slash at its end.
-/

namespace Scoreline
namespace Url

/-! ## Characters of a path -/

/-- Whether a character stands in a path for itself, or is a slash. -/
def isPathChar (c : Char) : Bool := c.isAlphanum || ['-', '_', '/'].contains c

theorem toNat_lt_of_isPathChar {c : Char} (h : isPathChar c = true) : c.toNat < 128 := by
  have hval : c.toNat = c.val.toNat := rfl
  rw [isPathChar, Bool.or_eq_true, List.contains_iff_mem] at h
  rcases h with h | h
  · have hranges : (decide ('A'.val ≤ c.val ∧ c.val ≤ 'Z'.val) ||
        (decide ('a'.val ≤ c.val) && decide (c.val ≤ 'z'.val)) ||
        (decide ('0'.val ≤ c.val) && decide (c.val ≤ '9'.val))) = true := h
    have hupper : 'Z'.val.toNat = 90 := rfl
    have hlower : 'z'.val.toNat = 122 := rfl
    have hdigit : '9'.val.toNat = 57 := rfl
    simp only [Bool.or_eq_true, Bool.and_eq_true, decide_eq_true_eq,
      UInt32.le_iff_toNat_le] at hranges
    omega
  · simp only [List.mem_cons, List.not_mem_nil, or_false] at h
    rcases h with rfl | rfl | rfl <;> decide

/-- What every part of an address makes of such a character. -/
theorem isPathChar_spec {c : Char} (h : isPathChar c = true) :
    isOuter c = false ∧ Address.isPathEnd c = false ∧ keptInPath c = true ∧
      (isSlash c = true → c = '/') ∧ c.toLower ≠ '.' ∧ c.toLower ≠ '%' := by
  -- these characters are below 128, where each of them can be looked at
  have hall : ∀ n, n < 128 → isPathChar (Char.ofNat n) = true →
      isOuter (Char.ofNat n) = false ∧ Address.isPathEnd (Char.ofNat n) = false ∧
        keptInPath (Char.ofNat n) = true ∧ (isSlash (Char.ofNat n) = true → Char.ofNat n = '/') ∧
        (Char.ofNat n).toLower ≠ '.' ∧ (Char.ofNat n).toLower ≠ '%' := by decide
  have hc := hall c.toNat (toNat_lt_of_isPathChar h)
  rw [Char.ofNat_toNat] at hc
  exact hc h

namespace Address

/-! ## Segments and paths that stay as they are -/

/-- A segment that stays where it is. -/
def IsSteady (segment : List Char) : Prop := isDot segment = false ∧ isDoubleDot segment = false

theorem isSteady_of_isPathChar {segment : List Char} (h : ∀ c ∈ segment, isPathChar c = true) :
    IsSteady segment := by
  have hmem (d : Char) (hd : d = '.' ∨ d = '%') : d ∉ segment.map Char.toLower := by
    intro hmap
    obtain ⟨c, hc, rfl⟩ := List.mem_map.1 hmap
    obtain ⟨-, -, -, -, hdot, hpercent⟩ := isPathChar_spec (h c hc)
    exact hd.elim hdot hpercent
  have hdot := hmem '.' (.inl rfl)
  have hpercent := hmem '%' (.inr rfl)
  constructor
  · simp only [isDot, List.contains_eq_mem, decide_eq_false_iff_not]
    intro hin
    simp only [List.mem_cons, List.not_mem_nil, or_false] at hin
    rcases hin with heq | heq <;> rw [heq] at hdot hpercent <;> simp at hdot hpercent
  · simp only [isDoubleDot, List.contains_eq_mem, decide_eq_false_iff_not]
    intro hin
    simp only [List.mem_cons, List.not_mem_nil, or_false] at hin
    rcases hin with heq | heq | heq | heq <;> rw [heq] at hdot hpercent <;>
      simp at hdot hpercent

theorem toLower_cases (c : Char) : c.toLower = c ∨ ∃ n, n < 26 ∧ c = Char.ofNat (65 + n) := by
  unfold Char.toLower
  by_cases h : 'A'.val ≤ c.val ∧ c.val ≤ 'Z'.val
  · have hlow : 65 ≤ c.toNat := h.1
    have hhigh : c.toNat ≤ 90 := h.2
    refine .inr ⟨c.toNat - 65, by omega, ?_⟩
    rw [show 65 + (c.toNat - 65) = c.toNat by omega, Char.ofNat_toNat]
  · exact .inl (dif_neg h)

/-- A sign that is no small letter comes of itself alone. -/
theorem eq_of_toLower_eq {c d : Char} (h : c.toLower = d)
    (hd : ∀ n, n < 26 → (Char.ofNat (65 + n)).toLower ≠ d) : c = d := by
  rcases toLower_cases c with hc | ⟨n, hn, rfl⟩
  · exact hc.symm.trans h
  · exact absurd h (hd n hn)

/-- A dot, as it is or encoded. -/
theorem decode_dot {t : List Char}
    (h : t.map Char.toLower = ['.'] ∨ t.map Char.toLower = ['%', '2', 'e']) (rest : List Char) :
    decode (t ++ rest) = 0x2E :: decode rest := by
  rcases h with h | h
  · obtain ⟨a, rfl, ha⟩ := List.map_eq_singleton_iff.1 h
    rw [eq_of_toLower_eq ha (by decide)]
    exact decode_cons (by decide) rest
  · obtain ⟨a, t₁, rfl, ha, h⟩ := List.map_eq_cons_iff.1 h
    obtain ⟨b, t₂, rfl, hb, h⟩ := List.map_eq_cons_iff.1 h
    obtain ⟨c, rfl, hc⟩ := List.map_eq_singleton_iff.1 h
    have hdigit : hexDigit? c = some 14 := by
      rcases toLower_cases c with hlower | ⟨n, hn, rfl⟩
      · rw [← hlower, hc]
        rfl
      · have hall : ∀ n, n < 26 → (Char.ofNat (65 + n)).toLower = 'e' →
            hexDigit? (Char.ofNat (65 + n)) = some 14 := by decide
        exact hall n hn hc
    rw [eq_of_toLower_eq ha (by decide), eq_of_toLower_eq hb (by decide)]
    exact decode_percent (m := 2) rfl hdigit rest

theorem decode_of_isDot {t : List Char} (h : isDot t = true) : decode t = Text.bytes ['.'] := by
  simp only [isDot, List.contains_eq_mem, decide_eq_true_eq, List.mem_cons, List.not_mem_nil,
    or_false] at h
  have hdecode := decode_dot h []
  rw [List.append_nil] at hdecode
  exact hdecode

theorem decode_of_isDoubleDot {t : List Char} (h : isDoubleDot t = true) :
    decode t = Text.bytes ['.', '.'] := by
  have hparts : ∃ x y, t.map Char.toLower = x ++ y ∧ (x = ['.'] ∨ x = ['%', '2', 'e']) ∧
      (y = ['.'] ∨ y = ['%', '2', 'e']) := by
    simp only [isDoubleDot, List.contains_eq_mem, decide_eq_true_eq, List.mem_cons,
      List.not_mem_nil, or_false] at h
    rcases h with h | h | h | h
    · exact ⟨['.'], ['.'], h, .inl rfl, .inl rfl⟩
    · exact ⟨['.'], ['%', '2', 'e'], h, .inl rfl, .inr rfl⟩
    · exact ⟨['%', '2', 'e'], ['.'], h, .inr rfl, .inl rfl⟩
    · exact ⟨['%', '2', 'e'], ['%', '2', 'e'], h, .inr rfl, .inr rfl⟩
  obtain ⟨x, y, hmap, hx, hy⟩ := hparts
  obtain ⟨t₁, t₂, rfl, rfl, rfl⟩ := List.map_eq_append_iff.1 hmap
  have hlast := decode_dot hy []
  rw [List.append_nil] at hlast
  rw [decode_dot hx, hlast]
  rfl

/-- A text that is no dots stays where it is, unless a percent sign in it makes them. -/
theorem isSteady_encode {s : List Char} (hpercent : '%' ∉ s) (hdot : s ≠ ['.'])
    (hdouble : s ≠ ['.', '.']) : IsSteady (encode keptInPath s) := by
  have hdecode : decode (encode keptInPath s) = Text.bytes s :=
    decode_encode fun c hc _ heq => hpercent (heq ▸ hc)
  constructor
  · rw [Bool.eq_false_iff]
    intro h
    exact hdot (Text.bytes_inj (hdecode.symm.trans (decode_of_isDot h)))
  · rw [Bool.eq_false_iff]
    intro h
    exact hdouble (Text.bytes_inj (hdecode.symm.trans (decode_of_isDoubleDot h)))

/-- A path, without its first slash, that an address takes in as a whole: the parser passes over
nothing in it, not even at its end, and no query begins in it; and no segment of it is resolved. -/
structure IsSettled (q : List Char) : Prop where
  passed : ∀ c ∈ q, isPassedOver c = false
  last : ∀ c ∈ q.getLast?, isOuter c = false
  ends : ∀ c ∈ q, isPathEnd c = false
  steady : ∀ s ∈ Text.splitBy isSlash q, IsSteady (encode keptInPath s)

/-- The normal form of such a path, with its first slash. -/
def spelled (q : List Char) : List Char :=
  ((Text.splitBy isSlash q).map (encode keptInPath)).flatMap ('/' :: ·)

theorem isOuter_getLast?_append (s : List Char) {q : List Char}
    (h : ∀ c ∈ q.getLast?, isOuter c = false) :
    ∀ c ∈ (s ++ '/' :: q).getLast?, isOuter c = false := by
  intro c hc
  rw [List.getLast?_append, List.getLast?_cons, Option.some_or, Option.mem_def,
    Option.some.injEq] at hc
  subst hc
  cases hend : q.getLast? with
  | none => rfl
  | some d => exact h d hend

/-- A text stands for itself before a path that does, even if there is a blank at its end. -/
theorem IsSettled.append {s q : List Char} (hpassed : ∀ c ∈ s, isPassedOver c = false)
    (hends : ∀ c ∈ s, isPathEnd c = false)
    (hsteady : ∀ part ∈ Text.splitBy isSlash s, IsSteady (encode keptInPath part))
    (hq : IsSettled q) : IsSettled (s ++ '/' :: q) where
  passed := List.forall_mem_append.2 ⟨hpassed, List.forall_mem_cons.2 ⟨rfl, hq.passed⟩⟩
  last := isOuter_getLast?_append s hq.last
  ends := List.forall_mem_append.2 ⟨hends, List.forall_mem_cons.2 ⟨rfl, hq.ends⟩⟩
  steady part hpart := by
    rw [Text.splitBy_append rfl, List.mem_append] at hpart
    exact hpart.elim (hsteady part) (hq.steady part)

section PathChars

variable {q : List Char} (hq : ∀ c ∈ q, isPathChar c = true)
include hq

theorem map_encode_of_isPathChar :
    (Text.splitBy isSlash q).map (encode keptInPath) = Text.splitBy isSlash q := by
  have hid : ∀ s ∈ Text.splitBy isSlash q, encode keptInPath s = id s := fun s hs =>
    encode_of_kept fun c hc => (isPathChar_spec (hq c (Text.mem_of_mem_splitBy hs c hc))).2.2.1
  rw [List.map_congr_left hid, List.map_id]

theorem isSettled_of_isPathChar : IsSettled q where
  passed c hc := by
    have houter := (isPathChar_spec (hq c hc)).1
    simp only [isOuter, decide_eq_false_iff_not] at houter
    simp only [isPassedOver, Bool.or_eq_false_iff, beq_eq_false_iff_ne, ne_eq]
    refine ⟨⟨?_, ?_⟩, ?_⟩ <;> rintro rfl <;> exact houter (by decide)
  last c hc := (isPathChar_spec (hq c (List.mem_of_mem_getLast? hc))).1
  ends c hc := (isPathChar_spec (hq c hc)).2.1
  steady s hs := by
    have hchars : ∀ c ∈ s, isPathChar c = true := fun c hc =>
      hq c (Text.mem_of_mem_splitBy hs c hc)
    rw [encode_of_kept fun c hc => (isPathChar_spec (hchars c hc)).2.2.1]
    exact isSteady_of_isPathChar hchars

theorem spelled_of_isPathChar : spelled q = '/' :: q := by
  rw [spelled, map_encode_of_isPathChar hq,
    Text.flatMap_splitBy fun c hc => (isPathChar_spec (hq c hc)).2.2.2.1]

end PathChars
end Address

/-! ## The parts of an address -/

/-- The characters of a base that count, whatever follows it. -/
def inner (base : List Char) : List Char := (base.dropWhile isOuter).filter (!isPassedOver ·)

theorem significant_append (base : List Char) {q : List Char} (hq : Address.IsSettled q) :
    significant (base ++ '/' :: q) = inner base ++ '/' :: q := by
  have hlast (xs : List Char) : ∀ c ∈ (xs ++ '/' :: q).getLast?, isOuter c = false :=
    Address.isOuter_getLast?_append xs hq.last
  have hkeep : ∀ c ∈ '/' :: q, (!isPassedOver c) = true := by
    intro c hc
    rw [Bool.not_eq_true']
    rcases List.mem_cons.1 hc with rfl | hc
    · rfl
    · exact hq.passed c hc
  rw [significant, Text.dropWhile_append_cons (by decide), Text.dropWhile_reverse (hlast _),
    List.filter_append, List.filter_eq_self.2 hkeep]
  rfl

/-- Before a path the blanks at the end of a base count as well. -/
theorem exists_inner_eq (base : List Char) : ∃ blanks, inner base = significant base ++ blanks := by
  have hsplit := List.takeWhile_append_dropWhile (p := isOuter)
    (l := (base.dropWhile isOuter).reverse)
  refine ⟨((base.dropWhile isOuter).reverse.takeWhile isOuter).reverse.filter (!isPassedOver ·),
    ?_⟩
  rw [significant, ← List.filter_append, ← List.reverse_append, hsplit, List.reverse_reverse, inner]

theorem significant_eq_inner {base : List Char} (h : ∀ c ∈ base.getLast?, isOuter c = false) :
    significant base = inner base := by
  have hlast : ∀ c ∈ (base.dropWhile isOuter).getLast?, isOuter c = false := by
    intro c hc
    refine h c ?_
    rw [Option.mem_def] at hc ⊢
    rw [← List.takeWhile_append_dropWhile (p := isOuter) (l := base), List.getLast?_append, hc,
      Option.some_or]
  rw [significant, Text.dropWhile_reverse hlast]
  rfl

theorem splitScheme?_append (s q : List Char) :
    splitScheme? (s ++ '/' :: q) = (splitScheme? s).map fun p => (p.1, p.2 ++ '/' :: q) := by
  cases s with
  | nil => rfl
  | cons c s =>
    simp only [splitScheme?, List.cons_append]
    rw [← List.cons_append, Text.dropWhile_append_cons (by decide),
      Text.takeWhile_append_cons (by decide)]
    split
    · cases hrest : (c :: s).dropWhile isSchemeChar with
      | nil => rfl
      | cons d rest =>
        rw [List.cons_append]
        by_cases hd : d = ':'
        · subst hd
          rfl
        · split
          · rename_i heq
            cases heq
            exact absurd rfl hd
          · split
            · rename_i heq
              cases heq
              exact absurd rfl hd
            · rfl
    · rfl

/-- The scheme ends at its colon, whatever comes after. -/
theorem splitScheme?_append_of_some {s rest : List Char} {scheme : String}
    (h : splitScheme? s = some (scheme, rest)) (t : List Char) :
    splitScheme? (s ++ t) = some (scheme, rest ++ t) := by
  cases s with
  | nil => cases h
  | cons c s =>
    rw [splitScheme?] at h
    split at h
    · rename_i halpha
      split at h
      · rename_i hdrop
        cases h
        have hsplit := List.takeWhile_append_dropWhile (p := isSchemeChar) (l := c :: s)
        rw [hdrop] at hsplit
        have hcolon : isSchemeChar ':' = false := by decide
        have htake : (c :: s ++ t).takeWhile isSchemeChar = (c :: s).takeWhile isSchemeChar := by
          rw [← hsplit, List.append_assoc, List.cons_append, Text.takeWhile_append_cons hcolon,
            Text.takeWhile_append_cons hcolon]
        have hrest : (c :: s ++ t).dropWhile isSchemeChar = ':' :: (rest ++ t) := by
          rw [List.dropWhile_append, hdrop]
          rfl
        rw [List.cons_append, splitScheme?, if_pos halpha, ← List.cons_append, htake, hrest]
        rfl
      · cases h
    · cases h

theorem mem_of_splitScheme? {s rest : List Char} {scheme : String}
    (h : splitScheme? s = some (scheme, rest)) : ∀ c ∈ rest, c ∈ s := by
  cases s with
  | nil => cases h
  | cons c s =>
    rw [splitScheme?] at h
    split at h
    · split at h
      · rename_i heq
        cases h
        intro d hd
        exact (List.dropWhile_suffix isSchemeChar).subset (heq ▸ List.mem_cons_of_mem _ hd)
      · cases h
    · cases h

theorem authorityOf_nil (usual : Option Nat) (after : List Char) :
    authorityOf true usual [] after = .error .emptyHost := by
  simp [authorityOf, splitUser, splitPort]

/-- A host stays the same whatever comes after it. -/
theorem authorityOf_of_ok {usual : Option Nat} {text after after' : List Char}
    {authority : Authority} (h : authorityOf true usual text after = .ok authority) :
    authorityOf true usual text after' = .ok authority := by
  by_cases hnil : (splitUser text).2 = []
  · simp [authorityOf, hnil, splitPort] at h
  · simp only [authorityOf, hnil, false_and, and_false, if_false] at h ⊢
    exact h

namespace Address

/-- The address of the web whose text after the colon of the scheme is `rest`. -/
def ofWeb (scheme : String) (rest : List Char) : Except Error Address :=
  let rest := rest.dropWhile isSlash
  let after := rest.dropWhile (!endsAuthority true ·)
  match authorityOf true (usualPort scheme) (rest.takeWhile (!endsAuthority true ·)) after with
  | .error e => .error e
  | .ok authority => .ok ⟨scheme, some authority, after⟩

theorem parse_of_web {text scheme : String} {rest : List Char}
    (h : splitScheme? (significant text.toList) = some (scheme, rest))
    (hweb : SchemeKind.ofName scheme = .web) : parse text = ofWeb scheme rest := by
  simp only [parse, h, hweb]
  rfl

theorem splitScheme?_of_parse {text : String} {a : Address} (h : parse text = .ok a) :
    ∃ rest, splitScheme? (significant text.toList) = some (a.scheme, rest) := by
  rw [parse] at h
  split at h
  · cases h
  · rename_i scheme rest hscheme
    refine ⟨rest, ?_⟩
    rw [hscheme]
    split at h
    · dsimp only at h
      split at h
      · cases h
      · cases h
        rfl
    · split at h
      · cases h
      · cases h
        rfl
    · split at h
      · dsimp only at h
        split at h
        · cases h
        · cases h
          rfl
      · cases h
        rfl

theorem scheme_of_ofWeb {scheme : String} {rest : List Char} {a : Address}
    (h : ofWeb scheme rest = .ok a) : a.scheme = scheme := by
  rw [ofWeb] at h
  split at h
  · cases h
  · cases h
    rfl

theorem dropWhile_ne_nil_of_ofWeb {scheme : String} {rest : List Char} {a : Address}
    (h : ofWeb scheme rest = .ok a) : rest.dropWhile isSlash ≠ [] := by
  intro hnil
  simp only [ofWeb, hnil, List.takeWhile_nil, authorityOf_nil] at h
  cases h

theorem ofWeb_put (scheme : String) {rest : List Char} (h : rest.dropWhile isSlash ≠ [])
    (q : List Char) :
    ofWeb scheme (rest ++ '/' :: q) =
      match authorityOf true (usualPort scheme)
          ((rest.dropWhile isSlash).takeWhile (!endsAuthority true ·))
          ((rest.dropWhile isSlash).dropWhile (!endsAuthority true ·) ++ '/' :: q) with
      | .error e => .error e
      | .ok authority => .ok ⟨scheme, some authority,
          (rest.dropWhile isSlash).dropWhile (!endsAuthority true ·) ++ '/' :: q⟩ := by
  have hempty : (rest.dropWhile isSlash).isEmpty = false := List.isEmpty_eq_false_iff.2 h
  have htake := Text.takeWhile_append_cons (p := (!endsAuthority true ·)) (x := '/') rfl
    (rest.dropWhile isSlash) q
  have hdrop := Text.dropWhile_append_cons (p := (!endsAuthority true ·)) (x := '/') rfl
    (rest.dropWhile isSlash) q
  have hslashes : (rest ++ '/' :: q).dropWhile isSlash = rest.dropWhile isSlash ++ '/' :: q := by
    rw [List.dropWhile_append, hempty, if_neg (by simp)]
  simp only [ofWeb, hslashes, htake, hdrop]

/-- What is put behind the text of an address stays behind it, whatever it is. -/
theorem ofWeb_append {scheme : String} {rest q₀ : List Char} {a : Address}
    (hne : rest.dropWhile isSlash ≠ []) (h : ofWeb scheme (rest ++ '/' :: q₀) = .ok a) :
    ∃ r, a.rest = r ++ '/' :: q₀ ∧
      ∀ q, ofWeb scheme (rest ++ '/' :: q) = .ok { a with rest := r ++ '/' :: q } := by
  rw [ofWeb_put scheme hne] at h
  split at h
  · cases h
  · rename_i authority hauthority
    cases h
    refine ⟨_, rfl, fun q => ?_⟩
    rw [ofWeb_put scheme hne, authorityOf_of_ok hauthority]

/-- A slash alone makes no host. -/
theorem dropWhile_ne_nil_of_ofWeb_snoc {scheme : String} {rest : List Char} {a : Address}
    (h : ofWeb scheme (rest ++ ['/']) = .ok a) : rest.dropWhile isSlash ≠ [] := by
  intro hnil
  refine dropWhile_ne_nil_of_ofWeb h ?_
  rw [List.dropWhile_append, hnil, List.isEmpty_nil, if_pos rfl]
  rfl

theorem ofWeb_snoc {scheme : String} {rest : List Char} {a : Address}
    (h : ofWeb scheme rest = .ok a) :
    ofWeb scheme (rest ++ ['/']) = .ok { a with rest := a.rest ++ ['/'] } := by
  have hne := dropWhile_ne_nil_of_ofWeb h
  rw [ofWeb] at h
  split at h
  · cases h
  · rename_i authority hauthority
    cases h
    rw [ofWeb_put scheme hne, authorityOf_of_ok hauthority]

theorem isSettled_nil : IsSettled [] := isSettled_of_isPathChar (by simp)

theorem toList_slash : "/".toList = ['/'] := rfl

section Put

variable {base scheme : String} {start : List Char} {a : Address}

/-- A path put behind a base stands behind what the base has after its scheme. -/
theorem parse_put (hsplit : splitScheme? (inner base.toList) = some (scheme, start))
    (hweb : SchemeKind.ofName scheme = .web) {path : String} {q : List Char}
    (hpath : path.toList = '/' :: q) (hq : IsSettled q) :
    parse (base ++ path) = ofWeb scheme (start ++ '/' :: q) := by
  refine parse_of_web ?_ hweb
  rw [String.toList_append, hpath, significant_append _ hq, splitScheme?_append, hsplit]
  rfl

theorem splitScheme?_inner_of_put {path : String} {q : List Char} (hpath : path.toList = '/' :: q)
    (hq : IsSettled q) (h : parse (base ++ path) = .ok a) :
    ∃ start, splitScheme? (inner base.toList) = some (a.scheme, start) := by
  obtain ⟨rest, hrest⟩ := splitScheme?_of_parse h
  rw [String.toList_append, hpath, significant_append _ hq, splitScheme?_append,
    Option.map_eq_some_iff] at hrest
  obtain ⟨⟨scheme, start⟩, hsplit, heq⟩ := hrest
  cases heq
  exact ⟨start, hsplit⟩

/-- A base that is an address has its host before any path. -/
theorem splitScheme?_inner_of_parse (h : parse base = .ok a)
    (hweb : SchemeKind.ofName a.scheme = .web) :
    ∃ start, splitScheme? (inner base.toList) = some (a.scheme, start) ∧
      start.dropWhile isSlash ≠ [] := by
  obtain ⟨rest, hrest⟩ := splitScheme?_of_parse h
  obtain ⟨blanks, hinner⟩ := exists_inner_eq base.toList
  rw [parse_of_web hrest hweb] at h
  have hne := dropWhile_ne_nil_of_ofWeb h
  refine ⟨rest ++ blanks, ?_, ?_⟩
  · rw [hinner]
    exact splitScheme?_append_of_some hrest blanks
  · rw [List.dropWhile_append, if_neg (by simpa using hne)]
    exact List.append_ne_nil_of_left_ne_nil hne blanks

theorem parse_append (h : parse (base ++ "/") = .ok a) (hweb : SchemeKind.ofName a.scheme = .web) :
    ∃ r, a.rest = r ++ ['/'] ∧ ∀ (path : String) (q : List Char), path.toList = '/' :: q →
      IsSettled q → parse (base ++ path) = .ok { a with rest := r ++ '/' :: q } := by
  obtain ⟨start, hsplit⟩ := splitScheme?_inner_of_put toList_slash isSettled_nil h
  rw [parse_put hsplit hweb toList_slash isSettled_nil] at h
  obtain ⟨r, hr, happend⟩ := ofWeb_append (dropWhile_ne_nil_of_ofWeb_snoc h) h
  refine ⟨r, hr, fun path q hpath hq => ?_⟩
  rw [parse_put hsplit hweb hpath hq, happend]

/-- Behind a base that is an address, a slash makes an address if any path does. -/
theorem parse_slash_of_put {a₀ : Address} (h₀ : parse base = .ok a₀)
    (hweb : SchemeKind.ofName a₀.scheme = .web) {path : String} {q : List Char}
    (hpath : path.toList = '/' :: q) (hq : IsSettled q) (h : parse (base ++ path) = .ok a) :
    ∃ a', parse (base ++ "/") = .ok a' ∧ a'.scheme = a₀.scheme := by
  obtain ⟨start, hsplit, hne⟩ := splitScheme?_inner_of_parse h₀ hweb
  rw [parse_put hsplit hweb hpath hq] at h
  have hscheme : a.scheme = a₀.scheme := scheme_of_ofWeb h
  obtain ⟨r, -, happend⟩ := ofWeb_append hne h
  refine ⟨{ a with rest := r ++ ['/'] }, ?_, hscheme⟩
  rw [parse_put hsplit hweb toList_slash isSettled_nil, happend]

end Put

/-- A slash put behind a base without a blank at its end stands behind what follows the host. -/
theorem parse_snoc {base : String} {a : Address} (h : parse base = .ok a)
    (hweb : SchemeKind.ofName a.scheme = .web)
    (hlast : ∀ c ∈ base.toList.getLast?, isOuter c = false) :
    parse (base ++ "/") = .ok { a with rest := a.rest ++ ['/'] } := by
  obtain ⟨rest, hrest⟩ := splitScheme?_of_parse h
  have hsplit := hrest
  rw [significant_eq_inner hlast] at hsplit
  rw [parse_of_web hrest hweb] at h
  rw [parse_put hsplit hweb toList_slash isSettled_nil, ofWeb_snoc h]

/-- What follows the host is a part of the text. -/
theorem mem_of_mem_rest {text : String} {a : Address} (h : parse text = .ok a)
    (hweb : SchemeKind.ofName a.scheme = .web) : ∀ c ∈ a.rest, c ∈ text.toList := by
  obtain ⟨rest, hrest⟩ := splitScheme?_of_parse h
  rw [parse_of_web hrest hweb, ofWeb] at h
  split at h
  · cases h
  · intro c hc
    rw [← Except.ok.inj h] at hc
    have hmem : c ∈ significant text.toList := mem_of_splitScheme? hrest c
      ((List.dropWhile_suffix _).subset ((List.dropWhile_suffix _).subset hc))
    simp only [significant, List.mem_filter, List.mem_reverse] at hmem
    have hrev := (List.dropWhile_suffix isOuter).subset hmem.1
    exact (List.dropWhile_suffix isOuter).subset (List.mem_reverse.1 hrev)

/-! ## Paths -/

/-- The segments kept once one more is met that is not the last. -/
def keepNext (kept : List (List Char)) (s : List Char) : List (List Char) :=
  if isDoubleDot s then parent kept else if isDot s then kept else s :: kept

theorem resolve_cons (kept : List (List Char)) (s : List Char) {rest : List (List Char)}
    (h : rest ≠ []) : resolve kept (s :: rest) = resolve (keepNext kept s) rest := by
  cases rest with
  | nil => exact absurd rfl h
  | cons t rest =>
    rw [resolve, keepNext]
    split
    · rfl
    · split
      · rfl
      · rfl

theorem resolve_steady (kept : List (List Char)) {ss : List (List Char)} (hne : ss ≠ [])
    (h : ∀ s ∈ ss, IsSteady s) : resolve kept ss = kept.reverse ++ ss := by
  induction ss generalizing kept with
  | nil => exact absurd rfl hne
  | cons s ss ih =>
    obtain ⟨hdot, hdouble⟩ := h s List.mem_cons_self
    cases ss with
    | nil => rw [resolve, hdouble, hdot, if_neg (by simp), if_neg (by simp), List.reverse_cons]
    | cons t ss =>
      rw [resolve_cons kept s (List.cons_ne_nil t ss), keepNext, hdouble, hdot, if_neg (by simp),
        if_neg (by simp), ih _ (List.cons_ne_nil t ss) fun r hr => h r (List.mem_cons_of_mem _ hr),
        List.reverse_cons, List.append_assoc, List.singleton_append]

/-- Segments that stay where they are stand behind whatever the segments before them come to. -/
theorem resolve_append (kept ss : List (List Char)) :
    ∃ front, ∀ qs, qs ≠ [] → (∀ s ∈ qs, IsSteady s) → resolve kept (ss ++ qs) = front ++ qs := by
  -- what is kept so far differs from segment to segment, but never depends on `qs`
  induction ss generalizing kept with
  | nil => exact ⟨kept.reverse, fun qs hne hqs => resolve_steady kept hne hqs⟩
  | cons s ss ih =>
    obtain ⟨front, hfront⟩ := ih (keepNext kept s)
    refine ⟨front, fun qs hne hqs => ?_⟩
    rw [List.cons_append, resolve_cons kept s (List.append_ne_nil_of_right_ne_nil ss hne),
      hfront qs hne hqs]

theorem segments_append (r : List Char) :
    ∃ ss, ∀ q, segments (r ++ '/' :: q) = ss ++ Text.splitBy isSlash q := by
  have hslash : isSlash '/' = true := rfl
  cases r with
  | nil => exact ⟨[], fun q => rfl⟩
  | cons c r =>
    refine ⟨Text.splitBy isSlash (if isSlash c then r else c :: r), fun q => ?_⟩
    rw [← Text.splitBy_append hslash]
    simp only [List.cons_append, segments]
    split
    · rfl
    · rfl

theorem path_of_free {a : Address} (h : ∀ c ∈ a.rest, isPathEnd c = false) :
    a.path = (resolve [] ((segments a.rest).map (encode keptInPath))).flatMap ('/' :: ·) := by
  have hall : ∀ c ∈ a.rest, (!isPathEnd c) = true := fun c hc => by rw [h c hc]; rfl
  rw [path, Text.takeWhile_of_all hall]

/-- A path put behind what follows the host of a base stands, in normal form, behind the mount of
the base. -/
theorem path_append {r : List Char} (hr : ∀ c ∈ r, isPathEnd c = false) :
    ∃ mount, ∀ scheme authority q, IsSettled q →
      path ⟨scheme, authority, r ++ '/' :: q⟩ = mount ++ spelled q := by
  obtain ⟨ss, hss⟩ := segments_append r
  obtain ⟨front, hfront⟩ := resolve_append [] (ss.map (encode keptInPath))
  refine ⟨front.flatMap ('/' :: ·), fun scheme authority q hq => ?_⟩
  have hends : ∀ c ∈ r ++ '/' :: q, isPathEnd c = false :=
    List.forall_mem_append.2 ⟨hr, List.forall_mem_cons.2 ⟨rfl, hq.ends⟩⟩
  have hne : (Text.splitBy isSlash q).map (encode keptInPath) ≠ [] := by
    obtain ⟨part, parts, heq⟩ := Text.exists_splitBy_eq_cons isSlash q
    rw [heq]
    exact List.cons_ne_nil _ _
  have hsteady : ∀ s ∈ (Text.splitBy isSlash q).map (encode keptInPath), IsSteady s := by
    intro s hs
    obtain ⟨part, hpart, rfl⟩ := List.mem_map.1 hs
    exact hq.steady part hpart
  rw [path_of_free hends, hss, List.map_append, hfront _ hne hsteady, List.flatMap_append, spelled]

/-! ### A slash at the end -/

/-- One more empty segment at the end shows, unless the last segment was dots. -/
theorem resolve_snoc (kept : List (List Char)) {ss : List (List Char)} (hne : ss ≠ []) :
    resolve kept (ss ++ [[]]) = resolve kept ss ∨
      resolve kept (ss ++ [[]]) = resolve kept ss ++ [[]] := by
  induction ss generalizing kept with
  | nil => exact absurd rfl hne
  | cons s ss ih =>
    rw [List.cons_append, resolve_cons kept s (List.append_ne_nil_of_right_ne_nil ss (by simp))]
    cases ss with
    | nil =>
      -- dots at the end leave an empty segment in their place, as the slash behind them does
      rw [List.nil_append, resolve_steady _ (by simp) (by simp [IsSteady, isDot, isDoubleDot]),
        keepNext, resolve]
      split
      · exact .inl (List.reverse_cons ..).symm
      · split
        · exact .inl (List.reverse_cons ..).symm
        · exact .inr rfl
    | cons t ss =>
      rw [resolve_cons kept s (List.cons_ne_nil t ss)]
      exact ih _ (List.cons_ne_nil t ss)

theorem segments_ne_nil (r : List Char) : segments r ≠ [] := by
  cases r with
  | nil => exact List.cons_ne_nil [] []
  | cons c r =>
    obtain ⟨part, parts, h⟩ :=
      Text.exists_splitBy_eq_cons isSlash (if isSlash c then r else c :: r)
    rw [segments, h]
    exact List.cons_ne_nil part parts

theorem segments_snoc {r : List Char} (hr : r ≠ []) :
    segments (r ++ ['/']) = segments r ++ [[]] := by
  cases r with
  | nil => exact absurd rfl hr
  | cons c r =>
    have hslash : isSlash '/' = true := rfl
    simp only [List.cons_append, segments]
    split
    · exact Text.splitBy_append hslash r []
    · exact Text.splitBy_append hslash (c :: r) []

/-- The path of a base with a slash behind it is that of the base, or that and a slash. -/
theorem path_snoc {r : List Char} (hr : ∀ c ∈ r, isPathEnd c = false) (scheme : String)
    (authority : Option Authority) :
    path ⟨scheme, authority, r ++ ['/']⟩ = path ⟨scheme, authority, r⟩ ∨
      path ⟨scheme, authority, r ++ ['/']⟩ = path ⟨scheme, authority, r⟩ ++ ['/'] := by
  cases hnil : r with
  | nil => exact .inl rfl
  | cons c tail =>
    have hne : r ≠ [] := by simp [hnil]
    have hends : ∀ c ∈ r ++ ['/'], isPathEnd c = false :=
      List.forall_mem_append.2 ⟨hr, List.forall_mem_singleton.2 rfl⟩
    have hsegments : (segments r).map (encode keptInPath) ≠ [] := by
      simpa using segments_ne_nil r
    have hempty : [([] : List Char)].map (encode keptInPath) = [[]] := rfl
    rw [← hnil, path_of_free hends, path_of_free hr, segments_snoc hne, List.map_append, hempty]
    rcases resolve_snoc [] hsegments with h | h
    · exact .inl (by rw [h])
    · exact .inr (by rw [h, List.flatMap_append]; rfl)

/-! ### Marks -/

theorem mem_of_mem_parent {kept : List (List Char)} {s : List Char} (h : s ∈ parent kept) :
    s ∈ kept := by
  cases kept with
  | nil => exact h
  | cons last kept =>
    rw [parent] at h
    split at h
    · exact h
    · exact List.mem_cons_of_mem last h

/-- Resolving makes no segments but empty ones. -/
theorem mem_of_mem_resolve {kept ss : List (List Char)} {s : List Char} (h : s ∈ resolve kept ss) :
    s = [] ∨ s ∈ kept ∨ s ∈ ss := by
  induction ss generalizing kept with
  | nil => exact .inr (.inl (List.mem_reverse.1 h))
  | cons t ss ih =>
    by_cases hss : ss = []
    · subst hss
      rw [resolve] at h
      split at h
      · rcases List.mem_cons.1 (List.mem_reverse.1 h) with rfl | hkept
        · exact .inl rfl
        · exact .inr (.inl (mem_of_mem_parent hkept))
      · split at h
        · rcases List.mem_cons.1 (List.mem_reverse.1 h) with rfl | hkept
          · exact .inl rfl
          · exact .inr (.inl hkept)
        · rcases List.mem_cons.1 (List.mem_reverse.1 h) with rfl | hkept
          · exact .inr (.inr List.mem_cons_self)
          · exact .inr (.inl hkept)
    · rw [resolve_cons kept t hss] at h
      rcases ih h with hnil | hkept | hlater
      · exact .inl hnil
      · rw [keepNext] at hkept
        split at hkept
        · exact .inr (.inl (mem_of_mem_parent hkept))
        · split at hkept
          · exact .inr (.inl hkept)
          · rcases List.mem_cons.1 hkept with rfl | hkept
            · exact .inr (.inr List.mem_cons_self)
            · exact .inr (.inl hkept)
      · exact .inr (.inr (List.mem_cons_of_mem t hlater))

/-- No query and no fragment begins within a path in normal form. -/
theorem isPathEnd_path (a : Address) : ∀ c ∈ a.path, isPathEnd c = false := by
  intro c hc
  obtain ⟨segment, hsegment, hc⟩ := List.mem_flatMap.1 hc
  rcases List.mem_cons.1 hc with rfl | hc
  · rfl
  rcases mem_of_mem_resolve hsegment with rfl | hkept | hwritten
  · cases hc
  · cases hkept
  · obtain ⟨written, -, rfl⟩ := List.mem_map.1 hwritten
    rw [Bool.eq_false_iff]
    intro hend
    rw [isPathEnd, Bool.or_eq_true, beq_iff_eq, beq_iff_eq] at hend
    rcases mem_encode hc with ⟨-, hkept⟩ | hform | rfl
    · rcases hend with rfl | rfl <;> exact absurd hkept (by decide)
    · rcases hend with rfl | rfl <;> exact absurd hform (by decide)
    · exact absurd hend (by decide)

/-! ## Targets -/

theorem query_eq_none {a : Address} (h : ∀ c ∈ a.rest, isPathEnd c = false) : a.query = none := by
  have hall : ∀ c ∈ a.rest, (!isPathEnd c) = true := fun c hc => by rw [h c hc]; rfl
  rw [query, Text.dropWhile_of_all hall]

theorem fragment_eq_nil {a : Address} (h : ∀ c ∈ a.rest, isPathEnd c = false) :
    a.fragment = [] := by
  have hall : ∀ c ∈ a.rest, (c != '#') = true := fun c hc =>
    bne_iff_ne.2 fun heq => Bool.noConfusion (heq ▸ h c hc)
  rw [fragment, Text.dropWhile_of_all hall]

/-- The equals sign between a name and its value is the first one. -/
theorem cut_pairChars (p : String × String) :
    Text.cut '=' (pairChars p) = (formEncode p.1.toList, formEncode p.2.toList) :=
  Text.cut_append (not_mem_formEncode (by decide) p.1.toList) _

theorem not_mem_pairChars {mark : Char} (hform : isFormChar mark = false) (heq : mark ≠ '=')
    (p : String × String) : mark ∉ pairChars p := by
  intro hmem
  rcases List.mem_append.1 hmem with hname | hvalue
  · exact not_mem_formEncode hform p.1.toList hname
  · rcases List.mem_cons.1 hvalue with hmark | hvalue
    · exact heq hmark
    · exact not_mem_formEncode hform p.2.toList hvalue

theorem extendQuery_of_ne_nil {query : List Char} (h : query ≠ []) (ps : List (String × String)) :
    extendQuery query ps = query ++ ps.flatMap fun p => '&' :: pairChars p := by
  induction ps generalizing query with
  | nil => rw [extendQuery, List.flatMap_nil, List.append_nil]
  | cons p ps ih =>
    rw [extendQuery, if_neg (by simpa using h),
      ih (List.append_ne_nil_of_right_ne_nil query (List.cons_ne_nil '&' _)), List.append_assoc,
      List.flatMap_cons]

theorem extendQuery_nil_cons (p : String × String) (ps : List (String × String)) :
    extendQuery [] (p :: ps) = pairChars p ++ ps.flatMap fun p => '&' :: pairChars p := by
  have hne : pairChars p ≠ [] := List.append_ne_nil_of_right_ne_nil _ (List.cons_ne_nil '=' _)
  rw [extendQuery, List.isEmpty_nil, if_pos rfl, extendQuery_of_ne_nil hne]

/-- The query of a request with these pairs, and the mark before it. -/
def queryPart : List (String × String) → List Char
  | [] => []
  | p :: ps => '?' :: extendQuery [] (p :: ps)

theorem target_of_query_none {a : Address} (h : a.query = none) (pairs : List (String × String)) :
    a.target pairs = String.ofList (a.path ++ queryPart pairs) := by
  rw [target, h]
  cases pairs with
  | nil => simp only [Option.getD_none, extendQuery, List.isEmpty_nil, if_true, queryPart,
      List.append_nil]
  | cons p ps =>
    have hne : (extendQuery [] (p :: ps)).isEmpty = false := by
      rw [extendQuery_nil_cons, pairChars]
      simp
    simp only [Option.getD_none, hne, Bool.false_eq_true, if_false, queryPart]

end Address

end Url
end Scoreline
