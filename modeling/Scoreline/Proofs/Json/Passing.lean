import Mathlib.Data.List.TakeWhile
import Scoreline.Proofs.Json.Tree

/-!
# Scoreline.Proofs.Json.Passing

Every text of every tree is passed over, and nothing of what follows it (`Tree.Text.skipValue_eq`).

The loop keeps a stack of what is open, so its step lemma (`Tree.Text.passed`) is by induction on the
tree, for any stack: from before the value the loop comes to behind it, with the stack as it was. An item
of an open list is a value, and one of an open object a value behind its name (`Frame.Passes`); the walk
through the items (`Frame.skipFrom_followed`) is the same for both.
-/

namespace Scoreline
namespace Json

/-! ## Scalars -/

/-- Digits are taken as long as there are any. -/
theorem exists_digits (text : Bytes) :
    ∃ ds tail, (∀ b ∈ ds, isDigit b = true) ∧ EndsDigits tail ∧ text = ds ++ tail := by
  refine ⟨text.takeWhile isDigit, text.dropWhile isDigit, fun _ hb => List.mem_takeWhile_imp hb, ?_,
    List.takeWhile_append_dropWhile.symm⟩
  intro b hb
  have hstop := List.head?_dropWhile_not isDigit text
  rwa [hb] at hstop

theorem skipSomeDigits_eq {d : UInt8} {ds rest : Bytes} (hd : isDigit d = true)
    (hds : ∀ b ∈ ds, isDigit b = true) (hrest : EndsDigits rest) :
    skipSomeDigits (d :: (ds ++ rest)) = .ok rest := by
  rw [skipSomeDigits, if_pos hd, skipDigits, (span_digits hds hrest).2]

theorem skipExponent_eq {d : UInt8} {sign ds rest : Bytes}
    (hsign : sign = [] ∨ sign = [plus] ∨ sign = [minus]) (hd : isDigit d = true)
    (hds : ∀ b ∈ ds, isDigit b = true) (hrest : EndsDigits rest) :
    skipExponent (sign ++ d :: (ds ++ rest)) = .ok rest := by
  rw [← skipSomeDigits_eq hd hds hrest]
  rcases hsign with rfl | rfl | rfl
  · rw [List.nil_append, skipExponent]
    · rintro text ⟨⟩
      exact absurd hd (by decide)
    · rintro text ⟨⟩
      exact absurd hd (by decide)
  · rfl
  · rfl

theorem skipFraction_eq {d : UInt8} {ds e rest : Bytes} (hd : isDigit d = true)
    (hds : ∀ b ∈ ds, isDigit b = true) (he : Exponent e) (hrest : EndsNumber rest) :
    skipFraction (d :: (ds ++ (e ++ rest))) = .ok rest := by
  rw [skipFraction, skipSomeDigits_eq hd hds (he.endsDigits hrest)]
  cases he with
  | none =>
    rw [List.nil_append]
    split
    · rename_i heq
      cases heq
    · rename_i heq
      cases heq
      exact absurd rfl (hrest lowerE rfl).2.2.1
    · rename_i heq
      cases heq
      exact absurd rfl (hrest upperE rfl).2.2.2
    · rename_i heq
      cases heq
      rfl
  | @some e d sign ds he hsign hd hds =>
    have hexponent := skipExponent_eq hsign hd hds hrest.endsDigits
    rcases he with rfl | rfl
    all_goals
      simp only [List.cons_append, List.append_assoc]
      exact hexponent

theorem skipNumberTail_eq {f e rest : Bytes} (hf : Fraction f) (he : Exponent e)
    (hrest : EndsNumber rest) : skipNumberTail (f ++ (e ++ rest)) = .ok rest := by
  cases hf with
  | some hd hds =>
    simp only [List.cons_append]
    exact skipFraction_eq hd hds he hrest
  | none =>
    cases he with
    | none =>
      simp only [List.nil_append]
      unfold skipNumberTail
      split
      · exact absurd rfl (hrest point rfl).2.1
      · exact absurd rfl (hrest lowerE rfl).2.2.1
      · exact absurd rfl (hrest upperE rfl).2.2.2
      · rfl
    | @some e d sign ds he hsign hd hds =>
      have hexponent := skipExponent_eq hsign hd hds hrest.endsDigits
      rcases he with rfl | rfl
      all_goals
        simp only [List.nil_append, List.cons_append, List.append_assoc]
        exact hexponent

theorem Magnitude.skipMagnitude_eq {text rest : Bytes} (h : Magnitude text)
    (hrest : EndsNumber rest) : skipMagnitude (text ++ rest) = .ok rest := by
  cases h with
  | @zero f e hf he =>
    have htail := skipNumberTail_eq hf he hrest
    have hends := hf.endsDigits he hrest
    rw [List.cons_append, List.append_assoc]
    generalize f ++ (e ++ rest) = text at htail hends
    cases text with
    | nil => exact htail
    | cons b text =>
      have hb : isDigit b = false := hends b rfl
      have hskip : skipMagnitude (Json.zero :: b :: text) =
          if isDigit b then .error (.breach .number) else skipNumberTail (b :: text) := rfl
      rw [hskip, hb, if_neg (by simp), htail]
  | @digits d ds f e hd hzero hds hf he =>
    rw [List.cons_append, List.append_assoc, List.append_assoc, skipMagnitude]
    · rw [if_pos hd, skipDigits, (span_digits hds (hf.endsDigits he hrest)).2,
        skipNumberTail_eq hf he hrest]
    · exact hzero

theorem skipContent_backslash (x : UInt8) (budget text : Bytes) :
    skipContent (x :: budget) (backslash :: text) =
      match skipEscape text with
      | .error p => .error p
      | .ok rest => skipContent budget rest := rfl

theorem skipEscape_letter {e c : Char} (h : (e, c) ∈ letters) (rest : Bytes) :
    skipEscape (UInt8.ofNat e.toNat :: rest) = .ok rest := by
  simp only [letters, List.mem_cons, List.not_mem_nil, or_false, Prod.mk.injEq] at h
  rcases h with ⟨rfl, rfl⟩ | ⟨rfl, rfl⟩ | ⟨rfl, rfl⟩ | ⟨rfl, rfl⟩ | ⟨rfl, rfl⟩ | ⟨rfl, rfl⟩ |
    ⟨rfl, rfl⟩ | ⟨rfl, rfl⟩
  all_goals rfl

theorem skipEscape_lowerU (text : Bytes) :
    skipEscape (lowerU :: text) = (readHex4 text).map Prod.snd := by
  unfold skipEscape
  split
  · contradiction
  · rename_i heq
    cases heq
    cases readHex4 text <;> rfl
  · rename_i hne heq
    cases heq
    exact absurd rfl hne

theorem skipEscape_number {n : Nat} {ds : Bytes} (h : Hex4 n ds) (rest : Bytes) :
    skipEscape (lowerU :: (ds ++ rest)) = .ok rest := by
  rw [skipEscape_lowerU, h.readHex4_eq, Except.map]

theorem Loose.skipContent_eq {content : Bytes} (h : Loose content) (budget rest : Bytes)
    (hlen : (content ++ quoteMark :: rest).length ≤ budget.length) :
    skipContent budget (content ++ quoteMark :: rest) = .ok rest := by
  induction h generalizing budget with
  | nil =>
    cases budget with
    | nil => simp at hlen
    | cons x budget => rfl
  | @literal b text h tail ih =>
    cases budget with
    | nil => simp at hlen
    | cons x budget =>
      simp only [isLiteral, Bool.and_eq_true, decide_eq_true_eq, bne_iff_ne, ne_eq] at h
      obtain ⟨⟨hlow, hquote⟩, hback⟩ := h
      rw [List.cons_append, skipContent]
      · rw [if_neg (UInt8.not_lt.2 hlow)]
        exact ih budget (by simpa using hlen)
      · exact hquote
      · exact hback
  | letter h tail ih =>
    cases budget with
    | nil => simp at hlen
    | cons x budget =>
      simp only [List.cons_append, List.length_cons] at hlen ⊢
      rw [skipContent_backslash, skipEscape_letter h]
      exact ih budget (by omega)
  | number h tail ih =>
    cases budget with
    | nil => simp at hlen
    | cons x budget =>
      simp only [List.cons_append, List.append_assoc, List.length_cons, List.length_append]
        at hlen ⊢
      rw [skipContent_backslash, skipEscape_number h]
      exact ih budget (by simp only [List.length_append, List.length_cons]; omega)

theorem Loose.skipQuoted_eq {content : Bytes} (h : Loose content) (rest : Bytes) :
    skipQuoted (content ++ quoteMark :: rest) = .ok rest :=
  h.skipContent_eq _ rest (Nat.le_refl _)

/-- After its first byte, a text that is no list and no object is passed over as that byte says. -/
theorem Plain.skipScalar_eq {text : Bytes} (h : Plain text) :
    ∃ b tail, text = b :: tail ∧ isGap b = false ∧ b ≠ listOpen ∧ b ≠ objectOpen ∧
      ∀ rest, EndsNumber rest → skipScalar b (tail ++ rest) = .ok rest := by
  cases h with
  | literalNull | literalTrue | literalFalse =>
    exact ⟨_, _, rfl, rfl, by decide, by decide, fun rest _ => rfl⟩
  | negative h =>
    exact ⟨_, _, rfl, rfl, by decide, by decide, fun rest hrest => h.skipMagnitude_eq hrest⟩
  | string h =>
    refine ⟨_, _, rfl, rfl, by decide, by decide, fun rest _ => ?_⟩
    rw [List.append_assoc]
    exact h.skipQuoted_eq rest
  | magnitude h =>
    obtain ⟨d, ds, rfl, hd⟩ := h.exists_cons
    have hne : ∀ b, isDigit b = false → d ≠ b := by
      rintro b hb rfl
      rw [hd] at hb
      cases hb
    refine ⟨d, ds, rfl, isGap_eq_false_of_isDigit hd, hne _ rfl, hne _ rfl, fun rest hrest => ?_⟩
    rw [skipScalar]
    · rw [if_pos hd, ← List.cons_append, h.skipMagnitude_eq hrest]
    all_goals exact hne _ rfl

/-! ## Values -/

theorem skipFrom_blanks {ws : Bytes} (hws : Blanks ws) (budget : Bytes) (frames : List Frame)
    (text : Bytes) :
    skipFrom budget .before frames (ws ++ text) = skipFrom budget .before frames text := by
  cases budget with
  | nil => rfl
  | cons x budget => rw [skipFrom, skipFrom, skipGap_append hws]

/-- From before a text the loop comes to behind it, whatever is open, and its budget lasts for what
follows. -/
def Passed (text : Bytes) : Prop :=
  ∀ (budget : Bytes) (frames : List Frame) (rest : Bytes), EndsNumber rest →
    (text ++ rest).length ≤ budget.length →
    ∃ left : Bytes, rest.length ≤ left.length ∧
      skipFrom budget .before frames (text ++ rest) = skipFrom left .after frames rest

theorem Plain.passed {text : Bytes} (h : Plain text) : Passed text := by
  intro budget frames rest hrest hlen
  obtain ⟨b, tail, rfl, hgap, hlist, hobject, hskip⟩ := h.skipScalar_eq
  cases budget with
  | nil => simp at hlen
  | cons x budget =>
    simp only [List.cons_append, List.length_cons, List.length_append] at hlen
    refine ⟨budget, by omega, ?_⟩
    rw [List.cons_append, skipFrom, skipGap_cons hgap]
    split
    · rename_i heq
      cases heq
    · rename_i heq
      cases heq
      exact absurd rfl hlist
    · rename_i heq
      cases heq
      exact absurd rfl hobject
    · rename_i heq
      cases heq
      rw [hskip rest hrest]

namespace Frame

def opening : Frame → UInt8
  | .list => listOpen
  | .object => objectOpen

theorem endsNumber_closing (frame : Frame) (rest : Bytes) :
    EndsNumber (frame.closing :: rest) := by
  cases frame with
  | list => exact endsNumber_listClose rest
  | object => exact endsNumber_objectClose rest

theorem isGap_closing (frame : Frame) : isGap frame.closing = false := by
  cases frame <;> rfl

theorem closing_ne_comma (frame : Frame) : frame.closing ≠ comma := by
  cases frame <;> decide

/-- An item that is passed over, its lead first and then its value. -/
structure Passes (frame : Frame) (item : Bytes) : Prop where
  opens : ∃ b tail, item = b :: tail ∧ isGap b = false ∧ b ≠ frame.closing
  skips : ∀ (budget : Bytes) (frames : List Frame) (ws rest : Bytes), Blanks ws →
    EndsNumber rest → (item ++ rest).length ≤ budget.length →
    ∃ next left : Bytes, frame.skipLead (ws ++ (item ++ rest)) = .ok next ∧
      rest.length ≤ left.length ∧
      skipFrom budget .before frames next = skipFrom left .after frames rest

theorem passes_value {text : Bytes} (hopens : OpensValue text) (h : Passed text) :
    Frame.list.Passes text where
  opens := by
    obtain ⟨b, tail, heq, hgap, -, hclose⟩ := hopens
    exact ⟨b, tail, heq, hgap, hclose⟩
  skips budget frames ws rest hws hrest hlen := by
    obtain ⟨left, hleft, hskip⟩ := h budget frames rest hrest hlen
    exact ⟨_, left, rfl, hleft, by rw [skipFrom_blanks hws, hskip]⟩

theorem skipKey_eq (k : Key) {ws ws' : Bytes} (hws : Blanks ws) (hws' : Blanks ws')
    (rest : Bytes) : skipKey (ws ++ (k.text ++ (ws' ++ colon :: rest))) = .ok rest := by
  have hskip : skipKey (k.text ++ (ws' ++ colon :: rest)) =
      match skipQuoted (k.content ++ [quoteMark] ++ (ws' ++ colon :: rest)) with
      | .error p => .error p
      | .ok rest => expectColon rest := rfl
  rw [skipKey, skipGap_append hws, ← skipKey, hskip, List.append_assoc, List.singleton_append,
    k.loose.skipQuoted_eq]
  exact expectColon_colon hws' rest

theorem passes_member (k : Key) {text after : Bytes} (h : Passed text)
    (hafter : AfterName text after) : Frame.object.Passes (k.text ++ after) where
  opens := ⟨_, _, rfl, rfl, by decide⟩
  skips budget frames ws rest hws hrest hlen := by
    obtain ⟨hws₁, hws₂⟩ := hafter
    simp only [List.length_append, List.length_cons] at hlen
    obtain ⟨left, hleft, hskip⟩ :=
      h budget frames rest hrest (by simp only [List.length_append]; omega)
    refine ⟨_, left, ?_, hleft, (skipFrom_blanks hws₂ budget frames _).trans hskip⟩
    simp only [List.append_assoc, List.cons_append]
    exact skipKey_eq k hws hws₁ _

theorem skipFrom_opening (frame : Frame) (x : UInt8) (budget : Bytes) (frames : List Frame)
    (text : Bytes) :
    skipFrom (x :: budget) .before frames (frame.opening :: text) =
      match frame.enter text with
      | .error p => .error p
      | .ok (.after, rest) => skipFrom budget .after frames rest
      | .ok (.before, rest) => skipFrom budget .before (frame :: frames) rest := by
  cases frame <;> rfl

variable {frame : Frame}

/-- The items after the first are passed over, and then the bracket is closed. -/
theorem skipFrom_followed {items : List Bytes} (h : ∀ item ∈ items, frame.Passes item) {text : Bytes}
    (ht : Followed frame.closing items text) (budget : Bytes) (frames : List Frame) (rest : Bytes)
    (hlen : (text ++ rest).length ≤ budget.length) :
    ∃ left : Bytes, rest.length ≤ left.length ∧
      skipFrom budget .after (frame :: frames) (text ++ rest) =
        skipFrom left .after frames rest := by
  induction ht generalizing budget with
  | @close ws hws =>
    cases budget with
    | nil => simp at hlen
    | cons x budget =>
      simp only [List.length_append, List.length_cons] at hlen
      refine ⟨budget, by omega, ?_⟩
      rw [List.append_assoc, List.singleton_append, skipFrom, advance, skipGap_append hws,
        skipGap_cons frame.isGap_closing]
      simp only [if_neg frame.closing_ne_comma, if_true]
  | @comma ws ws' item text items hws hws' tail ih =>
    obtain ⟨hitem, hitems⟩ := List.forall_mem_cons.1 h
    have hends := tail.endsNumber frame.endsNumber_closing rest
    cases budget with
    | nil => simp at hlen
    | cons x budget =>
      simp only [List.length_append, List.length_cons] at hlen
      obtain ⟨next, left, hlead, hleft, hskip⟩ := hitem.skips budget (frame :: frames) ws'
        (text ++ rest) hws' hends (by simp only [List.length_append]; omega)
      obtain ⟨left', hleft', hskip'⟩ := ih hitems left hleft
      refine ⟨left', hleft', ?_⟩
      simp only [List.append_assoc, List.cons_append]
      rw [skipFrom, advance, skipGap_append hws, skipGap_cons (by rfl)]
      simp only [if_true, hlead, hskip, hskip']

/-- A list or an object is passed over if its items are. -/
theorem passed_enclosed {items : List Bytes} (h : ∀ item ∈ items, frame.Passes item) {text : Bytes}
    (ht : Enclosed frame.closing items text) : Passed (frame.opening :: text) := by
  intro budget frames rest hrest hlen
  cases budget with
  | nil => simp at hlen
  | cons x budget =>
    simp only [List.cons_append, List.length_cons, List.length_append] at hlen
    rw [List.cons_append, skipFrom_opening]
    cases ht with
    | empty hws =>
      refine ⟨budget, by omega, ?_⟩
      rw [List.append_assoc, List.singleton_append, enter, skipGap_append hws,
        skipGap_cons frame.isGap_closing]
      simp only [if_true]
    | @items ws item text items hws tail =>
      obtain ⟨hitem, hitems⟩ := List.forall_mem_cons.1 h
      have hends := tail.endsNumber frame.endsNumber_closing rest
      simp only [List.length_append] at hlen
      obtain ⟨next, left, hlead, hleft, hskip⟩ := hitem.skips budget (frame :: frames) []
        (text ++ rest) blanks_nil hends (by simp only [List.length_append]; omega)
      obtain ⟨left', hleft', hskip'⟩ := skipFrom_followed hitems tail left frames rest hleft
      refine ⟨left', hleft', ?_⟩
      obtain ⟨b, tail', rfl, hgap, hclose⟩ := hitem.opens
      simp only [List.append_assoc, List.cons_append, List.nil_append] at hlead ⊢
      rw [enter, skipGap_append hws, skipGap_cons hgap]
      simp only [if_neg hclose, hlead, hskip, hskip']

theorem passes_values {items : List Tree} {texts : List Bytes}
    (h : List.Forall₂ Tree.Text items texts)
    (hpassed : ∀ t ∈ items, ∀ {text : Bytes}, t.Text text → Passed text) :
    ∀ item ∈ texts, Frame.list.Passes item := by
  induction h with
  | nil => exact List.forall_mem_nil _
  | @cons t text items texts head tail ih =>
    exact List.forall_mem_cons.2
      ⟨passes_value head.opensValue (hpassed t List.mem_cons_self head),
        ih fun t' ht' => hpassed t' (List.mem_cons_of_mem t ht')⟩

theorem passes_members {members : List (Key × Tree)} {texts : List Bytes}
    (h : MemberTexts members texts)
    (hpassed : ∀ m ∈ members, ∀ {text : Bytes}, m.2.Text text → Passed text) :
    ∀ item ∈ texts, Frame.object.Passes item := by
  induction members generalizing texts with
  | nil =>
    cases h
    exact List.forall_mem_nil _
  | cons m members ih =>
    cases h with
    | @cons k t text after _ texts head hafter tail =>
      exact List.forall_mem_cons.2
        ⟨passes_member k (hpassed (k, t) List.mem_cons_self head) hafter,
          ih tail fun m' hm' => hpassed m' (List.mem_cons_of_mem _ hm')⟩

end Frame

/-- The loop passes over a text of any tree. -/
theorem Tree.Text.passed {t : Tree} {text : Bytes} (h : t.Text text) : Passed text := by
  induction t using Tree.forall_of generalizing text with
  | plain text' h' =>
    cases h
    exact h'.passed
  | array items ih =>
    cases h with
    | array hitems henclosed => exact Frame.passed_enclosed (Frame.passes_values hitems ih) henclosed
  | object members ih =>
    cases h with
    | object hmembers henclosed =>
      exact Frame.passed_enclosed (Frame.passes_members hmembers ih) henclosed

theorem Tree.Text.skipValue_eq {t : Tree} {ws text rest : Bytes} (h : t.Text text)
    (hws : Blanks ws) (hrest : EndsNumber rest) : skipValue (ws ++ (text ++ rest)) = .ok rest := by
  obtain ⟨left, -, hskip⟩ := h.passed (0 :: (ws ++ (text ++ rest))) [] rest hrest (by
    simp only [List.length_cons, List.length_append]
    omega)
  rw [skipValue, skipFrom_blanks hws, hskip]
  cases left <;> rfl

/-- Of a whole text, only blanks are left over. -/
theorem Tree.WholeText.exists_skipValue_eq {t : Tree} {text : Bytes} (h : t.WholeText text) :
    ∃ ws, Blanks ws ∧ skipValue text = .ok ws := by
  obtain ⟨hws, h, hws'⟩ := h
  exact ⟨_, hws', h.skipValue_eq hws (endsNumber_of_blanks hws')⟩

/-- The value of a member is passed over after its colon, and what has been gathered stays. -/
theorem Tree.Text.skipMember_eq {σ : Type} {t : Tree} {text after rest : Bytes} (h : t.Text text)
    (hafter : AfterName text after) (hrest : EndsNumber rest) (gathered : σ) :
    skipMember gathered (after ++ rest) = .ok (gathered, rest) := by
  obtain ⟨hws, hws'⟩ := hafter
  simp only [List.append_assoc, List.cons_append]
  rw [skipMember, expectColon_colon hws]
  simp only [h.skipValue_eq hws' hrest]

end Json
end Scoreline
