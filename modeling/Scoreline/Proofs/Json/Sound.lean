import Scoreline.Proofs.Json.Passing
import Scoreline.Proofs.Json.Spelled

/-!
# Scoreline.Proofs.Json.Sound

What is passed over as a value is a text of a tree (`front_of_skipValue`), so a reader that passes over
the members it does not know accepts no less than JSON in their places.

From before a value the loop stops behind it, and from behind a value it stops behind all that is left of
the list or the object around it (`StopsBehind`). These two are proved together, by induction on the
budget and for any stack of what is open: an item is a value with its name, if it needs one, and what
follows the item is what follows a value.
-/

namespace Scoreline
namespace Json

/-! ## Blanks, colons and literals -/

theorem exists_blanks (text : Bytes) : ∃ ws, Blanks ws ∧ text = ws ++ skipGap text :=
  ⟨text.takeWhile isGap, fun _ hb => List.mem_takeWhile_imp hb,
    List.takeWhile_append_dropWhile.symm⟩

theorem blanks_of_skipGap {text : Bytes} (h : skipGap text = []) : Blanks text := by
  obtain ⟨ws, hws, htext⟩ := exists_blanks text
  rw [htext, h, List.append_nil]
  exact hws

theorem colon_of_expectColon {text rest : Bytes} (h : expectColon text = .ok rest) :
    ∃ ws, Blanks ws ∧ text = ws ++ colon :: rest := by
  obtain ⟨ws, hws, htext⟩ := exists_blanks text
  unfold expectColon at h
  split at h
  · cases h
  · rename_i hgap
    cases h
    exact ⟨ws, hws, htext.trans (congrArg (ws ++ ·) hgap)⟩
  · cases h

theorem eq_of_expectLiteral {literal text rest : Bytes} (h : expectLiteral literal text = .ok rest) :
    text = literal ++ rest := by
  induction literal generalizing text with
  | nil =>
    rw [expectLiteral] at h
    cases h
    rfl
  | cons e literal ih =>
    cases text with
    | nil => cases h
    | cons b text =>
      rw [expectLiteral] at h
      split at h
      · rename_i hb
        rw [hb, ih h, List.cons_append]
      · cases h

/-! ## Numbers -/

theorem digits_of_skipSomeDigits {text rest : Bytes} (h : skipSomeDigits text = .ok rest) :
    ∃ d ds, isDigit d = true ∧ (∀ b ∈ ds, isDigit b = true) ∧ text = d :: (ds ++ rest) := by
  unfold skipSomeDigits at h
  split at h
  · rename_i d text
    split at h
    · rename_i hd
      obtain ⟨ds, tail, hds, htail, rfl⟩ := exists_digits text
      rw [skipDigits, (span_digits hds htail).2] at h
      cases h
      exact ⟨d, ds, hd, hds, rfl⟩
    · cases h
  · cases h

/-- Behind the mark of an exponent, what is passed over is the rest of it. -/
theorem exponent_of_skipExponent {e : UInt8} (he : e = lowerE ∨ e = upperE) {text rest : Bytes}
    (h : skipExponent text = .ok rest) : ∃ used, Exponent (e :: used) ∧ text = used ++ rest := by
  have hsigned {sign text : Bytes} (hsign : sign = [] ∨ sign = [plus] ∨ sign = [minus])
      (h : skipSomeDigits text = .ok rest) :
      ∃ used, Exponent (e :: used) ∧ sign ++ text = used ++ rest := by
    obtain ⟨d, ds, hd, hds, rfl⟩ := digits_of_skipSomeDigits h
    exact ⟨_, .some he hsign hd hds, by simp only [List.append_assoc, List.cons_append]⟩
  unfold skipExponent at h
  split at h
  · exact hsigned (.inr (.inl rfl)) h
  · exact hsigned (.inr (.inr rfl)) h
  · exact hsigned (.inl rfl) h

theorem exponent_of_skipFraction {text rest : Bytes} (h : skipFraction text = .ok rest) :
    ∃ d ds e, isDigit d = true ∧ (∀ b ∈ ds, isDigit b = true) ∧ Exponent e ∧
      text = d :: (ds ++ (e ++ rest)) := by
  unfold skipFraction at h
  split at h
  · cases h
  · rename_i text' hdigits
    obtain ⟨d, ds, hd, hds, rfl⟩ := digits_of_skipSomeDigits hdigits
    obtain ⟨used, he, rfl⟩ := exponent_of_skipExponent (.inl rfl) h
    exact ⟨d, ds, _, hd, hds, he, rfl⟩
  · rename_i text' hdigits
    obtain ⟨d, ds, hd, hds, rfl⟩ := digits_of_skipSomeDigits hdigits
    obtain ⟨used, he, rfl⟩ := exponent_of_skipExponent (.inr rfl) h
    exact ⟨d, ds, _, hd, hds, he, rfl⟩
  · rename_i hdigits
    cases h
    obtain ⟨d, ds, hd, hds, rfl⟩ := digits_of_skipSomeDigits hdigits
    exact ⟨d, ds, [], hd, hds, .none, rfl⟩

theorem fraction_of_skipNumberTail {text rest : Bytes} (h : skipNumberTail text = .ok rest) :
    ∃ f e, Fraction f ∧ Exponent e ∧ text = f ++ (e ++ rest) := by
  unfold skipNumberTail at h
  split at h
  · obtain ⟨d, ds, e, hd, hds, he, rfl⟩ := exponent_of_skipFraction h
    exact ⟨_, e, .some hd hds, he, rfl⟩
  · obtain ⟨used, he, rfl⟩ := exponent_of_skipExponent (.inl rfl) h
    exact ⟨[], _, .none, he, rfl⟩
  · obtain ⟨used, he, rfl⟩ := exponent_of_skipExponent (.inr rfl) h
    exact ⟨[], _, .none, he, rfl⟩
  · cases h
    exact ⟨[], [], .none, .none, rfl⟩

theorem magnitude_of_skipMagnitude {text rest : Bytes} (h : skipMagnitude text = .ok rest) :
    ∃ used, Magnitude used ∧ text = used ++ rest := by
  have hzero {text : Bytes} (h : skipNumberTail text = .ok rest) :
      ∃ used, Magnitude used ∧ zero :: text = used ++ rest := by
    obtain ⟨f, e, hf, he, rfl⟩ := fraction_of_skipNumberTail h
    exact ⟨_, .zero hf he, by rw [List.cons_append, List.append_assoc]⟩
  unfold skipMagnitude at h
  split at h
  · cases h
  · split at h
    · split at h
      · cases h
      · exact hzero h
    · cases h
      exact hzero rfl
  · rename_i d text hne
    split at h
    · rename_i hd
      obtain ⟨ds, tail, hds, htail, rfl⟩ := exists_digits text
      rw [skipDigits, (span_digits hds htail).2] at h
      obtain ⟨f, e, hf, he, rfl⟩ := fraction_of_skipNumberTail h
      refine ⟨_, .digits hd (fun heq => hne heq) hds hf he, ?_⟩
      simp only [List.cons_append, List.append_assoc]
    · cases h

/-! ## Strings -/

/-- What is passed over as an escape is one. -/
theorem loose_of_skipEscape {text rest : Bytes} (h : skipEscape text = .ok rest) :
    ∃ used, (∀ tail, Loose tail → Loose (backslash :: (used ++ tail))) ∧ text = used ++ rest := by
  unfold skipEscape at h
  split at h
  · cases h
  · split at h
    · cases h
    · rename_i hread
      cases h
      obtain ⟨ds, hds, rfl⟩ := hex4_of_readHex4 hread
      exact ⟨lowerU :: ds, fun tail htail => .number hds htail, rfl⟩
  · split at h
    · rename_i hshort
      cases h
      obtain ⟨c, hc⟩ := Option.isSome_iff_exists.1 hshort
      obtain ⟨⟨e, d⟩, hp, rfl, -⟩ := letter_of_shortEscape? hc
      exact ⟨[_], fun tail htail => .letter hp htail, rfl⟩
    · cases h

theorem loose_of_skipContent {budget text rest : Bytes} (h : skipContent budget text = .ok rest) :
    ∃ content, Loose content ∧ text = content ++ quoteMark :: rest := by
  induction budget generalizing text with
  | nil => cases h
  | cons x budget ih =>
    unfold skipContent at h
    split at h
    · cases h
    · cases h
      exact ⟨[], .nil, rfl⟩
    · split at h
      · cases h
      · rename_i hescape
        obtain ⟨used, hused, rfl⟩ := loose_of_skipEscape hescape
        obtain ⟨content, hcontent, rfl⟩ := ih h
        exact ⟨_, hused content hcontent, by rw [List.cons_append, List.append_assoc]; rfl⟩
    · rename_i b text' hquote hback
      split at h
      · cases h
      · rename_i hcontrol
        obtain ⟨content, hcontent, rfl⟩ := ih h
        exact ⟨b :: content, .literal (isLiteral_of_not hcontrol hquote hback) hcontent, rfl⟩

theorem loose_of_skipQuoted {text rest : Bytes} (h : skipQuoted text = .ok rest) :
    ∃ content, Loose content ∧ text = content ++ quoteMark :: rest :=
  loose_of_skipContent h

/-! ## Values -/

theorem plain_of_skipScalar {b : UInt8} {text rest : Bytes} (h : skipScalar b text = .ok rest) :
    ∃ used, Plain (b :: used) ∧ text = used ++ rest := by
  unfold skipScalar at h
  split at h
  · exact ⟨_, .literalNull, eq_of_expectLiteral h⟩
  · exact ⟨_, .literalTrue, eq_of_expectLiteral h⟩
  · exact ⟨_, .literalFalse, eq_of_expectLiteral h⟩
  · obtain ⟨used, hused, rfl⟩ := magnitude_of_skipMagnitude h
    exact ⟨used, .negative hused, rfl⟩
  · obtain ⟨content, hcontent, rfl⟩ := loose_of_skipQuoted h
    exact ⟨_, .string hcontent, by rw [List.append_assoc]; rfl⟩
  · split at h
    · obtain ⟨used, hused, heq⟩ := magnitude_of_skipMagnitude h
      obtain ⟨d, ds, rfl, -⟩ := hused.exists_cons
      cases heq
      exact ⟨ds, .magnitude hused, rfl⟩
    · cases h

/-- A text of a tree is at the front of a text, with blanks before it and `rest` behind it. -/
inductive Tree.Front (t : Tree) (rest : Bytes) : Bytes → Prop where
  | blanks {ws text : Bytes} (hws : Blanks ws) (h : t.Text text) :
      Tree.Front t rest (ws ++ (text ++ rest))

theorem Tree.Front.of_skipGap {t : Tree} {text rest : Bytes} (h : t.Front rest (skipGap text)) :
    t.Front rest text := by
  obtain ⟨ws, hws, htext⟩ := exists_blanks text
  generalize skipGap text = text' at h htext
  obtain ⟨hws', h⟩ := h
  rw [htext, ← List.append_assoc]
  exact .blanks (List.forall_mem_append.2 ⟨hws, hws'⟩) h

theorem front_of_cons {t : Tree} {b : UInt8} {text used rest : Bytes}
    (hgap : skipGap text = b :: (used ++ rest)) (h : t.Text (b :: used)) : t.Front rest text := by
  refine .of_skipGap ?_
  rw [hgap]
  exact .blanks blanks_nil h

theorem exists_forall₂ {α β : Type} {R : α → β → Prop} {as : List α} (h : ∀ a ∈ as, ∃ b, R a b) :
    ∃ bs, List.Forall₂ R as bs := by
  induction as with
  | nil => exact ⟨[], .nil⟩
  | cons a as ih =>
    obtain ⟨b, hb⟩ := h a List.mem_cons_self
    obtain ⟨bs, hbs⟩ := ih fun a' ha' => h a' (List.mem_cons_of_mem a ha')
    exact ⟨b :: bs, .cons hb hbs⟩

namespace Frame

/-- The tree of a list or an object with these items. -/
theorem exists_tree {frame : Frame} {texts : List Bytes} (h : ∀ item ∈ texts, frame.Item item)
    {text : Bytes} (ht : Enclosed frame.closing texts text) :
    ∃ t : Tree, t.Text (frame.opening :: text) := by
  cases frame with
  | list =>
    obtain ⟨items, hitems⟩ : ∃ items, List.Forall₂ (fun text t => Tree.Text t text) texts items :=
      exists_forall₂ fun item hitem => by
        obtain ⟨hitem⟩ := h item hitem
        exact ⟨_, hitem⟩
    exact ⟨.array items, .array hitems.flip ht⟩
  | object =>
    obtain ⟨members, hmembers⟩ : ∃ members, MemberTexts members texts := by
      clear ht
      induction texts with
      | nil => exact ⟨[], .nil⟩
      | cons item texts ih =>
        obtain ⟨hitem, hitems⟩ := List.forall_mem_cons.1 h
        obtain ⟨members, hmembers⟩ := ih hitems
        obtain _ | ⟨hvalue, hafter⟩ := hitem
        exact ⟨_, .cons hvalue hafter hmembers⟩
    exact ⟨.object members, .object hmembers ht⟩

theorem exists_key {text rest : Bytes} (h : skipKey text = .ok rest) :
    ∃ (ws : Bytes) (k : Key) (ws' : Bytes), Blanks ws ∧ Blanks ws' ∧
      text = ws ++ (k.text ++ (ws' ++ colon :: rest)) := by
  obtain ⟨ws, hws, htext⟩ := exists_blanks text
  unfold skipKey at h
  split at h
  · cases h
  · rename_i hgap
    split at h
    · cases h
    · rename_i hskip
      obtain ⟨content, hcontent, rfl⟩ := loose_of_skipQuoted hskip
      obtain ⟨ws', hws', rfl⟩ := colon_of_expectColon h
      refine ⟨ws, ⟨content, hcontent⟩, ws', hws, hws', ?_⟩
      rw [htext, hgap, Key.text, List.cons_append, List.append_assoc]
      rfl
  · cases h

/-- What stands before a value belongs to one item with it. -/
theorem exists_item {frame : Frame} {t : Tree} {text next rest : Bytes}
    (hlead : frame.skipLead text = .ok next) (h : t.Front rest next) :
    ∃ ws item, Blanks ws ∧ frame.Item item ∧ text = ws ++ (item ++ rest) := by
  cases frame with
  | list =>
    cases hlead
    obtain ⟨hws, h⟩ := h
    exact ⟨_, _, hws, .value h, rfl⟩
  | object =>
    obtain ⟨ws, k, ws', hws, hws', rfl⟩ := exists_key hlead
    obtain ⟨hws'', h⟩ := h
    refine ⟨ws, _, hws, .member (k := k) h (.colon hws' hws''), ?_⟩
    simp only [List.append_assoc, List.cons_append]

theorem enter_after {frame : Frame} {text next : Bytes} (h : frame.enter text = .ok (.after, next)) :
    ∃ ws, Blanks ws ∧ text = ws ++ frame.closing :: next := by
  obtain ⟨ws, hws, htext⟩ := exists_blanks text
  unfold enter at h
  split at h
  · cases h
  · rename_i hgap
    split at h
    · rename_i hb
      cases h
      exact ⟨ws, hws, by rw [htext, hgap, hb]⟩
    · split at h <;> cases h

theorem enter_before {frame : Frame} {text next : Bytes}
    (h : frame.enter text = .ok (.before, next)) :
    ∃ ws text', Blanks ws ∧ text = ws ++ text' ∧ frame.skipLead text' = .ok next := by
  obtain ⟨ws, hws, htext⟩ := exists_blanks text
  unfold enter at h
  split at h
  · cases h
  · rename_i hgap
    split at h
    · cases h
    · split at h
      · cases h
      · rename_i hlead
        cases h
        exact ⟨ws, _, hws, by rw [htext, hgap], hlead⟩

theorem advance_after {frame : Frame} {text next : Bytes}
    (h : frame.advance text = .ok (.after, next)) :
    ∃ ws, Blanks ws ∧ text = ws ++ frame.closing :: next := by
  obtain ⟨ws, hws, htext⟩ := exists_blanks text
  unfold advance at h
  split at h
  · cases h
  · rename_i hgap
    split at h
    · split at h <;> cases h
    · split at h
      · rename_i hb
        cases h
        exact ⟨ws, hws, by rw [htext, hgap, hb]⟩
      · cases h

theorem advance_before {frame : Frame} {text next : Bytes}
    (h : frame.advance text = .ok (.before, next)) :
    ∃ ws text', Blanks ws ∧ text = ws ++ comma :: text' ∧ frame.skipLead text' = .ok next := by
  obtain ⟨ws, hws, htext⟩ := exists_blanks text
  unfold advance at h
  split at h
  · cases h
  · rename_i hgap
    split at h
    · rename_i hb
      split at h
      · cases h
      · rename_i hlead
        cases h
        exact ⟨ws, _, hws, by rw [htext, hgap, hb], hlead⟩
    · split at h <;> cases h

end Frame

/-- The loop stops behind a value, or behind all that is left of what is innermost: the items that
follow the last one, and the closing bracket. -/
structure StopsBehind (budget : Bytes) : Prop where
  value : ∀ {frames text rest}, skipFrom budget .before frames text = .ok rest →
    ∃ (t : Tree) (next left : Bytes), left.length < budget.length ∧ t.Front next text ∧
      skipFrom left .after frames next = .ok rest
  items : ∀ {frame frames text rest}, skipFrom budget .after (frame :: frames) text = .ok rest →
    ∃ (texts : List Bytes) (used next left : Bytes), left.length < budget.length ∧
      (∀ item ∈ texts, frame.Item item) ∧ Followed frame.closing texts used ∧
      text = used ++ next ∧ skipFrom left .after frames next = .ok rest

section Step

variable {budget : Bytes} (h : ∀ left : Bytes, left.length ≤ budget.length → StopsBehind left)
  {frame : Frame} {frames : List Frame} {text rest : Bytes}
include h

/-- From before an item, what is passed over is that item and all that follows it. -/
theorem items_of_skipLead {next : Bytes} (hlead : frame.skipLead text = .ok next)
    (hskip : skipFrom budget .before (frame :: frames) next = .ok rest) :
    ∃ (ws item : Bytes) (texts : List Bytes) (used next left : Bytes),
      left.length ≤ budget.length ∧ Blanks ws ∧ (∀ i ∈ item :: texts, frame.Item i) ∧
      Followed frame.closing texts used ∧ text = ws ++ (item ++ (used ++ next)) ∧
      skipFrom left .after frames next = .ok rest := by
  obtain ⟨t, mid, left, hleft, hfront, hafter⟩ := (h budget (Nat.le_refl _)).value hskip
  obtain ⟨texts, used, next', left', hleft', hitems, hfollowed, rfl, hrest⟩ :=
    (h left (Nat.le_of_lt hleft)).items hafter
  obtain ⟨ws, item, hws, hitem, rfl⟩ := Frame.exists_item hlead hfront
  exact ⟨ws, item, texts, used, next', left', by omega, hws,
    List.forall_mem_cons.2 ⟨hitem, hitems⟩, hfollowed, rfl, hrest⟩

theorem tree_of_opening {x : UInt8}
    (hskip : skipFrom (x :: budget) .before frames (frame.opening :: text) = .ok rest) :
    ∃ (t : Tree) (used next left : Bytes), left.length ≤ budget.length ∧
      t.Text (frame.opening :: used) ∧ text = used ++ next ∧
      skipFrom left .after frames next = .ok rest := by
  rw [Frame.skipFrom_opening] at hskip
  split at hskip
  · cases hskip
  · rename_i henter
    obtain ⟨ws, hws, rfl⟩ := Frame.enter_after henter
    obtain ⟨t, ht⟩ := Frame.exists_tree (List.forall_mem_nil _) (.empty hws)
    refine ⟨t, _, _, budget, Nat.le_refl _, ht, ?_, hskip⟩
    rw [List.append_assoc, List.singleton_append]
  · rename_i henter
    obtain ⟨ws, text', hws, rfl, hlead⟩ := Frame.enter_before henter
    obtain ⟨ws', item, texts, used, next, left, hleft, hws', hitems, hfollowed, rfl, hrest⟩ :=
      items_of_skipLead h hlead hskip
    obtain ⟨t, ht⟩ :=
      Frame.exists_tree hitems (.items (List.forall_mem_append.2 ⟨hws, hws'⟩) hfollowed)
    refine ⟨t, _, next, left, hleft, ht, ?_, hrest⟩
    simp only [List.append_assoc]

theorem stopsBehind_value {x : UInt8}
    (hskip : skipFrom (x :: budget) .before frames text = .ok rest) :
    ∃ (t : Tree) (next left : Bytes), left.length ≤ budget.length ∧ t.Front next text ∧
      skipFrom left .after frames next = .ok rest := by
  have hopening (frame : Frame) {text' : Bytes} (hgap : skipGap text = frame.opening :: text') :
      ∃ (t : Tree) (next left : Bytes), left.length ≤ budget.length ∧ t.Front next text ∧
        skipFrom left .after frames next = .ok rest := by
    obtain ⟨ws, hws, htext⟩ := exists_blanks text
    rw [htext, skipFrom_blanks hws, hgap] at hskip
    obtain ⟨t, used, next, left, hleft, ht, rfl, hrest⟩ := tree_of_opening h hskip
    exact ⟨t, next, left, hleft, front_of_cons hgap ht, hrest⟩
  have hskip' := hskip
  unfold skipFrom at hskip'
  split at hskip'
  · cases hskip'
  · exact hopening .list ‹_›
  · exact hopening .object ‹_›
  · rename_i hgap
    split at hskip'
    · cases hskip'
    · rename_i hscalar
      obtain ⟨used, hused, rfl⟩ := plain_of_skipScalar hscalar
      exact ⟨.plain _ hused, _, budget, Nat.le_refl _, front_of_cons hgap (.plain hused), hskip'⟩

theorem stopsBehind_items {x : UInt8}
    (hskip : skipFrom (x :: budget) .after (frame :: frames) text = .ok rest) :
    ∃ (texts : List Bytes) (used next left : Bytes), left.length ≤ budget.length ∧
      (∀ item ∈ texts, frame.Item item) ∧ Followed frame.closing texts used ∧
      text = used ++ next ∧ skipFrom left .after frames next = .ok rest := by
  unfold skipFrom at hskip
  split at hskip
  · cases hskip
  · rename_i hadvance
    obtain ⟨ws, hws, rfl⟩ := Frame.advance_after hadvance
    refine ⟨[], _, _, budget, Nat.le_refl _, List.forall_mem_nil _, .close hws, ?_, hskip⟩
    rw [List.append_assoc, List.singleton_append]
  · rename_i hadvance
    obtain ⟨ws, text', hws, rfl, hlead⟩ := Frame.advance_before hadvance
    obtain ⟨ws', item, texts, used, next, left, hleft, hws', hitems, hfollowed, rfl, hrest⟩ :=
      items_of_skipLead h hlead hskip
    refine ⟨item :: texts, _, next, left, hleft, hitems, .comma hws hws' hfollowed, ?_, hrest⟩
    simp only [List.append_assoc, List.cons_append]

end Step

/-- By induction on the budget, for any stack of what is open. -/
theorem stopsBehind (budget : Bytes) : StopsBehind budget := by
  induction hn : budget.length using Nat.strongRecOn generalizing budget with
  | ind n ih =>
    subst hn
    cases budget with
    | nil =>
      constructor
      · intro frames text rest h
        cases h
      · intro frame frames text rest h
        cases h
    | cons x budget =>
      have hshorter (left : Bytes) (hleft : left.length ≤ budget.length) : StopsBehind left :=
        ih _ (Nat.lt_succ_of_le hleft) left rfl
      constructor
      · intro frames text rest h
        obtain ⟨t, next, left, hleft, hvalue⟩ := stopsBehind_value hshorter h
        exact ⟨t, next, left, Nat.lt_succ_of_le hleft, hvalue⟩
      · intro frame frames text rest h
        obtain ⟨texts, used, next, left, hleft, hitems⟩ := stopsBehind_items hshorter h
        exact ⟨texts, used, next, left, Nat.lt_succ_of_le hleft, hitems⟩

/-- What is passed over as a value is one. -/
theorem front_of_skipValue {text rest : Bytes} (h : skipValue text = .ok rest) :
    ∃ t : Tree, t.Front rest text := by
  obtain ⟨t, next, left, -, hfront, hrest⟩ := (stopsBehind _).value h
  obtain rfl : next = rest := by
    cases left <;> cases hrest <;> rfl
  exact ⟨t, hfront⟩

/-- What is passed over as the value of a member is one behind its colon. -/
theorem front_of_skipMember {σ : Type} {gathered gathered' : σ} {text rest : Bytes}
    (h : skipMember gathered text = .ok (gathered', rest)) :
    gathered' = gathered ∧ ∃ (t : Tree) (value after : Bytes), t.Text value ∧
      AfterName value after ∧ text = after ++ rest := by
  unfold skipMember at h
  split at h
  · cases h
  · rename_i hcolon
    split at h
    · cases h
    · rename_i hskip
      cases h
      obtain ⟨ws, hws, rfl⟩ := colon_of_expectColon hcolon
      obtain ⟨t, ⟨hws', ht⟩⟩ := front_of_skipValue hskip
      refine ⟨rfl, t, _, _, ht, .colon hws hws', ?_⟩
      simp only [List.append_assoc, List.cons_append]

end Json
end Scoreline
