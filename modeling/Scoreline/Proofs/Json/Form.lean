import Scoreline.Json.Form
import Scoreline.Proofs.Json.Written
import Scoreline.Proofs.Words

/-!
# Scoreline.Proofs.Json.Form

Forms whose reader undoes their writer, in one line or over several.

A form is `LawfulAt` a value when its reader starts at the first byte that is no blank, and reads
the text of the value back, whatever follows that a number could end at; it is `Lawful` when it is
lawful at all values. `LawfulAt.parse_text` says what this means for a whole text. The forms of
integers, strings and truth values are lawful, and lists and records are wherever their parts are; a
record also needs that no two of its members have one name (`Fields.LawfulAt`), and an option that no
value could be taken for `null` (`Form.NeverNull`). What a form with a check accepts is what passes
the check of all that the form accepts without it (`Form.parse_checked_eq_ok_iff`). The names of
variants without content are read by themselves (`readVariant_takes`).
-/

namespace Scoreline
namespace Json

open Text (bytes utf8)

/-- The text of a written value. -/
def Form.written {α : Type} (f : Form α) (gap : Option Nat) (a : α) : Bytes :=
  Text.bytes ((f.write a).chars gap)

structure Form.Lawful {α : Type} (f : Form α) : Prop where
  read_skipGap : ∀ text, f.read (skipGap text) = f.read text
  opensValue : ∀ gap a, OpensValue (f.written gap a)
  read_written : ∀ gap a rest, EndsNumber rest → f.read (f.written gap a ++ rest) = .ok (a, rest)

/-- Whether a form reads this value as it writes it. -/
structure Form.LawfulAt {α : Type} (f : Form α) (a : α) : Prop where
  read_skipGap : ∀ text, f.read (skipGap text) = f.read text
  readsAs : ∀ gap, ReadsAs f.read gap (f.write a) a

namespace Form

variable {α : Type} {f : Form α}

theorem Lawful.lawfulAt (h : f.Lawful) (a : α) : f.LawfulAt a where
  read_skipGap := h.read_skipGap
  readsAs gap := ⟨h.opensValue gap a, h.read_written gap a⟩

theorem lawful_of_readsAs (hskip : ∀ text, f.read (skipGap text) = f.read text)
    (h : ∀ gap a, ReadsAs f.read gap (f.write a) a) : f.Lawful where
  read_skipGap := hskip
  opensValue gap a := (h gap a).opensValue
  read_written gap a := (h gap a).read_append

theorem utf8_text (f : Form α) (a : α) : utf8 (f.text a) = f.written none a :=
  Text.utf8_ofList _

theorem utf8_prettyText (f : Form α) (a : α) : utf8 (f.prettyText a) = f.written (some 0) a :=
  Text.utf8_ofList _

/-- A whole text is read as it was written. -/
theorem LawfulAt.parse_text {a : α} (h : f.LawfulAt a) : f.parse (utf8 (f.text a)) = .ok a := by
  rw [utf8_text]
  exact (h.readsAs none).readWhole_eq

theorem LawfulAt.parse_prettyText {a : α} (h : f.LawfulAt a) :
    f.parse (utf8 (f.prettyText a)) = .ok a := by
  rw [utf8_prettyText]
  exact (h.readsAs (some 0)).readWhole_eq

/-- Whether a value is read back from its text, in one line or over several. -/
def Rereads (f : Form α) (a : α) : Prop :=
  f.parse (utf8 (f.text a)) = .ok a ∧ f.parse (utf8 (f.prettyText a)) = .ok a

theorem LawfulAt.rereads {a : α} (h : f.LawfulAt a) : f.Rereads a :=
  ⟨h.parse_text, h.parse_prettyText⟩

theorem Lawful.rereads (h : f.Lawful) (a : α) : f.Rereads a := (h.lawfulAt a).rereads

theorem Lawful.parse_text (h : f.Lawful) (a : α) : f.parse (utf8 (f.text a)) = .ok a :=
  (h.lawfulAt a).parse_text

theorem Lawful.parse_prettyText (h : f.Lawful) (a : α) :
    f.parse (utf8 (f.prettyText a)) = .ok a :=
  (h.lawfulAt a).parse_prettyText

/-! ## Plain types -/

theorem int64_lawful : int64.Lawful where
  read_skipGap text := by
    simp only [int64, readInteger, readNumber, skipGap_skipGap]
  opensValue gap n := opensValue_integerChars n.toInt
  read_written gap n rest hrest := by
    have hlow := Int64.minValue_le_toInt n
    have hhigh := Int64.toInt_le n
    have hwrite : int64.written gap n = bytes (integerChars n.toInt) := rfl
    have hread := readInteger_write "i64" hlow hhigh hlow
      (by rw [maxValue_toInt] at hhigh; simp only [largestSignificand, UInt64.size]; omega) hrest
    rw [hwrite]
    simp only [int64, hread, Int64.ofInt_toInt]

/-- A natural of a type with `size` values is read as it was written, if a machine word holds it. -/
theorem readInteger_natural (expected : String) {n size : Nat} (hn : n < size)
    (hsize : size ≤ UInt64.size) {rest : Bytes} (hrest : EndsNumber rest) :
    readInteger expected 0 (size - 1 : Nat) (bytes (integerChars n) ++ rest) =
      .ok ((n : Int), rest) := by
  refine readInteger_write expected (by omega) (by omega) ?_ ?_ hrest
  · rw [minValue_toInt]
    omega
  · simp only [largestSignificand]
    omega

theorem uint32_lawful : uint32.Lawful where
  read_skipGap text := by
    simp only [uint32, readInteger, readNumber, skipGap_skipGap]
  opensValue gap n := opensValue_integerChars n.toNat
  read_written gap n rest hrest := by
    have hwrite : uint32.written gap n = bytes (integerChars n.toNat) := rfl
    have hread := readInteger_natural "u32" n.toNat_lt_size (by decide) hrest
    rw [hwrite]
    simp only [uint32, hread, Int.toNat_natCast, UInt32.ofNat_toNat]

theorem word_lawful (name : String) : (word name).Lawful where
  read_skipGap text := by
    simp only [word, readInteger, readNumber, skipGap_skipGap]
  opensValue gap n := opensValue_integerChars n.toNat
  read_written gap n rest hrest := by
    have hwrite : (word name).written gap n = bytes (integerChars n.toNat) := rfl
    have hread := readInteger_natural name n.toNat_lt_size (Nat.le_refl _) hrest
    rw [hwrite]
    simp only [word, hread, Int.toNat_natCast, UInt64.ofNat_toNat]

/-- A string is read from any text of it. -/
theorem string_takes {s : String} {text : Bytes} (h : Quoted s text) :
    Takes string.read text (.ok s) := by
  refine ⟨h.opensValue, fun rest _ => ?_⟩
  obtain ⟨inside, rfl, hread⟩ := h.exists_inside
  exact hread rest

theorem string_lawful : string.Lawful where
  read_skipGap text := by
    simp only [string, readString, skipGap_skipGap]
  opensValue gap s := opensValue_stringChars s
  read_written gap s := (string_takes (quoted_stringChars s)).read_append

theorem boolean_lawful : boolean.Lawful where
  read_skipGap text := by
    simp only [boolean, readBoolean, skipGap_skipGap]
  opensValue gap b := by
    cases b
    all_goals exact opensValue_cons rfl (by decide) (by decide) _
  read_written gap b rest _ := by
    cases b
    all_goals rfl

/-! ## Checked forms -/

/-- A whole text is read when nothing but blanks is left. -/
theorem readWhole_eq_ok_iff {read : Reader α} {text : Bytes} {a : α} :
    readWhole read text = .ok a ↔ ∃ rest, read text = .ok (a, rest) ∧ skipGap rest = [] := by
  rw [readWhole]
  constructor
  · intro h
    split at h
    · cases h
    · rename_i rest hread
      split at h
      · cases h
        exact ⟨rest, hread, ‹_›⟩
      · cases h
  · rintro ⟨rest, hread, hrest⟩
    simp only [hread, hrest]

section Checked

variable {β : Type} {make : α → Except String β} {plain : β → α} {text : Bytes} {b : β}

theorem read_checked_eq_ok_iff {rest : Bytes} :
    (checked f make plain).read text = .ok (b, rest) ↔
      ∃ a, f.read text = .ok (a, rest) ∧ make a = .ok b := by
  simp only [checked]
  constructor
  · intro h
    split at h
    · cases h
    · rename_i a _ hread
      split at h
      · cases h
      · cases h
        exact ⟨a, hread, ‹_›⟩
  · rintro ⟨a, hread, hmake⟩
    simp only [hread, hmake]

/-- A checked form accepts the texts of the values that pass, and no others. -/
theorem parse_checked_eq_ok_iff :
    (checked f make plain).parse text = .ok b ↔
      ∃ a, f.parse text = .ok a ∧ make a = .ok b := by
  simp only [parse, readWhole_eq_ok_iff, read_checked_eq_ok_iff]
  constructor
  · rintro ⟨rest, ⟨a, hread, hmake⟩, hrest⟩
    exact ⟨a, ⟨rest, hread, hrest⟩, hmake⟩
  · rintro ⟨a, ⟨rest, hread, hrest⟩, hmake⟩
    exact ⟨rest, ⟨a, hread, hmake⟩, hrest⟩

end Checked

/-! ## Lists -/

theorem read_list (f : Form α) (text : Bytes) :
    (list f).read (listOpen :: text) = readElements f.read text := rfl

theorem read_list_skipGap (f : Form α) (text : Bytes) :
    (list f).read (skipGap text) = (list f).read text := by
  simp only [list, readList, skipGap_skipGap]

/-- A list is read as it was written if each of its elements is. -/
theorem list_lawfulAt {as : List α} (h : ∀ a ∈ as, f.LawfulAt a) : (list f).LawfulAt as where
  read_skipGap := read_list_skipGap f
  readsAs gap := by
    have hitems : List.Forall₂ (ReadsAs f.read (inner gap)) (as.map f.write) as :=
      List.forall₂_map_left_iff.2 (List.forall₂_same.2 fun a ha => (h a ha).readsAs (inner gap))
    refine ⟨opensValue_array gap _, fun rest _ => ?_⟩
    obtain ⟨text, htext, hread⟩ := readElements_array hitems rest
    have hwritten : bytes (((list f).write as).chars gap) ++ rest = listOpen :: text := htext
    rw [hwritten, read_list, hread]

theorem list_lawful (h : f.Lawful) : (list f).Lawful :=
  lawful_of_readsAs (read_list_skipGap f) fun gap as =>
    (list_lawfulAt fun a (_ : a ∈ as) => h.lawfulAt a).readsAs gap

/-! ## Options -/

/-- Whether no value of a form has a text that begins as `null` does. -/
def NeverNull (f : Form α) : Prop := ∀ gap a, (f.written gap a).head? ≠ some lowerN

theorem head?_cons_ne {b : UInt8} (h : b ≠ lowerN) (text : Bytes) :
    (b :: text).head? ≠ some lowerN := fun heq => h (Option.some.inj heq)

theorem int64_neverNull : int64.NeverNull := by
  intro gap n
  have hwrite : int64.written gap n = bytes (integerChars n.toInt) := rfl
  obtain ⟨d, ds, heq, hd⟩ := exists_digitBytes_cons n.toInt.natAbs
  rw [hwrite, bytes_integerChars]
  split
  · exact head?_cons_ne (by decide) _
  · rw [heq]
    refine head?_cons_ne ?_ ds
    rintro rfl
    exact absurd hd (by decide)

theorem string_neverNull : string.NeverNull := by
  intro gap s
  have hwrite : string.written gap s = bytes (stringChars s) := rfl
  rw [hwrite, ← List.append_nil (bytes _), bytes_stringChars]
  exact head?_cons_ne (by decide) _

theorem list_neverNull (f : Form α) : (list f).NeverNull := by
  intro gap as
  obtain ⟨text, htext, -⟩ := enclosed_array gap (as.map f.write)
  have hwritten : (list f).written gap as = listOpen :: text := htext
  rw [hwritten]
  exact head?_cons_ne (by decide) text

theorem read_option_of_head? {text : Bytes} (hopens : OpensValue text)
    (hnull : text.head? ≠ some lowerN) :
    (option f).read text =
      match f.read text with
      | .error p => .error p
      | .ok (a, rest) => .ok (some a, rest) := by
  obtain ⟨b, rest, rfl, hgap, -, -⟩ := hopens
  have hb : b ≠ lowerN := fun heq => hnull (heq ▸ rfl)
  simp only [option, readOption, skipGap_cons hgap]
  split
  · rename_i heq
    cases heq
    exact absurd rfl hb
  · rfl

/-- That there is no value is told from all values by the first byte. -/
theorem option_lawful (h : f.Lawful) (hnull : f.NeverNull) : (option f).Lawful where
  read_skipGap text := by
    simp only [option, readOption, skipGap_skipGap]
  opensValue gap a := by
    cases a with
    | none => exact opensValue_cons rfl (by decide) (by decide) _
    | some a => exact h.opensValue gap a
  read_written gap a rest hrest := by
    cases a with
    | none => rfl
    | some a =>
      have hopens := h.opensValue gap a
      have hhead : (f.written gap a ++ rest).head? ≠ some lowerN := by
        rw [List.head?_append_of_ne_nil _ (List.ne_nil_of_length_pos hopens.length_pos)]
        exact hnull gap a
      have hwrite : (option f).written gap (some a) = f.written gap a := rfl
      rw [hwrite, read_option_of_head? (hopens.append rest) hhead, h.read_written gap a rest hrest]

end Form

/-! ## Records -/

namespace Fields

/-- No two members have one name, and the form of each is lawful. -/
def Lawful : {τ : Type} → Fields τ → Prop
  | _, .nil => True
  | _, .cons name form _ rest => name ∉ rest.names ∧ form.Lawful ∧ rest.Lawful

/-- No two members have one name, and the form of each is lawful at its value. -/
def LawfulAt : {τ : Type} → Fields τ → τ → Prop
  | _, .nil, () => True
  | _, .cons name form _ rest, (a, b) => name ∉ rest.names ∧ form.LawfulAt a ∧ rest.LawfulAt b

theorem Lawful.lawfulAt {τ : Type} {fs : Fields τ} (h : fs.Lawful) (t : τ) : fs.LawfulAt t := by
  induction fs with
  | nil => exact trivial
  | cons name form fallback rest ih =>
    obtain ⟨a, b⟩ := t
    obtain ⟨hname, hform, hrest⟩ := h
    exact ⟨hname, hform.lawfulAt a, ih hrest b⟩

/-- Every member has been read. -/
def full : {τ : Type} → (fs : Fields τ) → τ → fs.Slots
  | _, .nil, () => ()
  | _, .cons _ _ _ rest, (a, b) => (some a, rest.full b)

theorem complete_full {τ : Type} (fs : Fields τ) (t : τ) : fs.complete (fs.full t) = .ok t := by
  induction fs with
  | nil => rfl
  | cons name form fallback rest ih =>
    obtain ⟨a, b⟩ := t
    simp only [full, complete, Option.some_or, ih]

theorem names_write {τ : Type} (fs : Fields τ) (t : τ) :
    (fs.write t).map Prod.fst = fs.names := by
  induction fs with
  | nil => rfl
  | cons name form fallback rest ih =>
    obtain ⟨a, b⟩ := t
    rw [write, List.map_cons, ih, names]

section Cons

variable {α β : Type} {name : String} {form : Form α} {fallback : Option α} {rest : Fields β}

theorem readKey_self (others : rest.Slots) {text tail : Bytes} {a : α}
    (h : readMember form.read text = .ok (a, tail)) :
    (cons name form fallback rest).readKey name (none, others) text =
      .ok ((some a, others), tail) := by
  simp only [readKey, if_true, h]

theorem readKey_other {key : String} (hkey : key ≠ name) (slot : Option α)
    {others others' : rest.Slots} {text tail : Bytes}
    (h : rest.readKey key others text = .ok (others', tail)) :
    (cons name form fallback rest).readKey key (slot, others) text =
      .ok ((slot, others'), tail) := by
  simp only [readKey, if_neg hkey, h]

/-- Members of other names leave the first slot as it is. -/
theorem gathers_others {gap : Option Nat} {ms : List (String × Value)} {others others' : rest.Slots}
    (h : Gathers (fun key slots => rest.readKey key slots) gap others ms others')
    (hnames : name ∉ ms.map Prod.fst) (slot : Option α) :
    Gathers (fun key slots => (cons name form fallback rest).readKey key slots) gap
      (slot, others) ms (slot, others') := by
  induction h with
  | nil others => exact .nil _
  | cons head tail ih =>
    rw [List.map_cons, List.mem_cons, not_or] at hnames
    refine .cons (fun text htext => ?_) (ih hnames.2)
    exact readKey_other (Ne.symm hnames.1) slot (head text htext)

end Cons

/-- The written members fill all slots. -/
theorem gathers_write {τ : Type} {fs : Fields τ} {t : τ} (h : fs.LawfulAt t) (gap : Option Nat) :
    Gathers (fun key slots => fs.readKey key slots) gap fs.empty (fs.write t) (fs.full t) := by
  induction fs with
  | nil => exact .nil _
  | cons name form fallback rest ih =>
    obtain ⟨a, b⟩ := t
    obtain ⟨hname, hform, hrest⟩ := h
    have hothers : name ∉ (rest.write b).map Prod.fst := by
      rw [names_write]
      exact hname
    -- the first member fills the first slot, and the others leave it filled
    refine .cons (fun text htext => ?_) (gathers_others (ih hrest) hothers (some a))
    exact readKey_self _ ((hform.readsAs gap).readMember_afterName hform.read_skipGap htext)

end Fields

namespace Form

variable {α τ : Type}

theorem read_record (name : String) (fs : Fields τ) (make : τ → α) (parts : α → τ) (text : Bytes) :
    (record name fs make parts).read (objectOpen :: text) =
      match fs.readObject text with
      | .error p => .error p
      | .ok (t, rest) => .ok (make t, rest) := rfl

theorem read_record_skipGap (name : String) (fs : Fields τ) (make : τ → α) (parts : α → τ)
    (text : Bytes) :
    (record name fs make parts).read (skipGap text) = (record name fs make parts).read text := by
  simp only [record, skipGap_skipGap]

/-- A record is read as it was written if each of its members is. -/
theorem record_lawfulAt (name : String) {fs : Fields τ} {make : τ → α} {parts : α → τ} {a : α}
    (h : fs.LawfulAt (parts a)) (hmake : make (parts a) = a) :
    (record name fs make parts).LawfulAt a where
  read_skipGap := read_record_skipGap name fs make parts
  readsAs gap := by
    refine ⟨opensValue_object gap _, fun rest _ => ?_⟩
    obtain ⟨text, close, htext, hmembers, hclose⟩ :=
      readMembers_object (Fields.gathers_write h (inner gap)) rest
    have hwritten : bytes (((record name fs make parts).write a).chars gap) ++ rest =
        objectOpen :: text := htext
    rw [hwritten, read_record]
    simp only [Fields.readObject, hmembers, fs.complete_full, hclose, hmake]

theorem record_lawful (name : String) {fs : Fields τ} (h : fs.Lawful) {make : τ → α}
    {parts : α → τ} (hmake : ∀ a, make (parts a) = a) : (record name fs make parts).Lawful :=
  lawful_of_readsAs (read_record_skipGap name fs make parts) fun gap a =>
    (record_lawfulAt name (h.lawfulAt (parts a)) (hmake a)).readsAs gap

end Form

/-! ## Variants without content -/

section Variants

variable {α : Type} {known : Variants α} {name : String} {a : α}

theorem readVariantName_skipGap (text : Bytes) :
    readVariantName known (skipGap text) = readVariantName known text := by
  simp only [readVariantName, skipGap_skipGap]

theorem readVariant_skipGap (text : Bytes) :
    readVariant known (skipGap text) = readVariant known text := by
  simp only [readVariant, skipGap_skipGap]

theorem readVariantName_quote (known : Variants α) (text : Bytes) :
    readVariantName known (quoteMark :: text) =
      match readQuoted text with
      | .error p => .error p
      | .ok (name, rest) =>
        match known.find name with
        | .error p => .error p
        | .ok a => .ok (a, rest) := rfl

/-- The name of a known variant is read as the variant. -/
theorem readVariantName_takes (h : known.find name = .ok a) {text : Bytes} (ht : Quoted name text) :
    Takes (readVariantName known) text (.ok a) := by
  refine ⟨ht.opensValue, fun rest _ => ?_⟩
  obtain ⟨inside, rfl, hread⟩ := ht.exists_inside
  rw [List.cons_append, readVariantName_quote, hread]
  simp only [h]
  rfl

theorem readVariant_takes (h : known.find name = .ok a) {text : Bytes} (ht : Quoted name text) :
    Takes (readVariant known) text (.ok a) := by
  have hname := readVariantName_takes h ht
  have hread (text : Bytes) : readVariant known (quoteMark :: text) =
      readVariantName known (quoteMark :: text) := rfl
  refine ⟨hname.opensValue, fun rest hrest => ?_⟩
  rw [← hname.read_append rest hrest]
  obtain ⟨hcontent⟩ := ht
  exact hread _

theorem readVariant_readsAs (h : known.find name = .ok a) (gap : Option Nat) :
    ReadsAs (readVariant known) gap (.string name) a :=
  (readVariant_takes h (quoted_stringChars name)).readsAs

end Variants

end Json
end Scoreline
