import Scoreline.Json.Reader
import Scoreline.Json.Render

/-!
# Scoreline.Json.Form

A `Form` is how values of a type stand in JSON: a reader and a writer. This module holds the forms
of the plain types and the ways to make forms out of forms.

A record (`Form.record`) is described once, by its members in order. It is written as an object with
exactly these members. It is read from an object — members in any order, none twice, unknown ones
passed over — or from a list of the member values in order. A member with a fallback may be absent.
-/

namespace Scoreline
namespace Json

structure Form (α : Type) where
  read : Reader α
  write : α → Value

namespace Form

variable {α β : Type}

/-! ## Plain types -/

/-- The value of a number, as a number of the single format. -/
def toSingle : Number → Decimal.Binary
  | .integer n => Decimal.Format.single.ofInt n
  | .real _ x => x.toFormat .single

def int64 : Form Int64 where
  read text :=
    match readInteger "i64" Int64.minValue.toInt Int64.maxValue.toInt text with
    | .error p => .error p
    | .ok (n, rest) => .ok (Int64.ofInt n, rest)
  write n := .number (.integer n.toInt)

/-- Naturals below `2 ^ 64`; messages call the type `name`. -/
def word (name : String) : Form UInt64 where
  read text :=
    match readInteger name 0 (UInt64.size - 1 : Nat) text with
    | .error p => .error p
    | .ok (n, rest) => .ok (UInt64.ofNat n.toNat, rest)
  write n := .number (.integer n.toNat)

/-- A count of things. -/
def count : Form UInt64 := word "usize"

def uint64 : Form UInt64 := word "u64"

def uint32 : Form UInt32 where
  read text :=
    match readInteger "u32" 0 (UInt32.size - 1 : Nat) text with
    | .error p => .error p
    | .ok (n, rest) => .ok (UInt32.ofNat n.toNat, rest)
  write n := .number (.integer n.toNat)

/-- Real numbers of the single format. -/
def single : Form Decimal.Binary where
  read text :=
    match readNumber "f32" text with
    | .error p => .error p
    | .ok (n, rest) => .ok (toSingle n, rest)
  write x := .number (.real .single x)

def string : Form String := ⟨readString, .string⟩

def boolean : Form Bool := ⟨readBoolean, .boolean⟩

/-! ## Forms out of forms -/

/-- No value is `null`. -/
def option (f : Form α) : Form (Option α) where
  read := readOption f.read
  write
    | none => .null
    | some a => f.write a

def list (f : Form α) : Form (List α) where
  read := readList f.read
  write as := .array (as.map f.write)

/-- A type whose values are checked when they are read: `make` may refuse with a reason. -/
def checked (f : Form α) (make : α → Except String β) (plain : β → α) : Form β where
  read text :=
    match f.read text with
    | .error p => .error p
    | .ok (a, rest) =>
      match make a with
      | .error reason => .error (.mismatch (.refused reason))
      | .ok b => .ok (b, rest)
  write b := f.write (plain b)

end Form

/-! ## Records -/

/-- The members of a record in order, and the type of their values taken together. -/
inductive Fields : Type → Type 1 where
  | nil : Fields Unit
  | cons {α β : Type} (name : String) (form : Form α) (fallback : Option α) (rest : Fields β) :
      Fields (α × β)

namespace Fields

/-- A member that must be there. -/
def required {α β : Type} (name : String) (form : Form α) (rest : Fields β) : Fields (α × β) :=
  .cons name form none rest

/-- A member that stands for `fallback` when it is absent. -/
def defaulted {α β : Type} (name : String) (form : Form α) (fallback : α) (rest : Fields β) :
    Fields (α × β) :=
  .cons name form (some fallback) rest

def length {τ : Type} : Fields τ → Nat
  | .nil => 0
  | .cons _ _ _ rest => rest.length + 1

def names {τ : Type} : Fields τ → List String
  | .nil => []
  | .cons name _ _ rest => name :: rest.names

/-- What has been read of each member. -/
def Slots : {τ : Type} → Fields τ → Type
  | _, .nil => Unit
  | _, .cons (α := α) _ _ _ rest => Option α × rest.Slots

/-- Nothing read yet. -/
def empty : {τ : Type} → (fs : Fields τ) → fs.Slots
  | _, .nil => ()
  | _, .cons _ _ _ rest => (none, rest.empty)

/-- Reads the member called `key`; every other name is passed over. A second value for a member is
refused before it is read. -/
def readKey : {τ : Type} → (fs : Fields τ) → (key : String) → fs.Slots → Reader fs.Slots
  | _, .nil, _, slots, text => skipMember slots text
  | _, .cons name form _ rest, key, slots, text =>
    let (slot, others) : Option _ × rest.Slots := slots
    if key = name then
      match slot with
      | some _ => .error (.mismatch (.duplicate name))
      | none =>
        match readMember form.read text with
        | .error p => .error p
        | .ok (a, text) => .ok ((some a, others), text)
    else
      match rest.readKey key others text with
      | .error p => .error p
      | .ok (others, text) => .ok ((slot, others), text)

/-- The values of all members. The first absent one without a fallback is missed. -/
def complete : {τ : Type} → (fs : Fields τ) → fs.Slots → Except Problem τ
  | _, .nil, _ => .ok ()
  | _, .cons name _ fallback rest, slots =>
    let (slot, others) : Option _ × rest.Slots := slots
    match slot.or fallback with
    | none => .error (.mismatch (.missing name))
    | some a =>
      match rest.complete others with
      | .error p => .error p
      | .ok b => .ok (a, b)

/-- Reads an object whose opening brace has been read. -/
def readObject {τ : Type} (fs : Fields τ) : Reader τ := fun text =>
  match readMembers (fun key slots => fs.readKey key slots) fs.empty text with
  | .error p => .error p
  | .ok (slots, rest) =>
    match fs.complete slots with
    | .error p => .error p
    | .ok t =>
      match closeObject rest with
      | .error p => .error p
      | .ok rest => .ok (t, rest)

/-- Reads the members from a list, the first of them at place `index`; `expected` names the record
and its length. -/
def readPlaces (expected : String) : {τ : Type} → (fs : Fields τ) → (index : Nat) → Reader τ
  | _, .nil, _, text => .ok ((), text)
  | _, .cons _ form fallback rest, index, text =>
    match nextElement (index == 0) text with
    | .error p => .error p
    | .ok none =>
      match fallback with
      | none => .error (.mismatch (.length index expected))
      | some a =>
        match rest.readPlaces expected (index + 1) text with
        | .error p => .error p
        | .ok (b, text) => .ok ((a, b), text)
    | .ok (some text) =>
      match form.read text with
      | .error p => .error p
      | .ok (a, text) =>
        match rest.readPlaces expected (index + 1) text with
        | .error p => .error p
        | .ok (b, text) => .ok ((a, b), text)

/-- Reads a list whose opening bracket has been read. -/
def readTuple {τ : Type} (expected : String) (fs : Fields τ) : Reader τ := fun text =>
  match fs.readPlaces expected 0 text with
  | .error p => .error p
  | .ok (t, rest) =>
    match closeList rest with
    | .error p => .error p
    | .ok rest => .ok (t, rest)

def write : {τ : Type} → (fs : Fields τ) → τ → List (String × Value)
  | _, .nil, _ => []
  | _, .cons name form _ rest, (a, b) => (name, form.write a) :: rest.write b

end Fields

/-- The form of a record. Messages call it `struct` and its name. -/
def Form.record {α τ : Type} (name : String) (fs : Fields τ) (make : τ → α) (parts : α → τ) :
    Form α where
  read text :=
    let expected := "struct " ++ name
    let made (r : Except Problem (τ × Bytes)) : Except Problem (α × Bytes) :=
      match r with
      | .error p => .error p
      | .ok (t, rest) => .ok (make t, rest)
    match skipGap text with
    | [] => .error (.ended .value)
    | listOpen :: rest =>
      made (fs.readTuple (expected ++ " with " ++ elementCount fs.length) rest)
    | objectOpen :: rest => made (fs.readObject rest)
    | text => .error (refuse expected text)
  write a := .object (fs.write (parts a))

/-! ## Variants without content -/

/-- The variants of a type by their names. -/
abbrev Variants (α : Type) := List (String × α)

/-- The variant called `name`. -/
def Variants.find {α : Type} (known : Variants α) (name : String) : Except Problem α :=
  match known.lookup name with
  | some a => .ok a
  | none => .error (.mismatch (.variant name (known.map Prod.fst)))

/-- Reads the name of a variant where a string is wanted. -/
def readVariantName {α : Type} (known : Variants α) : Reader α := fun text =>
  match skipGap text with
  | [] => .error (.ended .value)
  | quoteMark :: rest =>
    match readQuoted rest with
    | .error p => .error p
    | .ok (name, rest) =>
      match known.find name with
      | .error p => .error p
      | .ok a => .ok (a, rest)
  | text => .error (refuse "variant identifier" text)

/-- Reads a variant: its name, or an object with its name as the only key and `null` as value. -/
def readVariant {α : Type} (known : Variants α) : Reader α := fun text =>
  match skipGap text with
  | [] => .error (.ended .value)
  | quoteMark :: rest => readVariantName known (quoteMark :: rest)
  | objectOpen :: rest =>
    match skipGap rest with
    | [] => .error (.ended .value)
    | quoteMark :: rest =>
      match readVariantName known (quoteMark :: rest) with
      | .error p => .error p
      | .ok (a, rest) =>
        match readMember readNull rest with
        | .error p => .error p
        | .ok ((), rest) =>
          match skipGap rest with
          | [] => .error (.ended .object)
          | objectClose :: rest => .ok (a, rest)
          | _ => .error (.breach .valueExpected)
    | _ => .error (.breach .keyNotString)
  | _ => .error (.breach .valueExpected)

/-! ## Texts -/

/-- Reads a whole text. -/
def Form.parse {α : Type} (f : Form α) (text : Bytes) : Except Problem α := readWhole f.read text

def Form.text {α : Type} (f : Form α) (a : α) : String := render (f.write a)

def Form.prettyText {α : Type} (f : Form α) (a : α) : String := renderPretty (f.write a)

end Json
end Scoreline
