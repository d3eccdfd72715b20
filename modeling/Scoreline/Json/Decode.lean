import Scoreline.Json.Form

/-!
# Scoreline.Json.Decode

Making something of a value that has been read whole. The rules are those of the readers, except
where a value read whole is taken more or less strictly; each such place says so.
-/

namespace Scoreline
namespace Json

abbrev Decoder (α : Type) := Value → Except Problem α

def Value.mismatch {α : Type} (v : Value) (expected : String) : Except Problem α :=
  .error (.mismatch (.type v.found expected))

def decodeString : Decoder String
  | .string s => .ok s
  | v => v.mismatch "a string"

def decodeInteger (expected : String) (low high : Int) : Decoder Int
  | .number n => n.within expected low high
  | v => v.mismatch expected

def decodeUInt32 : Decoder UInt32 := fun v =>
  match decodeInteger "u32" 0 (UInt32.size - 1 : Nat) v with
  | .error p => .error p
  | .ok n => .ok (UInt32.ofNat n.toNat)

def decodeInt64 : Decoder Int64 := fun v =>
  match decodeInteger "i64" Int64.minValue.toInt Int64.maxValue.toInt v with
  | .error p => .error p
  | .ok n => .ok (Int64.ofInt n)

def decodeOption {α : Type} (decode : Decoder α) : Decoder (Option α)
  | .null => .ok none
  | v =>
    match decode v with
    | .error p => .error p
    | .ok a => .ok (some a)

/-- Decodes every item, stopping at the first that does not fit. -/
def decodeItems {α : Type} (decode : Decoder α) : List Value → Except Problem (List α)
  | [] => .ok []
  | v :: vs =>
    match decode v with
    | .error p => .error p
    | .ok a =>
      match decodeItems decode vs with
      | .error p => .error p
      | .ok as => .ok (a :: as)

def decodeList {α : Type} (decode : Decoder α) : Decoder (List α)
  | .array items => decodeItems decode items
  | v => v.mismatch "a sequence"

/-- Refuses items left over after the `taken` ones that are wanted. -/
def noneLeft (taken : Nat) (left : List Value) : Except Problem Unit :=
  match left with
  | [] => .ok ()
  | _ :: _ =>
    .error (.mismatch (.length (taken + left.length) (elementCount taken ++ " in sequence")))

/-- No content: `null`, or an object without members. -/
def decodeUnit : Decoder Unit
  | .null => .ok ()
  | .object [] => .ok ()
  | v => v.mismatch "unit"

/-- A variant where only its name is wanted: the name, or its number among the known ones. -/
def decodeVariantName {α : Type} (known : Variants α) : Decoder α
  | .string name => known.find name
  | .number (.integer n) =>
    if 0 ≤ n then
      match known[n.toNat]? with
      | some (_, a) => .ok a
      | none =>
        .error (.mismatch (.value (.number (.integer n))
          ("variant index 0 <= i < " ++ toString known.length)))
    else (Value.number (.integer n)).mismatch "variant identifier"
  | v => v.mismatch "variant identifier"

/-- A variant: its name, or an object with its name as the only key and no content. -/
def decodeVariant {α : Type} (known : Variants α) : Decoder α
  | .string name => known.find name
  | .object [(name, content)] =>
    match known.find name with
    | .error p => .error p
    | .ok a =>
      match decodeUnit content with
      | .error p => .error p
      | .ok () => .ok a
  | .object _ => .error (.mismatch (.value .map "map with a single key"))
  | v => v.mismatch "string or map"

end Json
end Scoreline
