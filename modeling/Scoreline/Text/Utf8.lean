/-!
# Scoreline.Text.Utf8

Text and the bytes that carry it.

* `utf8 s` — the bytes of a text.
* `ofUtf8? bytes` — the text carried by the bytes, if they are well formed; it undoes `utf8`.
* `decode bytes` — a text for any bytes, with U+FFFD for every sequence that carries no character.
* `decodeMarked bytes` — the same for bytes that may open with a byte order mark: the mark chooses
  between UTF-8 and the two orders of UTF-16 and is not part of the text.
-/

namespace Scoreline

abbrev Bytes := List UInt8

namespace Text

def utf8 (s : String) : Bytes := s.toByteArray.data.toList

def ofUtf8? (bytes : Bytes) : Option String := String.fromUTF8? ⟨bytes.toArray⟩

theorem ofUtf8?_utf8 (s : String) : ofUtf8? (utf8 s) = some s := by
  simp [ofUtf8?, utf8, String.fromUTF8?, String.fromUTF8, s.isValidUTF8]

def replacement : Char := '\uFFFD'

/-- A character begun but not finished: the bits read so far, the number of bytes still missing,
and the range of the next byte. -/
structure Pending where
  code : Nat
  missing : Nat
  low : UInt8
  high : UInt8
  deriving DecidableEq, Repr

/-- What a byte says where a character may begin: a whole character, the start of one, or
nothing. -/
inductive Lead where
  | whole (c : Char)
  | start (p : Pending)
  | none
  deriving Repr

def lead (b : UInt8) : Lead :=
  if b < 0x80 then .whole (Char.ofNat b.toNat)
  else if b < 0xC2 then .none
  else if b < 0xE0 then .start ⟨b.toNat - 0xC0, 1, 0x80, 0xBF⟩
  else if b < 0xF0 then
    .start ⟨b.toNat - 0xE0, 2, if b = 0xE0 then 0xA0 else 0x80, if b = 0xED then 0x9F else 0xBF⟩
  else if b < 0xF5 then
    .start ⟨b.toNat - 0xF0, 3, if b = 0xF0 then 0x90 else 0x80, if b = 0xF4 then 0x8F else 0xBF⟩
  else .none

/-- Decodes with a character pending. A byte that cannot go on with it ends it as a replacement and
is then read as the beginning of the next character. -/
def decodeFrom : Option Pending → Bytes → List Char
  | none, [] => []
  | some _, [] => [replacement]
  | none, b :: rest =>
    match lead b with
    | .whole c => c :: decodeFrom none rest
    | .start p => decodeFrom (some p) rest
    | .none => replacement :: decodeFrom none rest
  | some p, b :: rest =>
    if p.low ≤ b ∧ b ≤ p.high then
      let code := p.code * 64 + b.toNat % 64
      if p.missing ≤ 1 then Char.ofNat code :: decodeFrom none rest
      else decodeFrom (some ⟨code, p.missing - 1, 0x80, 0xBF⟩) rest
    else
      match lead b with
      | .whole c => replacement :: c :: decodeFrom none rest
      | .start p => replacement :: decodeFrom (some p) rest
      | .none => replacement :: replacement :: decodeFrom none rest

def decode (bytes : Bytes) : String := String.ofList (decodeFrom none bytes)

/-- The 16-bit units of the bytes, and whether a byte is left over. -/
def units (bigEndian : Bool) : Bytes → List Nat × Bool
  | [] => ([], false)
  | [_] => ([], true)
  | a :: b :: rest =>
    let (us, odd) := units bigEndian rest
    ((if bigEndian then a.toNat * 256 + b.toNat else b.toNat * 256 + a.toNat) :: us, odd)

/-- Decodes 16-bit units with a leading surrogate pending. A surrogate without its partner, and a
byte left over at the end, become replacements. -/
def decodeUnits (odd : Bool) : Option Nat → List Nat → List Char
  | none, [] => if odd then [replacement] else []
  | some _, [] => [replacement]
  | none, u :: rest =>
    if 0xD800 ≤ u ∧ u < 0xDC00 then decodeUnits odd (some u) rest
    else if 0xDC00 ≤ u ∧ u < 0xE000 then replacement :: decodeUnits odd none rest
    else Char.ofNat u :: decodeUnits odd none rest
  | some h, u :: rest =>
    if 0xDC00 ≤ u ∧ u < 0xE000 then
      Char.ofNat (0x10000 + (h - 0xD800) * 0x400 + (u - 0xDC00)) :: decodeUnits odd none rest
    else if 0xD800 ≤ u ∧ u < 0xDC00 then replacement :: decodeUnits odd (some u) rest
    else replacement :: Char.ofNat u :: decodeUnits odd none rest

def decode16 (bigEndian : Bool) (bytes : Bytes) : String :=
  let (us, odd) := units bigEndian bytes
  String.ofList (decodeUnits odd none us)

def decodeMarked : Bytes → String
  | 0xEF :: 0xBB :: 0xBF :: rest => decode rest
  | 0xFF :: 0xFE :: rest => decode16 false rest
  | 0xFE :: 0xFF :: rest => decode16 true rest
  | bytes => decode bytes

end Text
end Scoreline
