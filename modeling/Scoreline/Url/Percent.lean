import Scoreline.Text.Utf8

/-!
# Scoreline.Url.Percent

Percent-encoding: a byte as a percent sign and two hexadecimal digits. `encode keep` leaves the
characters that `keep` allows and encodes the bytes of all others; `decode` undoes what is encoded
and leaves a percent sign without two digits after it alone.

`formEncode` is the encoding of forms: a space becomes a plus sign, and only letters, digits and
`*-._` stay as they are.
-/

namespace Scoreline
namespace Url

def upperHexDigit (n : Nat) : Char :=
  if n < 10 then Char.ofNat (48 + n) else Char.ofNat (55 + n)

def encodeByte (b : UInt8) : List Char :=
  ['%', upperHexDigit (b.toNat / 16), upperHexDigit (b.toNat % 16)]

def encodeChar (keep : Char → Bool) (c : Char) : List Char :=
  if keep c then [c] else (String.utf8EncodeChar c).flatMap encodeByte

def encode (keep : Char → Bool) (s : List Char) : List Char := s.flatMap (encodeChar keep)

/-- Characters from the space to the tilde: all others are always encoded. -/
def isPlain (c : Char) : Bool := 0x20 ≤ c.toNat && c.toNat ≤ 0x7E

/-- The characters that stay as they are in a path. -/
def keptInPath (c : Char) : Bool :=
  isPlain c && !([' ', '"', '#', '<', '>', '?', '\x60', '\x7b', '\x7d'].contains c)

/-- The characters that stay as they are in a query. -/
def keptInQuery (c : Char) : Bool := isPlain c && !([' ', '"', '#', '<', '>', '\x27'].contains c)

/-- The characters that stay as they are in a user or a password. -/
def keptInUser (c : Char) : Bool :=
  keptInPath c && !(['/', ':', ';', '=', '@', '[', '\\', ']', '^', '|'].contains c)

/-- The characters that stay as they are in a fragment. -/
def keptInFragment (c : Char) : Bool := isPlain c && !([' ', '"', '<', '>', '\x60'].contains c)

/-- The characters that stay as they are in a form. -/
def keptInForm (c : Char) : Bool :=
  c.isAlphanum || ['*', '-', '.', '_'].contains c

def formEncodeChar (c : Char) : List Char :=
  if c = ' ' then ['+'] else encodeChar keptInForm c

def formEncode (s : List Char) : List Char := s.flatMap formEncodeChar

def hexDigit? (c : Char) : Option Nat :=
  if c.isDigit then some (c.toNat - 48)
  else if 'a' ≤ c ∧ c ≤ 'f' then some (c.toNat - 87)
  else if 'A' ≤ c ∧ c ≤ 'F' then some (c.toNat - 55)
  else none

/-- The bytes of a text whose encoded bytes are undone. -/
def decode : List Char → Bytes
  | [] => []
  | '%' :: a :: b :: rest =>
    match hexDigit? a, hexDigit? b with
    | some m, some n => UInt8.ofNat (m * 16 + n) :: decode rest
    | _, _ => 0x25 :: decode (a :: b :: rest)
  | c :: rest => String.utf8EncodeChar c ++ decode rest

end Url
end Scoreline
