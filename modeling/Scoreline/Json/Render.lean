import Scoreline.Json.Value

/-!
# Scoreline.Json.Render

The text of a JSON value, in one line (`render`) or with one item a line and two spaces for each
level (`renderPretty`). Both come from one definition: `gap` is `none` for the first and the level
for the second.

In a string only the quote, the backslash and the controls below U+0020 are escaped. A real number
that is not finite is written `null`.
-/

namespace Scoreline
namespace Json

def hexDigit (n : Nat) : Char := Nat.digitChar (n % 16)

def escapeChar (c : Char) : List Char :=
  match c with
  | '"' => ['\\', '"']
  | '\\' => ['\\', '\\']
  | '\x08' => ['\\', 'b']
  | '\x0c' => ['\\', 'f']
  | '\n' => ['\\', 'n']
  | '\r' => ['\\', 'r']
  | '\t' => ['\\', 't']
  | c =>
    if c.toNat < 0x20 then ['\\', 'u', '0', '0', hexDigit (c.toNat / 16), hexDigit c.toNat]
    else [c]

def stringChars (s : String) : List Char := '"' :: s.toList.flatMap escapeChar ++ ['"']

def integerChars (n : Int) : List Char :=
  if n < 0 then '-' :: Nat.toDigits 10 n.natAbs else Nat.toDigits 10 n.natAbs

def nullChars : List Char := ['n', 'u', 'l', 'l']

def booleanChars : Bool → List Char
  | true => ['t', 'r', 'u', 'e']
  | false => ['f', 'a', 'l', 's', 'e']

def Number.chars : Number → List Char
  | .integer n => integerChars n
  | .real f x => if x.isFinite then (x.text f).toList else nullChars

/-- The line break before an item, and its indentation. -/
def breakChars : Option Nat → List Char
  | none => []
  | some level => '\n' :: List.replicate (2 * level) ' '

def colonChars : Option Nat → List Char
  | none => [':']
  | some _ => [':', ' ']

def inner (gap : Option Nat) : Option Nat := gap.map (· + 1)

mutual

def Value.chars (gap : Option Nat) : Value → List Char
  | .null => nullChars
  | .boolean b => booleanChars b
  | .number n => n.chars
  | .string s => stringChars s
  | .array [] => ['[', ']']
  | .array (item :: items) =>
    '[' :: breakChars (inner gap) ++ item.chars (inner gap) ++ itemsChars (inner gap) items
      ++ breakChars gap ++ [']']
  | .object [] => ['\x7b', '\x7d']
  | .object ((name, value) :: members) =>
    '\x7b' :: breakChars (inner gap) ++ stringChars name ++ colonChars gap
      ++ value.chars (inner gap) ++ membersChars (inner gap) members
      ++ breakChars gap ++ ['\x7d']

/-- The items after the first, each with the comma before it. -/
def itemsChars (gap : Option Nat) : List Value → List Char
  | [] => []
  | item :: items => ',' :: breakChars gap ++ item.chars gap ++ itemsChars gap items

/-- The members after the first, each with the comma before it. -/
def membersChars (gap : Option Nat) : List (String × Value) → List Char
  | [] => []
  | (name, value) :: members =>
    ',' :: breakChars gap ++ stringChars name ++ colonChars gap ++ value.chars gap
      ++ membersChars gap members

end

def render (v : Value) : String := String.ofList (v.chars none)

def renderPretty (v : Value) : String := String.ofList (v.chars (some 0))

end Json
end Scoreline
