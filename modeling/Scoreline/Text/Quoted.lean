import Scoreline.Text.Printable

/-!
# Scoreline.Text.Quoted

A text between double quotes, as messages show it. Quotes and backslashes take a backslash, the
usual controls their letter, and every other character that cannot be printed its number in
braces.
-/

namespace Scoreline
namespace Text

/-- The hexadecimal number of a character, in lower case without leading zeros. -/
def numbered (c : Char) : List Char := '\\' :: 'u' :: '\x7b' :: Nat.toDigits 16 c.toNat ++ ['\x7d']

def quoteChar (c : Char) : List Char :=
  match c with
  | '\x00' => ['\\', '0']
  | '\t' => ['\\', 't']
  | '\r' => ['\\', 'r']
  | '\n' => ['\\', 'n']
  | '\\' => ['\\', '\\']
  | '"' => ['\\', '"']
  | c => if isPrintable c then [c] else numbered c

def quote (s : String) : String := String.ofList ('"' :: s.toList.flatMap quoteChar ++ ['"'])

end Text
end Scoreline
