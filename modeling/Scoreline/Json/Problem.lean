import Scoreline.Json.Value

/-!
# Scoreline.Json.Problem

Why a JSON text cannot be read. A text may end too early, break the rules of JSON, or be good JSON
that does not fit what is wanted; `Problem.category` tells the three apart and `Problem.message` is
the wording.
-/

namespace Scoreline
namespace Json

/-- What was being read when the text ended. -/
inductive Enclosure where
  | list
  | object
  | string
  | value
  deriving DecidableEq, Repr

/-- A breach of the rules of JSON. -/
inductive Breach where
  | colonExpected
  | listCommaOrEndExpected
  | objectCommaOrEndExpected
  | literalExpected
  | valueExpected
  | escape
  | number
  | numberRange
  | codePoint
  | controlCharacter
  | keyNotString
  | loneSurrogate
  | trailingComma
  | trailingCharacters
  | hexEscapeEnd
  | nesting
  deriving DecidableEq, Repr

/-- Good JSON that is not what is wanted. -/
inductive Mismatch where
  | type (found : Found) (expected : String)
  | value (found : Found) (expected : String)
  | length (n : Nat) (expected : String)
  | missing (member : String)
  | duplicate (member : String)
  | variant (name : String) (known : List String)
  | noVariant (union : String)
  | refused (reason : String)
  deriving DecidableEq, Repr

inductive Problem where
  | ended (within : Enclosure)
  | breach (b : Breach)
  | mismatch (m : Mismatch)
  deriving DecidableEq, Repr

inductive Category where
  | ended
  | grammar
  | data
  deriving DecidableEq, Repr

def Problem.category : Problem → Category
  | .ended _ => .ended
  | .breach _ => .grammar
  | .mismatch _ => .data

def Enclosure.message : Enclosure → String
  | .list => "EOF while parsing a list"
  | .object => "EOF while parsing an object"
  | .string => "EOF while parsing a string"
  | .value => "EOF while parsing a value"

def Breach.message : Breach → String
  | .colonExpected => "expected `:`"
  | .listCommaOrEndExpected => "expected `,` or `]`"
  | .objectCommaOrEndExpected => "expected `,` or `\x7d`"
  | .literalExpected => "expected ident"
  | .valueExpected => "expected value"
  | .escape => "invalid escape"
  | .number => "invalid number"
  | .numberRange => "number out of range"
  | .codePoint => "invalid unicode code point"
  | .controlCharacter => "control character (\\u0000-\\u001F) found while parsing a string"
  | .keyNotString => "key must be a string"
  | .loneSurrogate => "lone leading surrogate in hex escape"
  | .trailingComma => "trailing comma"
  | .trailingCharacters => "trailing characters"
  | .hexEscapeEnd => "unexpected end of hex escape"
  | .nesting => "recursion limit exceeded"

def codeQuoted (s : String) : String := "`" ++ s ++ "`"

/-- The names that a variant may have: one, two joined by a word, or a list. -/
def knownVariants : List String → String
  | [] => "there are no variants"
  | [a] => "expected " ++ codeQuoted a
  | [a, b] => "expected " ++ codeQuoted a ++ " or " ++ codeQuoted b
  | names => "expected one of " ++ ", ".intercalate (names.map codeQuoted)

def Mismatch.message : Mismatch → String
  | .type found expected => "invalid type: " ++ found.message ++ ", expected " ++ expected
  | .value found expected => "invalid value: " ++ found.message ++ ", expected " ++ expected
  | .length n expected => "invalid length " ++ toString n ++ ", expected " ++ expected
  | .missing member => "missing field " ++ codeQuoted member
  | .duplicate member => "duplicate field " ++ codeQuoted member
  | .variant name known => "unknown variant " ++ codeQuoted name ++ ", " ++ knownVariants known
  | .noVariant union => "data did not match any variant of untagged enum " ++ union
  | .refused reason => reason

def Problem.message : Problem → String
  | .ended within => within.message
  | .breach b => b.message
  | .mismatch m => m.message

/-- A count of elements, in words. -/
def elementCount (n : Nat) : String :=
  if n = 1 then "1 element" else toString n ++ " elements"

end Json
end Scoreline
