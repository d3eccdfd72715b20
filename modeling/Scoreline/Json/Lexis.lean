import Scoreline.Json.Problem
import Scoreline.Text.Utf8

/-!
# Scoreline.Json.Lexis

The smallest parts of a JSON text, read from its bytes: blanks, literals, strings and numbers. Each
function takes the bytes from where it starts and gives what it read and the bytes that follow.

A loop whose steps are longer than one byte runs on a budget: a list of bytes of which it takes one
at each step. With the text itself as the budget it never runs out before the text does.
-/

namespace Scoreline
namespace Json

/-- Reads one thing from the front of a text. -/
abbrev Reader (α : Type) := Bytes → Except Problem (α × Bytes)

@[match_pattern] abbrev quoteMark : UInt8 := 0x22
@[match_pattern] abbrev plus : UInt8 := 0x2B
@[match_pattern] abbrev comma : UInt8 := 0x2C
@[match_pattern] abbrev minus : UInt8 := 0x2D
@[match_pattern] abbrev point : UInt8 := 0x2E
@[match_pattern] abbrev zero : UInt8 := 0x30
@[match_pattern] abbrev colon : UInt8 := 0x3A
@[match_pattern] abbrev upperE : UInt8 := 0x45
@[match_pattern] abbrev listOpen : UInt8 := 0x5B
@[match_pattern] abbrev backslash : UInt8 := 0x5C
@[match_pattern] abbrev listClose : UInt8 := 0x5D
@[match_pattern] abbrev lowerE : UInt8 := 0x65
@[match_pattern] abbrev lowerF : UInt8 := 0x66
@[match_pattern] abbrev lowerN : UInt8 := 0x6E
@[match_pattern] abbrev lowerT : UInt8 := 0x74
@[match_pattern] abbrev lowerU : UInt8 := 0x75
@[match_pattern] abbrev objectOpen : UInt8 := 0x7B
@[match_pattern] abbrev objectClose : UInt8 := 0x7D

/-! ## Blanks and literals -/

/-- Space, line feed, carriage return and tab: all that may stand between the parts of a text. -/
def isGap (b : UInt8) : Bool := b == 0x20 || b == 0x0A || b == 0x0D || b == 0x09

def skipGap (text : Bytes) : Bytes := text.dropWhile isGap

/-- The rest of a literal whose first byte has been read. -/
def expectLiteral : Bytes → Bytes → Except Problem Bytes
  | [], text => .ok text
  | _ :: _, [] => .error (.ended .value)
  | e :: expected, b :: text =>
    if b = e then expectLiteral expected text else .error (.breach .literalExpected)

def restOfNull : Bytes := [0x75, 0x6C, 0x6C]

def restOfTrue : Bytes := [0x72, 0x75, 0x65]

def restOfFalse : Bytes := [0x61, 0x6C, 0x73, 0x65]

/-- The colon between a name and its value, with the blanks before it. -/
def expectColon (text : Bytes) : Except Problem Bytes :=
  match skipGap text with
  | [] => .error (.ended .object)
  | colon :: rest => .ok rest
  | _ => .error (.breach .colonExpected)

/-! ## Strings -/

def hexValue? (b : UInt8) : Option Nat :=
  if 0x30 ≤ b ∧ b ≤ 0x39 then some (b.toNat - 0x30)
  else if 0x41 ≤ b ∧ b ≤ 0x46 then some (b.toNat - 0x37)
  else if 0x61 ≤ b ∧ b ≤ 0x66 then some (b.toNat - 0x57)
  else none

/-- The number of four hexadecimal digits. -/
def readHex4 : Reader Nat
  | a :: b :: c :: d :: rest =>
    match hexValue? a, hexValue? b, hexValue? c, hexValue? d with
    | some a, some b, some c, some d => .ok (((a * 16 + b) * 16 + c) * 16 + d, rest)
    | _, _, _, _ => .error (.breach .escape)
  | _ => .error (.ended .string)

def isHighSurrogate (n : Nat) : Bool := 0xD800 ≤ n && n ≤ 0xDBFF

def isLowSurrogate (n : Nat) : Bool := 0xDC00 ≤ n && n ≤ 0xDFFF

/-- The second half of a surrogate pair, from its backslash on. -/
def readLowSurrogate (high : Nat) : Reader Char
  | [] => .error (.ended .string)
  | backslash :: [] => .error (.ended .string)
  | backslash :: lowerU :: rest =>
    match readHex4 rest with
    | .error p => .error p
    | .ok (low, rest) =>
      if isLowSurrogate low then
        .ok (Char.ofNat (0x10000 + (high - 0xD800) * 0x400 + (low - 0xDC00)), rest)
      else .error (.breach .loneSurrogate)
  | _ => .error (.breach .hexEscapeEnd)

/-- The character of a numbered escape, whose backslash and letter have been read. -/
def readNumbered : Reader Char := fun text =>
  match readHex4 text with
  | .error p => .error p
  | .ok (n, rest) =>
    if isLowSurrogate n then .error (.breach .loneSurrogate)
    else if isHighSurrogate n then readLowSurrogate n rest
    else .ok (Char.ofNat n, rest)

/-- The byte that a one-letter escape stands for. -/
def shortEscape? (b : UInt8) : Option UInt8 :=
  match b with
  | 0x22 => some 0x22
  | 0x5C => some 0x5C
  | 0x2F => some 0x2F
  | 0x62 => some 0x08
  | 0x66 => some 0x0C
  | 0x6E => some 0x0A
  | 0x72 => some 0x0D
  | 0x74 => some 0x09
  | _ => none

/-- The bytes that an escape stands for, its backslash read. -/
def readEscape : Reader Bytes
  | [] => .error (.ended .string)
  | lowerU :: rest =>
    match readNumbered rest with
    | .error p => .error p
    | .ok (c, rest) => .ok (String.utf8EncodeChar c, rest)
  | b :: rest =>
    match shortEscape? b with
    | some c => .ok ([c], rest)
    | none => .error (.breach .escape)

/-- The bytes of a string up to its closing quote, after those in `done` (last first). -/
def readContent : Bytes → Bytes → Reader Bytes
  | [], _, _ => .error (.ended .string)
  | _ :: budget, done, text =>
    match text with
    | [] => .error (.ended .string)
    | quoteMark :: rest => .ok (done.reverse, rest)
    | backslash :: rest =>
      match readEscape rest with
      | .error p => .error p
      | .ok (piece, rest) => readContent budget (piece.reverse ++ done) rest
    | b :: rest =>
      if b < 0x20 then .error (.breach .controlCharacter) else readContent budget (b :: done) rest

/-- The text of a string whose opening quote has been read. -/
def readQuoted : Reader String := fun text =>
  match readContent text [] text with
  | .error p => .error p
  | .ok (content, rest) =>
    match Text.ofUtf8? content with
    | some s => .ok (s, rest)
    | none => .error (.breach .codePoint)

/-! ## Numbers -/

def isDigit (b : UInt8) : Bool := 0x30 ≤ b && b ≤ 0x39

/-- The largest significand that is gathered; digits that would pass it only count. -/
def largestSignificand : Nat := UInt64.size - 1

/-- Gathers digits into a significand. The second number counts the digits from the first one that
would have passed `largestSignificand`. -/
def gather : Nat → Bytes → Nat × Nat
  | s, [] => (s, 0)
  | s, d :: digits =>
    let next := s * 10 + (d.toNat - 0x30)
    if largestSignificand < next then (s, digits.length + 1) else gather next digits

/-- `x * 10 ^ e`, one rounding for each factor `10 ^ 308` or smaller. At most `fuel` factors
`10 ^ 308` are taken off; three bring every significand to zero. -/
def scaleByTen : Nat → Decimal.Binary → Int → Except Problem Decimal.Binary
  | fuel, x, e =>
    if e.natAbs ≤ 308 then
      let power := Decimal.Format.double.powerOfTen e.natAbs
      if 0 ≤ e then
        let y := x.times .double power
        if y.isFinite then .ok y else .error (.breach .numberRange)
      else .ok (x.dividedBy .double power)
    else if x.isZero then .ok x
    else if 0 ≤ e then .error (.breach .numberRange)
    else
      match fuel with
      | 0 => .ok x
      | fuel + 1 =>
        scaleByTen fuel (x.dividedBy .double (Decimal.Format.double.powerOfTen 308)) (e + 308)

/-- The real number `± s * 10 ^ e`. -/
def realNumber (negative : Bool) (s : Nat) (e : Int) (rest : Bytes) :
    Except Problem (Number × Bytes) :=
  match scaleByTen 3 (Decimal.Format.double.ofNat s) e with
  | .error p => .error p
  | .ok x => .ok (.real .double (if negative then x.negate else x), rest)

/-- The number after the `e` of an exponent. -/
def readExponent (negative : Bool) (s : Nat) (e : Int) (text : Bytes) :
    Except Problem (Number × Bytes) :=
  let (down, text) :=
    match text with
    | plus :: rest => (false, rest)
    | minus :: rest => (true, rest)
    | text => (false, text)
  match text with
  | [] => .error (.ended .value)
  | d :: _ =>
    if isDigit d then
      let digits := text.takeWhile isDigit
      let n : Int := digits.foldl (fun n d => n * 10 + (d.toNat - 0x30 : Nat)) 0
      realNumber negative s (if down then e - n else e + n) (text.dropWhile isDigit)
    else .error (.breach .number)

/-- The number after its decimal point. -/
def readFraction (negative : Bool) (s : Nat) (e : Int) (text : Bytes) :
    Except Problem (Number × Bytes) :=
  let digits := text.takeWhile isDigit
  match digits, text with
  | [], [] => .error (.ended .value)
  | [], _ :: _ => .error (.breach .number)
  | _ :: _, _ =>
    let (s, left) := gather s digits
    let e := e - ((digits.length - left : Nat) : Int)
    match text.dropWhile isDigit with
    | lowerE :: rest | upperE :: rest => readExponent negative s e rest
    | rest => realNumber negative s e rest

/-- An integer if it fits a machine word; otherwise, and for minus zero, a real number. -/
def wholeNumber (negative : Bool) (s : Nat) (rest : Bytes) : Except Problem (Number × Bytes) :=
  if negative then
    if s = 0 ∨ -(s : Int) < Int64.minValue.toInt then realNumber true s 0 rest
    else .ok (.integer (-s), rest)
  else .ok (.integer s, rest)

/-- The number whose digits before the point are gathered, `left` of them only counted. -/
def readTail (negative : Bool) (s left : Nat) (text : Bytes) : Except Problem (Number × Bytes) :=
  match text with
  | point :: rest => readFraction negative s left rest
  | lowerE :: rest | upperE :: rest => readExponent negative s left rest
  | rest => if left = 0 then wholeNumber negative s rest else realNumber negative s left rest

/-- A number, its sign read. -/
def readMagnitude (negative : Bool) (text : Bytes) : Except Problem (Number × Bytes) :=
  match text with
  | [] => .error (.ended .value)
  | zero :: rest =>
    match rest with
    | d :: _ => if isDigit d then .error (.breach .number) else readTail negative 0 0 rest
    | [] => readTail negative 0 0 rest
  | d :: _ =>
    if isDigit d then
      let (s, left) := gather 0 (text.takeWhile isDigit)
      readTail negative s left (text.dropWhile isDigit)
    else .error (.breach .number)

end Json
end Scoreline
