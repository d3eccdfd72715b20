import Scoreline.Url.Domain
import Scoreline.Url.Percent

/-!
# Scoreline.Url.Host

The hosts of addresses: domain names, IPv4 addresses in numbers of several bases, IPv6 addresses in
brackets, and the hosts of schemes that are not of the web, which stay as they are written.
`Host.parse` reads a host of the web and `Host.parseOther` one of another scheme; both say what is
wrong with a text that is no host. `Host.text` writes a host in its normal form.

The bytes of a domain name may be encoded. A name whose last label is a number is an IPv4 address or
nothing.
-/

namespace Scoreline
namespace Url

/-- Why a text is no absolute address. -/
inductive Error where
  | relative
  | emptyHost
  | domainName
  | port
  | ipv4
  | ipv6
  | domainCharacter
  deriving DecidableEq, Repr

def Error.message : Error → String
  | .relative => "relative URL without a base"
  | .emptyHost => "empty host"
  | .domainName => "invalid international domain name"
  | .port => "invalid port number"
  | .ipv4 => "invalid IPv4 address"
  | .ipv6 => "invalid IPv6 address"
  | .domainCharacter => "invalid domain character"

/-! ## IPv4 -/

def isOctalDigit (c : Char) : Bool := '0' ≤ c && c ≤ '7'

/-- The number that digits of a base make. -/
def numberIn (base : Nat) (digits : List Char) : Nat :=
  digits.foldl (fun n c => n * base + (hexDigit? c).getD 0) 0

/-- A part of an IPv4 address: hexadecimal after `0x`, octal after `0`, and decimal otherwise. -/
def ipv4Part? (part : List Char) : Option Nat :=
  let number (base : Nat) (allowed : Char → Bool) (digits : List Char) : Option Nat :=
    if digits.all allowed then some (numberIn base digits) else none
  match part with
  | [] => none
  | '0' :: 'x' :: digits | '0' :: 'X' :: digits => number 16 (fun c => (hexDigit? c).isSome) digits
  | '0' :: c :: digits => number 8 isOctalDigit (c :: digits)
  | digits => number 10 Char.isDigit digits

/-- The labels of a name, without the empty one after a point at its end. -/
def withoutEmptyEnd (labels : List (List Char)) : List (List Char) :=
  match labels.getLast? with
  | some [] => labels.dropLast
  | _ => labels

/-- Whether the last part of a name makes it an IPv4 address, right or wrong. -/
def endsInNumber (parts : List (List Char)) : Bool :=
  match parts.getLast? with
  | none => false
  | some last => (!last.isEmpty && last.all Char.isDigit) || (ipv4Part? last).isSome

/-- The IPv4 address that parts make: all but the last are bytes, and the last fills the rest. -/
def ipv4? (parts : List (List Char)) : Option Nat :=
  if 4 < parts.length then none
  else
    match parts.mapM ipv4Part? with
    | none => none
    | some numbers =>
      match numbers.getLast? with
      | none => none
      | some last =>
        let room := Nat.pow 256 (5 - numbers.length)
        if numbers.dropLast.all (· ≤ 255) && last < room then
          some (numbers.dropLast.foldl (fun n b => n * 256 + b) 0 * room + last)
        else none

/-! ## IPv6 -/

/-- A decimal byte without zeros in front. -/
def isDecimalByte (digits : List Char) : Bool :=
  match digits with
  | [] => false
  | '0' :: _ :: _ => false
  | digits => digits.all Char.isDigit && numberIn 10 digits ≤ 255

/-- The number that four decimal bytes make, with points between them. -/
def dottedQuad? (s : List Char) : Option Nat :=
  let parts := Text.splitBy (· == '.') s
  if parts.length == 4 && parts.all isDecimalByte then
    some (parts.foldl (fun n part => n * 256 + numberIn 10 part) 0)
  else none

/-- All eight pieces. Those that a double colon leaves out are zeros, `gap` pieces from the front; if
there is no double colon none is left out. -/
def filled? (pieces : List Nat) : Option Nat → Option (List Nat)
  | none => if pieces.length == 8 then some pieces else none
  | some gap => some (pieces.take gap ++ List.replicate (8 - pieces.length) 0 ++ pieces.drop gap)

/-- Reads the pieces of an IPv6 address after those in `done`, the last one first. A double colon
stands for a piece at least; `gap` says how many there are up to it, once it has been met. The first
argument bounds the steps. -/
def ipv6From? : List Char → List Nat → Option Nat → List Char → Option (List Nat)
  | _, done, gap, [] => filled? done.reverse gap
  | [], _, _, _ => none
  | _ :: budget, done, gap, c :: rest =>
    if done.length == 8 then none
    else if c == ':' then
      if gap.isSome then none else ipv6From? budget (0 :: done) (some (done.length + 1)) rest
    else
      let digits := ((c :: rest).take 4).takeWhile fun c => (hexDigit? c).isSome
      match (c :: rest).drop digits.length with
      | [] => ipv6From? budget (numberIn 16 digits :: done) gap []
      | '.' :: _ =>
        if digits.isEmpty || 6 < done.length then none
        else
          match dottedQuad? (c :: rest) with
          | none => none
          | some n => filled? (n % 65536 :: n / 65536 :: done).reverse gap
      | ':' :: after =>
        if digits.isEmpty || after.isEmpty then none
        else ipv6From? budget (numberIn 16 digits :: done) gap after
      | _ => none

/-- The pieces of an IPv6 address. -/
def ipv6? (s : List Char) : Option (List Nat) :=
  match s with
  | ':' :: ':' :: rest => ipv6From? s [0] (some 1) rest
  | ':' :: _ => none
  | [] | [_] => none
  | s => ipv6From? s [] none s

/-- The longest run of zeros, the first one of several: where it begins, and its length. -/
def longestZeros (pieces : List Nat) : Nat × Nat :=
  (List.range pieces.length).foldl (fun (start, length) i =>
    let here := ((pieces.drop i).takeWhile (· == 0)).length
    if length < here then (i, here) else (start, length)) (0, 0)

def hexPieces (pieces : List Nat) : List Char :=
  [':'].intercalate (pieces.map (Nat.toDigits 16))

/-- An IPv6 address as it is written, with a double colon for two or more zeros. -/
def ipv6Text (pieces : List Nat) : List Char :=
  let (start, length) := longestZeros pieces
  if length < 2 then hexPieces pieces
  else hexPieces (pieces.take start) ++ [':', ':'] ++ hexPieces (pieces.drop (start + length))

/-! ## Hosts -/

inductive Host where
  | domain (labels : List (List Char))
  | ipv4 (number : Nat)
  | ipv6 (pieces : List Nat)
  | other (text : List Char)
  deriving DecidableEq, Repr

namespace Host

/-- Reads a text in brackets. -/
def parseBracketed (text : List Char) : Except Error Host :=
  if text.getLast? = some ']' then
    match ipv6? (text.drop 1).dropLast with
    | none => .error .ipv6
    | some pieces => .ok (.ipv6 pieces)
  else .error .ipv6

/-- Reads a host of the web. -/
def parse (text : List Char) : Except Error Host :=
  if text.head? = some '[' then parseBracketed text
  else
    match Text.ofUtf8? (decode text) with
    | none => .error .domainName
    | some name =>
      match labels? name.toList with
      | none => .error .domainName
      | some [[]] => .error .emptyHost
      | some labels =>
        let parts := withoutEmptyEnd labels
        if endsInNumber parts then
          match ipv4? parts with
          | none => .error .ipv4
          | some n => .ok (.ipv4 n)
        else .ok (.domain labels)

def isForbiddenInOther (c : Char) : Bool :=
  ['\x00', '\t', '\n', '\r', ' ', '#', '/', ':', '<', '>', '?', '@', '[', '\\', ']', '^',
    '|'].contains c

/-- Reads a host of another scheme. -/
def parseOther (text : List Char) : Except Error Host :=
  if text.head? = some '[' then parseBracketed text
  else if text.any isForbiddenInOther then .error .domainCharacter
  else .ok (.other text)

/-- A host as it is written in an address. -/
def text : Host → List Char
  | .domain labels => ['.'].intercalate (labels.map writtenLabel)
  | .ipv4 n =>
    ['.'].intercalate ([n / 16777216, n / 65536 % 256, n / 256 % 256, n % 256].map
      (Nat.toDigits 10))
  | .ipv6 pieces => '[' :: (ipv6Text pieces ++ [']'])
  | .other text => text

end Host

end Url
end Scoreline
