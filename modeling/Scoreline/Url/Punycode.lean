import Scoreline.Text.Utf8

/-!
# Scoreline.Url.Punycode

Labels of domain names in ASCII whose characters are not all of ASCII. The characters of ASCII stand
in front, up to the last hyphen. The digits behind it are numbers, one for each other character: how
far to go on from the one before, counting all places in the label for a code point before the next
code point begins.

A number has its lowest digit first. From a threshold on a digit says that another one follows; the
thresholds depend on a bias, which adapts to the numbers so far. Numbers that do not fit in 32 bits
are refused when a label is read (`decode?`); none are written (`encode`) for a label of the length
that a domain name allows.
-/

namespace Scoreline
namespace Url

def isAscii (c : Char) : Bool := c.toNat < 0x80

namespace Punycode

/-- The value of a digit: letters count from 0, and the decimal digits from 26. -/
def digit? (c : Char) : Option Nat :=
  if 'a' ≤ c ∧ c ≤ 'z' then some (c.toNat - 97)
  else if c.isDigit then some (c.toNat - 22)
  else none

/-- The threshold of a digit, from 1 to 26; `reach` grows by 36 with every digit of a number. -/
def threshold (bias reach : Nat) : Nat := max 1 (min 26 (reach - bias))

/-- Reads one number. `weight` is what the next digit counts, `sum` what the number begins with. -/
def readNumber (bias : Nat) (reach weight sum : Nat) (digits : List Char) :
    Option (Nat × List Char) :=
  match digits with
  | [] => none
  | c :: rest =>
    match digit? c with
    | none => none
    | some d =>
      let sum := sum + d * weight
      let t := threshold bias reach
      if UInt32.size ≤ sum then none
      else if d < t then some (sum, rest)
      else if UInt32.size ≤ weight * (36 - t) then none
      else readNumber bias (reach + 36) (weight * (36 - t)) sum rest

/-- The bias for a mean distance `d`: 36 for every factor of 35 above 455, and a share of 36 for the
rest. At most `fuel` factors are taken off; seven are enough for 32 bits. -/
def biasFor : Nat → Nat → Nat
  | 0, d => 36 * d / (d + 38)
  | fuel + 1, d => if 455 < d then 36 + biasFor fuel (d / 35) else 36 * d / (d + 38)

/-- The bias after a number that went on by `distance`, with `count` characters now in the label. -/
def adapt (distance count : Nat) (first : Bool) : Nat :=
  let d := distance / (if first then 700 else 2)
  biasFor 7 (d + d / count)

/-- What is known between two numbers: the last code point, the place from which to go on, the bias,
and the label so far. -/
structure State where
  code : Nat
  place : Nat
  bias : Nat
  label : List Char

/-- Takes the number `n`, if it leads to a character. -/
def State.insert? (s : State) (n : Nat) : Option State :=
  let count := s.label.length + 1
  let code := s.code + n / count
  if code.isValidChar then
    let place := n % count
    some ⟨code, place + 1, adapt (n - s.place) count (s.place == 0),
      s.label.insertIdx place (Char.ofNat code)⟩
  else none

/-- Reads numbers up to the end, at most `fuel` of them. -/
def insertAll : Nat → State → List Char → Option (List Char)
  | _, s, [] => some s.label
  | 0, _, _ :: _ => none
  | fuel + 1, s, digits =>
    match readNumber s.bias 36 1 s.place digits with
    | none => none
    | some (n, rest) =>
      match s.insert? n with
      | none => none
      | some s => insertAll fuel s rest

/-- The label that a text stands for. The text is of ASCII and in lower case. -/
def decode? (s : List Char) : Option (List Char) :=
  let basic := ((s.reverse.dropWhile (· != '-')).drop 1).reverse
  let digits := if basic.isEmpty then s else s.drop (basic.length + 1)
  insertAll digits.length ⟨128, 0, 72, basic⟩ digits

/-! ## Writing -/

def digitChar (d : Nat) : Char := Char.ofNat (if d < 26 then 97 + d else 22 + d)

/-- Writes one number in at most `fuel` digits and one more. As many as the number says are enough. -/
def writeNumber (bias : Nat) : Nat → Nat → Nat → List Char
  | 0, _, n => [digitChar n]
  | fuel + 1, reach, n =>
    let t := threshold bias reach
    if n < t then [digitChar n]
    else digitChar (t + (n - t) % (36 - t)) ::
      writeNumber bias fuel (reach + 36) ((n - t) / (36 - t))

/-- What is known while a label is passed: how far it is from the last character written, the bias,
how many characters are written, and the digits so far. -/
structure Writer where
  distance : Nat
  bias : Nat
  count : Nat
  digits : List Char

/-- Passes a character while those with the code point `code` are written; `basic` characters are of
ASCII. -/
def Writer.pass (basic code : Nat) (w : Writer) (c : Char) : Writer :=
  if c.toNat < code then { w with distance := w.distance + 1 }
  else if c.toNat = code then
    ⟨0, adapt w.distance (w.count + 1) (w.count == basic), w.count + 1,
      w.digits ++ writeNumber w.bias w.distance 36 w.distance⟩
  else w

/-- Writes the characters with a code point, all below `next` being written. -/
def Writer.writeCode (label : List Char) (basic : Nat) (w : Writer) (next code : Nat) : Writer :=
  let w := { w with distance := w.distance + (code - next) * (w.count + 1) }
  let w := label.foldl (pass basic code) w
  { w with distance := w.distance + 1 }

/-- Writes the characters with each of the code points, which ascend from `next` on. -/
def Writer.writeCodes (label : List Char) (basic : Nat) : Writer → Nat → List Nat → Writer
  | w, _, [] => w
  | w, next, code :: codes =>
    writeCodes label basic (w.writeCode label basic next code) (code + 1) codes

/-- The text that a label is written as, behind the mark of such texts. -/
def encode (label : List Char) : List Char :=
  let basic := label.filter isAscii
  let codes := ((label.filter (!isAscii ·)).map Char.toNat).mergeSort.eraseDups
  basic ++ (if basic.isEmpty then [] else ['-']) ++
    (Writer.writeCodes label basic.length ⟨0, 72, basic.length, []⟩ 128 codes).digits

end Punycode
end Url
end Scoreline
