import Scoreline.Text.Composed
import Scoreline.Text.Direction
import Scoreline.Text.Joining
import Scoreline.Url.Mapping
import Scoreline.Url.Punycode

/-!
# Scoreline.Url.Domain

Domain names in any script. `labels?` gives the labels of a name as they are meant: its characters
mapped, the text composed, and labels that are written in ASCII decoded. There are none if the text
is no name. `writtenLabel` puts a label into ASCII again.

A label may not begin with a mark, joiners stand only where they make a difference, and in a name
with letters that run from right to left every label has a direction.
-/

namespace Scoreline
namespace Url

open Text (Direction Joining direction joining)

/-- The characters of ASCII that no domain name holds. -/
def isForbidden (c : Char) : Bool :=
  c.toNat ≤ 0x20 || c.toNat == 0x7F ||
    ['#', '%', '/', ':', '<', '>', '?', '@', '[', '\\', ']', '^', '|'].contains c

/-! ## Joiners -/

def nonJoiner : Char := '\u200C'

def joiner : Char := '\u200D'

/-- Whether a joiner may stand after `before` (the last character first) and in front of `after`:
after a sign that kills a vowel; and a non-joiner also between letters that would join. -/
def joinerFits (c : Char) (before after : List Char) : Bool :=
  match before with
  | [] => false
  | d :: _ =>
    Text.combiningClass d == Text.viramaClass ||
      (c == nonJoiner && Text.beginsWith [.before, .both] before &&
        Text.beginsWith [.after, .both] after)

/-- Whether all joiners of a label fit; `before` is what has been passed, the last character
first. -/
def joinersFit : List Char → List Char → Bool
  | _, [] => true
  | before, c :: after =>
    (if c == nonJoiner || c == joiner then joinerFits c before after else true) &&
      joinersFit (c :: before) after

/-! ## Directions -/

/-- What may stand in a label of either direction. -/
def neutralClasses : List Direction :=
  [.europeanNumber, .europeanSeparator, .commonSeparator, .europeanTerminator, .otherNeutral,
    .boundaryNeutral, .nonspacingMark]

/-- The directions of a text, without those of the marks at its end. -/
def directionsBeforeMarks (s : List Char) : List Direction :=
  ((s.map direction).reverse.dropWhile (· == .nonspacingMark)).reverse

/-- Whether the directions of what follows the first letter of a label agree with it. -/
def directionsAgree (allowed ends : List Direction) (rest : List Direction) : Bool :=
  rest.all allowed.contains && rest.getLast?.all ends.contains

/-- Whether a label runs in one direction. A label that runs from right to left holds numbers of one
kind only. -/
def hasDirection (label : List Char) : Bool :=
  match label with
  | [] => true
  | c :: cs =>
    let rest := directionsBeforeMarks cs
    match direction c with
    | .leftToRight =>
      directionsAgree (.leftToRight :: neutralClasses) [.leftToRight, .europeanNumber] rest
    | .rightToLeft | .arabicLetter =>
      directionsAgree (.rightToLeft :: .arabicLetter :: .arabicNumber :: neutralClasses)
          [.rightToLeft, .arabicLetter, .europeanNumber, .arabicNumber] rest &&
        !(rest.contains .europeanNumber && rest.contains .arabicNumber)
    | _ => false

/-- Whether the labels of a name can stand together. -/
def directionsFit (labels : List (List Char)) : Bool :=
  labels.all (!·.any Text.runsFromRight) || labels.all hasDirection

/-! ## Labels -/

/-- How a label begins that is written in ASCII and has other characters. -/
def encodedMark : List Char := ['x', 'n', '-', '-']

/-- How long the encoded part of a label may be. -/
def encodedLimit : Nat := 2000

/-- How long a label with characters beyond ASCII may be. -/
def labelLimit : Nat := 1000

/-- Whether a text is already what it becomes in a label. -/
def isSettled (s : List Char) : Bool :=
  mapText? s == some s && Text.composed s == s && s.all fun c => !isForbidden c && c != '.'

/-- The label that a text behind the mark stands for. -/
def decodeLabel? (s : List Char) : Option (List Char) :=
  if s.isEmpty || s.getLast? == some '-' || encodedLimit < s.length || !s.all isAscii then none
  else
    match Punycode.decode? s with
    | none => none
    | some label => if isSettled label then some label else none

def isWellFormed (label : List Char) : Bool :=
  !label.head?.any Text.isMark && joinersFit [] label &&
    (label.all isAscii || label.length ≤ labelLimit)

/-- The label that a text stands for. -/
def label? (s : List Char) : Option (List Char) :=
  if s.any isForbidden then none
  else
    match if encodedMark.isPrefixOf s then decodeLabel? (s.drop encodedMark.length) else some s with
    | none => none
    | some label => if isWellFormed label then some label else none

/-- A label as it is written in ASCII. -/
def writtenLabel (label : List Char) : List Char :=
  if label.all isAscii then label else encodedMark ++ Punycode.encode label

/-- The labels of a name. -/
def labels? (name : List Char) : Option (List (List Char)) :=
  match mapText? name with
  | none => none
  | some name =>
    match (Text.splitBy (· == '.') (Text.composed name)).mapM label? with
    | none => none
    | some labels => if directionsFit labels then some labels else none

end Url
end Scoreline
