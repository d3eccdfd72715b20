import Scoreline.Json.Lexis

/-!
# Scoreline.Json.Skip

Passing over one JSON value without making anything of it. Numbers and strings need only be well
formed: a string may hold any bytes from U+0020 on and any numbered escapes, and a number may be of
any size. Lists and objects may nest without limit: the open ones are kept on a stack.
-/

namespace Scoreline
namespace Json

def skipDigits (text : Bytes) : Bytes := text.dropWhile isDigit

/-- Passes over at least one digit. -/
def skipSomeDigits (text : Bytes) : Except Problem Bytes :=
  match text with
  | d :: rest => if isDigit d then .ok (skipDigits rest) else .error (.breach .number)
  | [] => .error (.breach .number)

def skipExponent (text : Bytes) : Except Problem Bytes :=
  match text with
  | plus :: rest | minus :: rest => skipSomeDigits rest
  | text => skipSomeDigits text

def skipFraction (text : Bytes) : Except Problem Bytes :=
  match skipSomeDigits text with
  | .error p => .error p
  | .ok (lowerE :: rest) | .ok (upperE :: rest) => skipExponent rest
  | .ok rest => .ok rest

def skipNumberTail (text : Bytes) : Except Problem Bytes :=
  match text with
  | point :: rest => skipFraction rest
  | lowerE :: rest | upperE :: rest => skipExponent rest
  | rest => .ok rest

/-- Passes over a number, its sign read. -/
def skipMagnitude (text : Bytes) : Except Problem Bytes :=
  match text with
  | [] => .error (.breach .number)
  | zero :: rest =>
    match rest with
    | d :: _ => if isDigit d then .error (.breach .number) else skipNumberTail rest
    | [] => .ok rest
  | d :: rest =>
    if isDigit d then skipNumberTail (skipDigits rest) else .error (.breach .number)

/-- Passes over an escape, its backslash read. -/
def skipEscape : Bytes → Except Problem Bytes
  | [] => .error (.ended .string)
  | lowerU :: rest =>
    match readHex4 rest with
    | .error p => .error p
    | .ok (_, rest) => .ok rest
  | b :: rest => if (shortEscape? b).isSome then .ok rest else .error (.breach .escape)

/-- Passes over a string up to and with its closing quote. -/
def skipContent : Bytes → Bytes → Except Problem Bytes
  | [], _ => .error (.ended .string)
  | _ :: budget, text =>
    match text with
    | [] => .error (.ended .string)
    | quoteMark :: rest => .ok rest
    | backslash :: rest =>
      match skipEscape rest with
      | .error p => .error p
      | .ok rest => skipContent budget rest
    | b :: rest => if b < 0x20 then .error (.breach .controlCharacter) else skipContent budget rest

/-- Passes over a string whose opening quote has been read. -/
def skipQuoted (text : Bytes) : Except Problem Bytes := skipContent text text

/-- A list or an object that is open. -/
inductive Frame where
  | list
  | object
  deriving DecidableEq, Repr

def Frame.enclosure : Frame → Enclosure
  | .list => .list
  | .object => .object

def Frame.closing : Frame → UInt8
  | .list => listClose
  | .object => objectClose

def Frame.commaOrEnd : Frame → Breach
  | .list => .listCommaOrEndExpected
  | .object => .objectCommaOrEndExpected

/-- Passes over a name and its colon. -/
def skipKey (text : Bytes) : Except Problem Bytes :=
  match skipGap text with
  | [] => .error (.ended .object)
  | quoteMark :: rest =>
    match skipQuoted rest with
    | .error p => .error p
    | .ok rest => expectColon rest
  | _ => .error (.breach .keyNotString)

/-- What stands before the next value in an open list or object. -/
def Frame.skipLead : Frame → Bytes → Except Problem Bytes
  | .list, text => .ok text
  | .object, text => skipKey text

/-- Passes over a value that is no list and no object; `first` is its first byte. -/
def skipScalar (first : UInt8) (rest : Bytes) : Except Problem Bytes :=
  match first with
  | lowerN => expectLiteral restOfNull rest
  | lowerT => expectLiteral restOfTrue rest
  | lowerF => expectLiteral restOfFalse rest
  | minus => skipMagnitude rest
  | quoteMark => skipQuoted rest
  | b => if isDigit b then skipMagnitude (b :: rest) else .error (.breach .valueExpected)

/-- Where the passing stands: before a value or after one. -/
inductive Place where
  | before
  | after
  deriving DecidableEq, Repr

/-- The step over an opening bracket: an empty list or object is passed at once. -/
def Frame.enter (frame : Frame) (text : Bytes) : Except Problem (Place × Bytes) :=
  match skipGap text with
  | [] => .error (.ended frame.enclosure)
  | b :: rest =>
    if b = frame.closing then .ok (.after, rest)
    else
      match frame.skipLead (b :: rest) with
      | .error p => .error p
      | .ok rest => .ok (.before, rest)

/-- The step after a value in a list or object: to the next value or out of the bracket. -/
def Frame.advance (frame : Frame) (text : Bytes) : Except Problem (Place × Bytes) :=
  match skipGap text with
  | [] => .error (.ended frame.enclosure)
  | b :: rest =>
    if b = comma then
      match frame.skipLead rest with
      | .error p => .error p
      | .ok rest => .ok (.before, rest)
    else if b = frame.closing then .ok (.after, rest)
    else .error (.breach frame.commaOrEnd)

/-- Passes on until every list and object in `frames` (innermost first) is closed. -/
def skipFrom : Bytes → Place → List Frame → Bytes → Except Problem Bytes
  | _, .after, [], text => .ok text
  | [], _, _, _ => .error (.ended .value)
  | _ :: budget, .after, frame :: frames, text =>
    match frame.advance text with
    | .error p => .error p
    | .ok (.after, rest) => skipFrom budget .after frames rest
    | .ok (.before, rest) => skipFrom budget .before (frame :: frames) rest
  | _ :: budget, .before, frames, text =>
    match skipGap text with
    | [] => .error (.ended .value)
    | listOpen :: rest =>
      match Frame.list.enter rest with
      | .error p => .error p
      | .ok (.after, rest) => skipFrom budget .after frames rest
      | .ok (.before, rest) => skipFrom budget .before (.list :: frames) rest
    | objectOpen :: rest =>
      match Frame.object.enter rest with
      | .error p => .error p
      | .ok (.after, rest) => skipFrom budget .after frames rest
      | .ok (.before, rest) => skipFrom budget .before (.object :: frames) rest
    | b :: rest =>
      match skipScalar b rest with
      | .error p => .error p
      | .ok rest => skipFrom budget .after frames rest

/-- Passes over one value. Every step takes at least one byte, and a step that finds the text at
its end needs one more. -/
def skipValue (text : Bytes) : Except Problem Bytes := skipFrom (0 :: text) .before [] text

end Json
end Scoreline
