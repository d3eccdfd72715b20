import Scoreline.Json.Skip

/-!
# Scoreline.Json.Reader

Readers for the plain types, and the walks through lists and objects that other readers are built
on. A reader meets a text from left to right and stops at the first thing that does not fit, be it a
breach of the rules of JSON or a value of the wrong kind.

`readBuffered` reads any value whole. It alone limits how deep lists and objects may nest, since
the other readers nest as deep as the type that they read.
-/

namespace Scoreline
namespace Json

/-! ## Values of the wrong kind -/

/-- Why the value at the front of `text`, which has no blank there, is not what is `expected`. A
plain value is read first, and may itself be faulty. -/
def refuse (expected : String) (text : Bytes) : Problem :=
  let because (found : Found) : Problem := .mismatch (.type found expected)
  let literal (rest literal : Bytes) (found : Found) : Problem :=
    match expectLiteral literal rest with
    | .error p => p
    | .ok _ => because found
  let number (r : Except Problem (Number × Bytes)) : Problem :=
    match r with
    | .error p => p
    | .ok (n, _) => because (.number n)
  match text with
  | [] => .breach .valueExpected
  | lowerN :: rest => literal rest restOfNull .null
  | lowerT :: rest => literal rest restOfTrue (.boolean true)
  | lowerF :: rest => literal rest restOfFalse (.boolean false)
  | minus :: rest => number (readMagnitude true rest)
  | quoteMark :: rest =>
    match readQuoted rest with
    | .error p => p
    | .ok (s, _) => because (.string s)
  | listOpen :: _ => because .sequence
  | objectOpen :: _ => because .map
  | b :: rest =>
    if isDigit b then number (readMagnitude false (b :: rest)) else .breach .valueExpected

/-! ## Plain types -/

/-- Reads a number; `expected` names what is wanted. -/
def readNumber (expected : String) : Reader Number := fun text =>
  match skipGap text with
  | [] => .error (.ended .value)
  | minus :: rest => readMagnitude true rest
  | b :: rest =>
    if isDigit b then readMagnitude false (b :: rest) else .error (refuse expected (b :: rest))

/-- Whether a number is an integer from `low` to `high`. -/
def Number.within (expected : String) (low high : Int) : Number → Except Problem Int
  | .integer n =>
    if low ≤ n ∧ n ≤ high then .ok n
    else .error (.mismatch (.value (.number (.integer n)) expected))
  | n => .error (.mismatch (.type (.number n) expected))

/-- Reads an integer from `low` to `high`. -/
def readInteger (expected : String) (low high : Int) : Reader Int := fun text =>
  match readNumber expected text with
  | .error p => .error p
  | .ok (n, rest) =>
    match n.within expected low high with
    | .error p => .error p
    | .ok n => .ok (n, rest)

def readString : Reader String := fun text =>
  match skipGap text with
  | [] => .error (.ended .value)
  | quoteMark :: rest => readQuoted rest
  | text => .error (refuse "a string" text)

def readBoolean : Reader Bool := fun text =>
  match skipGap text with
  | [] => .error (.ended .value)
  | lowerT :: rest =>
    match expectLiteral restOfTrue rest with
    | .error p => .error p
    | .ok rest => .ok (true, rest)
  | lowerF :: rest =>
    match expectLiteral restOfFalse rest with
    | .error p => .error p
    | .ok rest => .ok (false, rest)
  | text => .error (refuse "a boolean" text)

def readNull : Reader Unit := fun text =>
  match skipGap text with
  | [] => .error (.ended .value)
  | lowerN :: rest =>
    match expectLiteral restOfNull rest with
    | .error p => .error p
    | .ok rest => .ok ((), rest)
  | text => .error (refuse "unit" text)

/-- Reads `null` as no value and leaves everything else to `read`. -/
def readOption {α : Type} (read : Reader α) : Reader (Option α) := fun text =>
  match skipGap text with
  | lowerN :: rest =>
    match expectLiteral restOfNull rest with
    | .error p => .error p
    | .ok rest => .ok (none, rest)
  | text =>
    match read text with
    | .error p => .error p
    | .ok (a, rest) => .ok (some a, rest)

/-! ## Lists -/

/-- The text of the next element, or nothing before the closing bracket. `first` says that no
element has been read. -/
def nextElement (first : Bool) (text : Bytes) : Except Problem (Option Bytes) :=
  match skipGap text with
  | [] => .error (.ended .list)
  | listClose :: _ => .ok none
  | comma :: rest =>
    if first then .ok (some (comma :: rest))
    else
      match skipGap rest with
      | [] => .error (.ended .value)
      | listClose :: _ => .error (.breach .trailingComma)
      | rest => .ok (some rest)
  | rest => if first then .ok (some rest) else .error (.breach .listCommaOrEndExpected)

/-- The text after the closing bracket of a list. -/
def closeList (text : Bytes) : Except Problem Bytes :=
  match skipGap text with
  | [] => .error (.ended .list)
  | listClose :: rest => .ok rest
  | comma :: rest =>
    match skipGap rest with
    | listClose :: _ => .error (.breach .trailingComma)
    | _ => .error (.breach .trailingCharacters)
  | _ => .error (.breach .trailingCharacters)

/-- The elements of a list up to its closing bracket, after those in `done` (last first). -/
def readElementsFrom {α : Type} (read : Reader α) : Bytes → Bool → List α → Reader (List α)
  | budget, first, done, text =>
    match nextElement first text with
    | .error p => .error p
    | .ok none => .ok (done.reverse, text)
    | .ok (some text) =>
      match budget with
      | [] => .error (.ended .value)
      | _ :: budget =>
        match read text with
        | .error p => .error p
        | .ok (a, rest) => readElementsFrom read budget false (a :: done) rest

/-- The elements of a list whose opening bracket has been read, and the closing bracket. -/
def readElements {α : Type} (read : Reader α) : Reader (List α) := fun text =>
  match readElementsFrom read text true [] text with
  | .error p => .error p
  | .ok (as, rest) =>
    match closeList rest with
    | .error p => .error p
    | .ok rest => .ok (as, rest)

def readList {α : Type} (read : Reader α) : Reader (List α) := fun text =>
  match skipGap text with
  | [] => .error (.ended .value)
  | listOpen :: rest => readElements read rest
  | text => .error (refuse "a sequence" text)

/-! ## Objects -/

/-- The text of the next name, from its opening quote on, or nothing before the closing brace. -/
def nextKey (first : Bool) (text : Bytes) : Except Problem (Option Bytes) :=
  let atKey (text : Bytes) : Except Problem (Option Bytes) :=
    match text with
    | quoteMark :: _ => .ok (some text)
    | _ => .error (.breach .keyNotString)
  match skipGap text with
  | [] => .error (.ended .object)
  | objectClose :: _ => .ok none
  | comma :: rest =>
    if first then .error (.breach .keyNotString)
    else
      match skipGap rest with
      | [] => .error (.ended .value)
      | objectClose :: _ => .error (.breach .trailingComma)
      | rest => atKey rest
  | rest => if first then atKey rest else .error (.breach .objectCommaOrEndExpected)

/-- The text after the closing brace of an object. -/
def closeObject (text : Bytes) : Except Problem Bytes :=
  match skipGap text with
  | [] => .error (.ended .object)
  | objectClose :: rest => .ok rest
  | comma :: _ => .error (.breach .trailingComma)
  | _ => .error (.breach .trailingCharacters)

/-- What is done with one member: given its name, what has been gathered so far and the text from
before the colon, it gathers on and gives the text after the value. -/
abbrev MemberStep (σ : Type) := String → σ → Reader σ

/-- Gathers the members of an object up to its closing brace. -/
def readMembersFrom {σ : Type} (step : MemberStep σ) : Bytes → Bool → σ → Reader σ
  | budget, first, gathered, text =>
    match nextKey first text with
    | .error p => .error p
    | .ok none => .ok (gathered, text)
    | .ok (some text) =>
      match budget with
      | [] => .error (.ended .value)
      | _ :: budget =>
        match readQuoted (text.drop 1) with
        | .error p => .error p
        | .ok (name, rest) =>
          match step name gathered rest with
          | .error p => .error p
          | .ok (gathered, rest) => readMembersFrom step budget false gathered rest

/-- Gathers the members of an object whose opening brace has been read, up to the closing one. -/
def readMembers {σ : Type} (step : MemberStep σ) (start : σ) : Reader σ := fun text =>
  readMembersFrom step text true start text

/-- Passes over the value of a member. -/
def skipMember {σ : Type} (gathered : σ) : Reader σ := fun text =>
  match expectColon text with
  | .error p => .error p
  | .ok rest =>
    match skipValue rest with
    | .error p => .error p
    | .ok rest => .ok (gathered, rest)

/-- Reads the value of a member. -/
def readMember {α : Type} (read : Reader α) : Reader α := fun text =>
  match expectColon text with
  | .error p => .error p
  | .ok rest => read rest

/-! ## Whole values -/

/-- Reads a value whose lists and objects hold values that `nested` reads; without `nested` they
are too deep. -/
def readBufferedWith (nested : Option (Reader Value)) : Reader Value := fun text =>
  match skipGap text with
  | [] => .error (.ended .value)
  | lowerN :: rest =>
    match expectLiteral restOfNull rest with
    | .error p => .error p
    | .ok rest => .ok (.null, rest)
  | lowerT :: rest =>
    match expectLiteral restOfTrue rest with
    | .error p => .error p
    | .ok rest => .ok (.boolean true, rest)
  | lowerF :: rest =>
    match expectLiteral restOfFalse rest with
    | .error p => .error p
    | .ok rest => .ok (.boolean false, rest)
  | minus :: rest =>
    match readMagnitude true rest with
    | .error p => .error p
    | .ok (n, rest) => .ok (.number n, rest)
  | quoteMark :: rest =>
    match readQuoted rest with
    | .error p => .error p
    | .ok (s, rest) => .ok (.string s, rest)
  | listOpen :: rest =>
    match nested with
    | none => .error (.breach .nesting)
    | some read =>
      match readElements read rest with
      | .error p => .error p
      | .ok (items, rest) => .ok (.array items, rest)
  | objectOpen :: rest =>
    match nested with
    | none => .error (.breach .nesting)
    | some read =>
      let step : MemberStep (List (String × Value)) := fun name done text =>
        match readMember read text with
        | .error p => .error p
        | .ok (v, rest) => .ok ((name, v) :: done, rest)
      match readMembers step [] rest with
      | .error p => .error p
      | .ok (members, rest) =>
        match closeObject rest with
        | .error p => .error p
        | .ok rest => .ok (.object members.reverse, rest)
  | b :: rest =>
    if isDigit b then
      match readMagnitude false (b :: rest) with
      | .error p => .error p
      | .ok (n, rest) => .ok (.number n, rest)
    else .error (.breach .valueExpected)

/-- Reads any value with at most `depth` lists and objects around its innermost part. -/
def readBuffered : Nat → Reader Value
  | 0 => readBufferedWith none
  | depth + 1 => readBufferedWith (some (readBuffered depth))

/-- How deep the lists and objects of a whole text may nest where values are read whole. -/
def nestingLimit : Nat := 127

/-! ## Whole texts -/

/-- Reads a text that holds one value and blanks around it. -/
def readWhole {α : Type} (read : Reader α) (text : Bytes) : Except Problem α :=
  match read text with
  | .error p => .error p
  | .ok (a, rest) =>
    match skipGap rest with
    | [] => .ok a
    | _ :: _ => .error (.breach .trailingCharacters)

end Json
end Scoreline
