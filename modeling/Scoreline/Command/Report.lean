import Scoreline.Text.Alignment

/-!
# Scoreline.Command.Report

The report of a failure: what failed, and below it the causes, each indented. A single cause stands
by itself; several are numbered from 0.
-/

namespace Scoreline
namespace Command

/-- What failed, and then the causes, each one the cause of what stands before it. -/
abbrev Chain := List String

/-- A text with `first` before its first line and `others` before every other. -/
def indented (first others : String) (s : String) : String :=
  match s.splitOn "\n" with
  | [] => first
  | line :: lines => first ++ ("\n" ++ others).intercalate (line :: lines)

/-- A number right-aligned to five characters. -/
def causeNumber (i : Nat) : String := Text.align .right 5 (toString i) ++ ": "

/-- Numbered causes, the first of them number `i`. -/
def numberedCauses : Nat → List String → List String
  | _, [] => []
  | i, c :: cs => indented (causeNumber i) "       " c :: numberedCauses (i + 1) cs

def report : Chain → String
  | [] => ""
  | [message] => message
  | [message, cause] => message ++ "\n\nCaused by:\n" ++ indented "    " "    " cause
  | message :: causes =>
    message ++ "\n\nCaused by:\n" ++ "\n".intercalate (numberedCauses 0 causes)

end Command
end Scoreline
