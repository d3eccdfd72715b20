import Scoreline.Text.Quoted

/-!
# Scoreline.Notice

What the library reports on its way, as values: a level, the part of the program that speaks, and
the message. Nothing is printed here.
-/

namespace Scoreline

inductive Level where
  | debug
  | info
  | warn
  deriving DecidableEq, Repr

def Level.name : Level → String
  | .debug => "DEBUG"
  | .info => "INFO"
  | .warn => "WARN"

/-- Whether notices of this level are shown to a user who asked for nothing special. -/
def Level.isShown : Level → Bool
  | .debug => false
  | .info | .warn => true

structure Notice where
  level : Level
  origin : String
  message : String
  deriving DecidableEq, Repr

namespace Notice

/-- The notice without its origin. -/
def text (n : Notice) : String := n.level.name ++ " " ++ n.message

/-- A character as a log shows it. Controls that a terminal would obey stand there by their number:
two hexadecimal digits, or digits in braces beyond ASCII. -/
def shownChar (c : Char) : List Char :=
  if c = '\x1b' then "\\x1b".toList
  else if c = '\x07' then "\\x07".toList
  else if c = '\x08' then "\\x08".toList
  else if c = '\x0c' then "\\x0c".toList
  else if c = '\x7f' then "\\x7f".toList
  else if 0x80 ≤ c.toNat ∧ c.toNat ≤ 0x9F then Text.numbered c
  else [c]

/-- The message as a log shows it. -/
def shownMessage (n : Notice) : String := String.ofList (n.message.toList.flatMap shownChar)

/-- The notice as one entry of a log. -/
def line (n : Notice) : String := n.level.name ++ " " ++ n.origin ++ ": " ++ n.shownMessage

end Notice

end Scoreline
