import Scoreline.Text.Utf8

/-!
# Scoreline.File

Files as values: the bytes of each by its path, or why they cannot be had.

A `Node` is a tree of files and directories. `Node.contents` follows a path through it: names are
separated by slashes, `.` and an empty name stay, `..` goes to the directory above, and only a
directory leads on.
-/

namespace Scoreline

inductive FileError where
  | missing
  | directory
  | notDirectory
  | nameTooLong
  | denied
  | notText
  deriving DecidableEq, Repr

def FileError.message : FileError → String
  | .missing => "No such file or directory (os error 2)"
  | .directory => "Is a directory (os error 21)"
  | .notDirectory => "Not a directory (os error 20)"
  | .nameTooLong => "File name too long (os error 36)"
  | .denied => "Permission denied (os error 13)"
  | .notText => "stream did not contain valid UTF-8"

/-- What a file holds. -/
abbrev Contents := Except FileError Bytes

/-- The files that a command can see. -/
abbrev Files := String → Contents

/-- The bytes of a file that holds a text. -/
def Contents.textual (c : Contents) : Except FileError Bytes :=
  match c with
  | .error e => .error e
  | .ok bytes => if (Text.ofUtf8? bytes).isSome then .ok bytes else .error .notText

/-! ## Trees of files -/

/-- A file, or a directory with its entries by name. -/
inductive Node where
  | file (bytes : Bytes)
  | directory (entries : List (String × Node))

namespace Node

/-- How many bytes a name may have. -/
def nameLimit : Nat := 255

/-- How many bytes a path may have. -/
def pathLimit : Nat := 4095

/-- Follows names from a node; `above` holds the directories that it is in, the innermost first. -/
def follow : Node → List Node → List String → Contents
  | .file bytes, _, [] => .ok bytes
  | .file _, _, _ :: _ => .error .notDirectory
  | .directory _, _, [] => .error .directory
  | .directory entries, above, name :: names =>
    if name = "" ∨ name = "." then follow (.directory entries) above names
    else if name = ".." then
      match above with
      | [] => follow (.directory entries) [] names
      | parent :: above => follow parent above names
    else if nameLimit < name.utf8ByteSize then .error .nameTooLong
    else
      match entries.lookup name with
      | none => .error .missing
      | some node => follow node (.directory entries :: above) names

/-- What a path leads to in a tree. A path that does not begin with a slash begins in the directory
that `home` leads to. -/
def contents (root : Node) (home : List String) : Files := fun path =>
  if pathLimit < path.utf8ByteSize then .error .nameTooLong
  else
    let names := path.splitOn "/"
    root.follow [] (if path.startsWith "/" then names else home ++ names)

end Node

end Scoreline
