import Scoreline.Command.Run

/-!
# Scoreline.Main

The command line program. It reads the files that the arguments name, runs the command on what they
hold, and prints what comes of it: the document to standard output, the notices and the failure to
standard error.

No transport is built in: a server that a command asks closes the connection.
-/

namespace Scoreline
namespace Command

/-- The files that a command line names. -/
def Request.paths : Request → List String
  | .run ⟨general, .points input _⟩ | .run ⟨general, .chart input _⟩ =>
    general.config.toList ++ [input]
  | .run ⟨general, .fetch _ _ _ _⟩ => general.config.toList
  | .help | .usage => []

/-- Why a file could not be read. -/
def fileError : IO.Error → FileError
  | .permissionDenied .. => .denied
  | .inappropriateType _ code _ => if code = 20 then .notDirectory else .directory
  | .invalidArgument .. => .nameTooLong
  | _ => .missing

def readContents (path : String) : IO Contents := do
  try
    let bytes ← IO.FS.readBinFile path
    return .ok bytes.data.toList
  catch e => return .error (fileError e)

def readFiles (paths : List String) : IO Files := do
  let read ← paths.mapM fun path => do return (path, ← readContents path)
  return fun path => (read.lookup path).getD (.error .missing)

end Command
end Scoreline

open Scoreline Scoreline.Command in
def main (args : List String) : IO UInt32 := do
  let files ← readFiles (Command.parse args).paths
  let outcome := Command.run ⟨files, fun _ => none⟩ args
  for notice in outcome.shown do
    IO.eprintln notice.line
  IO.print outcome.stdout
  match outcome.failure? with
  | some report => IO.eprintln ("Error: " ++ report)
  | none => pure ()
  return outcome.exitCode.toUInt32
