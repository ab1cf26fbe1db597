import RecordQuery.Command.Arguments
import RecordQuery.Command.Basic
import RecordQuery.Value.Pretty
import Std.Time.DateTime.Timestamp

/-!
The program. It reads its files, decides nothing, and prints what the library answers.
-/

namespace RecordQuery

/-- Why a file cannot be read, in the words of the system. -/
def readFailure : IO.Error → String
  | .noFileOrDirectory _ _ _ => "No such file or directory (os error 2)"
  | .permissionDenied _ _ _ => "Permission denied (os error 13)"
  | e => toString e

/-- The files of a command, read ahead: the settings, then the data files they name. -/
def readFiles (path : String) : IO Files := do
  let read (p : String) : IO (String × Except String String) := do
    try
      return (p, .ok (← IO.FS.readFile p))
    catch e => return (p, .error (readFailure e))
  let settings ← read path
  let found ← match Settings.ofFile path settings.2 with
    | .error _ => pure []
    | .ok s => (s.metadataPath :: s.seedPath.toList).mapM read
  let table := settings :: found
  return fun p => (Fields.get? table p).getD (.error "No such file or directory (os error 2)")

def currentInstant : IO Instant := do
  let now ← Std.Time.Timestamp.now
  let nanos := now.toNanosecondsSinceUnixEpoch.toInt
  return ⟨nanos / 1000000000, (nanos % 1000000000).toNat⟩

def failWith (e : CommandError) : IO UInt32 := do
  IO.eprintln e.text
  return UInt32.ofNat e.exitCode

def runCommand : CommandLine → IO UInt32
  | .compile settings document filter caller => do
    match Command.compile (← readFiles settings) (← currentInstant) settings document filter
        caller with
    | .ok query =>
      IO.println (query.pretty 0)
      return 0
    | .error e => failWith e
  | .serve settings _ => do
    let files ← readFiles settings
    match files.settings settings with
    | .error e => failWith e
    | .ok s =>
      match Command.boot files (← currentInstant) (fun _ => .overWire) "" s with
      | .ok _ => failWith (.server "no listener")
      | .error e => failWith e

end RecordQuery

def main (arguments : List String) : IO UInt32 := do
  match RecordQuery.Arguments.read arguments with
  | .ok command => RecordQuery.runCommand command
  | .error .helpWanted | .error .versionWanted =>
    IO.println ("aeroquery " ++ RecordQuery.Service.version)
    return 0
  | .error _ =>
    IO.eprintln "usage: aeroquery serve [OPTIONS] | aeroquery compile [OPTIONS]"
    return 2
