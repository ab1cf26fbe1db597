import RecordQuery.Text.Blank

/-!
Why an aggregation run by another program fails. Most errors carry what that program wrote to its
error output.
-/

namespace RecordQuery

/-- A channel to the aggregation process. -/
inductive Pipe
  | stdin
  | stdout
  | stderr
  deriving DecidableEq, Repr

def Pipe.name : Pipe → String
  | stdin => "stdin"
  | stdout => "stdout"
  | stderr => "stderr"

inductive BridgeError
  | spawn (program reason : String)
  | pipeUnavailable (pipe : Pipe)
  /-- The process ended, but not with success. -/
  | exit (status diagnostics : String)
  /-- Output or exit did not come in time after the input was closed. -/
  | timeout (millis : Nat) (diagnostics : String)
  | write (reason diagnostics : String)
  /-- The stream of records failed. -/
  | streamFailed (reason : String)
  | outputTooLarge (bytes : Nat)
  /-- The program reported a failure. -/
  | rpc (code : Int) (message diagnostics : String)
  | protocol (reason diagnostics : String)
  deriving DecidableEq, Repr

namespace BridgeError

/-- Diagnostics follow a message unless they are blank. -/
def suffix (diagnostics : String) : String :=
  let text := Text.trim diagnostics
  if text = "" then "" else " (stderr: " ++ text ++ ")"

def kind : BridgeError → String
  | spawn _ _ => "Spawn"
  | pipeUnavailable _ => "PipeUnavailable"
  | exit _ _ => "Exit"
  | timeout _ _ => "Timeout"
  | write _ _ => "Write"
  | streamFailed _ => "Upstream"
  | outputTooLarge _ => "OutputTooLarge"
  | rpc _ _ _ => "Rpc"
  | protocol _ _ => "Protocol"

def message : BridgeError → String
  | spawn program reason => "Failed to spawn aggregation process [" ++ program ++ "]: " ++ reason
  | pipeUnavailable pipe => "Aggregation process " ++ pipe.name ++ " is not available"
  | exit status diagnostics =>
    "Aggregation process exited with " ++ status ++ suffix diagnostics
  | timeout millis diagnostics =>
    "Aggregation process did not finish within " ++ toString millis ++ "ms" ++ suffix diagnostics
  | write reason diagnostics =>
    "Failed to write to aggregation process: " ++ reason ++ suffix diagnostics
  | streamFailed reason => "Record stream failed: " ++ reason
  | outputTooLarge bytes => "Aggregation output exceeds " ++ toString bytes ++ " bytes"
  | rpc code message diagnostics =>
    "RPC error " ++ toString code ++ ": " ++ message ++ suffix diagnostics
  | protocol reason diagnostics =>
    "Malformed aggregation output: " ++ reason ++ suffix diagnostics

/-- Adds diagnostics to an error that can carry them and has none yet. -/
def withDiagnostics (captured : String) : BridgeError → BridgeError
  | exit status d => exit status (if d = "" then captured else d)
  | timeout millis d => timeout millis (if d = "" then captured else d)
  | write reason d => write reason (if d = "" then captured else d)
  | rpc code message d => rpc code message (if d = "" then captured else d)
  | protocol reason d => protocol reason (if d = "" then captured else d)
  | e => e

end BridgeError

end RecordQuery
