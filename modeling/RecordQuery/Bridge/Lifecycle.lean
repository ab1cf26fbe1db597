import RecordQuery.Bridge.Message
import RecordQuery.QueryError
import RecordQuery.Find.Basic
import RecordQuery.Text.Utf8

/-!
The life of one aggregating process: a request and records are written to it, then its output is
collected. What the process and its pipes do is left to its surroundings. Every failure ends the
process before it is reported, and no process is killed twice.
-/

namespace RecordQuery

/-- The program to run, and its limits. -/
structure ProcessSettings where
  program : String
  arguments : List String
  /-- Bytes that wait for the process before a write waits. -/
  highWater : Nat
  maxOutput : Nat
  /-- Bytes of diagnostics that are kept. -/
  diagnosticsLimit : Nat
  killMillis : Nat
  /-- Time for output and exit after the input is closed. -/
  exitMillis : Nat

namespace ProcessSettings

def standard (program : String) : ProcessSettings where
  program
  arguments := []
  highWater := 16 * 1024
  maxOutput := 64 * 1024 * 1024
  diagnosticsLimit := 64 * 1024
  killMillis := 250
  exitMillis := 120000

end ProcessSettings

/-- How a process ended. -/
inductive ExitStatus
  | code (n : Nat)
  | signal (name : String)
  deriving DecidableEq, Repr

namespace ExitStatus

def isSuccess : ExitStatus → Bool
  | code 0 => true
  | _ => false

def text : ExitStatus → String
  | code n => "exit status: " ++ toString n
  | signal name => "signal: " ++ name

end ExitStatus

/-- What comes of reading all output in time. -/
inductive OutputOutcome
  | closed (bytes : List UInt8)
  | failed (reason : String)
  | readerLost (reason : String)
  | stillOpen

/-- What comes of waiting for the end in time. -/
inductive ExitOutcome
  | ended (status : ExitStatus)
  | failed (reason : String)
  | stillRunning

/-- What happens around one operation. -/
structure Surroundings where
  /-- Why the operation's write of some number fails, if it does. -/
  writeFault : Nat → Option String
  flushFault : Option String
  shutdownFault : Option String
  output : OutputOutcome
  exit : ExitOutcome
  /-- The process has ended by itself when it is to be killed. -/
  endedBefore : Bool
  /-- Diagnostics captured by the time an error is reported. -/
  diagnostics : String

structure AggregationProcess where
  settings : ProcessSettings
  inputOpen : Bool
  outputTaken : Bool
  terminated : Bool
  killAttempts : Nat
  recordsSent : Nat

/-- The answer of an operation and the process after it. -/
abbrev Operation (α : Type) := Except BridgeError α × AggregationProcess

namespace AggregationProcess

def spawned (settings : ProcessSettings) : AggregationProcess :=
  ⟨settings, true, false, false, 0, 0⟩

/-- Ends the process unless it is known to have ended. It counts as ended from then on, whether the
signal could be sent or not and whether it took effect in time or not. -/
def kill (s : Surroundings) (p : AggregationProcess) : AggregationProcess :=
  if p.terminated then { p with inputOpen := false }
  else
    { p with
      inputOpen := false
      terminated := true
      killAttempts := if s.endedBefore then p.killAttempts else p.killAttempts + 1 }

/-- Reports an error with the diagnostics, after the process has been ended. -/
def fail {α : Type} (s : Surroundings) (p : AggregationProcess) (e : BridgeError) : Operation α :=
  (.error (e.withDiagnostics s.diagnostics), p.kill s)

/-- Writes the request; done when it has left this side. -/
def send (s : Surroundings) (p : AggregationProcess) : Operation Unit :=
  if p.inputOpen then
    match (s.writeFault 0).or s.flushFault with
    | some reason => p.fail s (.write reason "")
    | none => (.ok (), p)
  else p.fail s (.pipeUnavailable .stdin)

/-- Closes the input; closing it again does nothing. -/
def closeInput (s : Surroundings) (p : AggregationProcess) : Option String × AggregationProcess :=
  (if p.inputOpen then s.flushFault.or s.shutdownFault else none, { p with inputOpen := false })

/-- Writes the records of a stream from a number on, then closes the input. -/
def writeRecords (s : Surroundings) : Nat → AggregationProcess →
    List (Except StreamError Record) → Operation Nat
  | _, p, [] =>
    match p.closeInput s with
    | (some reason, p) => p.fail s (.write reason "")
    | (none, p) => (.ok p.recordsSent, p)
  | _, p, .error e :: _ => p.fail s (.streamFailed e.message)
  | n, p, .ok _ :: rest =>
    if p.inputOpen then
      match s.writeFault n with
      | some reason => p.fail s (.write reason "")
      | none => writeRecords s (n + 1) { p with recordsSent := p.recordsSent + 1 } rest
    else p.fail s (.pipeUnavailable .stdin)

def stream (s : Surroundings) (p : AggregationProcess) (records : RecordStream) : Operation Nat :=
  writeRecords s 0 p records.items

/-- The error of a process that ended without success: the failure it reports, if it does. -/
def exitError (status : ExitStatus) (bytes : List UInt8) : BridgeError :=
  match AggregationOutput.split (Utf8.decodeReplacing bytes) with
  | .error (.rpc code message diagnostics) => .rpc code message diagnostics
  | _ => .exit status.text ""

/-- Judges output after the end of the process. -/
def judge (s : Surroundings) (p : AggregationProcess) (status : ExitStatus) (bytes : List UInt8) :
    Operation String :=
  let p := { p with terminated := true }
  if status.isSuccess then
    match Utf8.decode bytes with
    | .ok output => (.ok output, p)
    | .error fault =>
      (.error ((BridgeError.protocol ("output is not UTF-8: " ++ fault.message) "").withDiagnostics
        s.diagnostics), p)
  else (.error ((exitError status bytes).withDiagnostics s.diagnostics), p)

/-- Waits for the end of a process whose output is complete. -/
def awaitExit (s : Surroundings) (p : AggregationProcess) (bytes : List UInt8) : Operation String :=
  if p.settings.maxOutput < bytes.length then p.fail s (.outputTooLarge p.settings.maxOutput)
  else
    match s.exit with
    | .ended status => p.judge s status bytes
    | .failed reason => p.fail s (.exit reason "")
    | .stillRunning => p.fail s (.timeout p.settings.exitMillis "")

/-- The whole output of a process that succeeds. It can be taken once. -/
def takeOutput (s : Surroundings) (p : AggregationProcess) : Operation String :=
  match p.closeInput s with
  | (some reason, p) => p.fail s (.write reason "")
  | (none, p) =>
    if p.outputTaken then p.fail s (.pipeUnavailable .stdout)
    else
      let p := { p with outputTaken := true }
      match s.output with
      | .closed bytes => p.awaitExit s (bytes.take (p.settings.maxOutput + 1))
      | .failed reason => p.fail s (.protocol ("failed to read output: " ++ reason) "")
      | .readerLost reason => p.fail s (.protocol ("output reader failed: " ++ reason) "")
      | .stillOpen => p.fail s (.timeout p.settings.exitMillis "")

/-- Collects the payload of an aggregation of some kind. -/
def collect (s : Surroundings) (p : AggregationProcess) (kind : AggregationKind) :
    Operation AggregationOutput :=
  match p.takeOutput s with
  | (.error e, p) => (.error e, p)
  | (.ok output, p) =>
    match (AggregationOutput.split output).bind fun (_, payload) =>
        AggregationOutput.readPayload kind payload with
    | .ok result => (.ok result, p)
    | .error e => p.fail s e

/-- Request, records and result in one session; the first error ends it. -/
def session (s : Surroundings) (p : AggregationProcess) (kind : AggregationKind)
    (records : RecordStream) : Operation AggregationOutput :=
  match p.send s with
  | (.error e, p) => (.error e, p)
  | (.ok (), p) =>
    match p.stream s records with
    | (.error e, p) => (.error e, p)
    | (.ok _, p) => p.collect s kind

end AggregationProcess

namespace Diagnostics

/-- Lines of bytes without the characters that end them; what follows the last end is a line only if
it is not empty. -/
def lines (bytes : List UInt8) : List (List UInt8) :=
  let pieces := Text.splitOn (fun b => b = 10) bytes
  let ended := pieces.dropLast.map fun line =>
    if line.getLast? = some 13 then line.dropLast else line
  ended ++ (pieces.getLast?.toList.filter (· ≠ []))

/-- Keeps each line that still fits below the limit; bytes that are no text end the capture. -/
def keep (limit : Nat) (kept : String) : List (List UInt8) → String
  | [] => kept
  | line :: rest =>
    match Utf8.decode line with
    | .error _ => kept
    | .ok text =>
      if kept.utf8ByteSize + line.length < limit then keep limit (kept ++ text ++ "\n") rest
      else keep limit kept rest

/-- The diagnostics kept of what a process writes. -/
def capture (limit : Nat) (bytes : List UInt8) : String := keep limit "" (lines bytes)

end Diagnostics

end RecordQuery
