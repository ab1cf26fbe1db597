import RecordQuery.Number.Signed
import RecordQuery.Text.Blank
import RecordQuery.Value.Basic

/-!
The command line: a command, then its options in any order. An option's value follows it as an
argument of its own or behind `=`. What is wrong is told from left to right, except that a value
that stands alone is only looked at when the next option or the end is reached.
-/

namespace RecordQuery

/-- Why a command line is not run. -/
inductive ArgumentError
  | helpWanted
  | versionWanted
  | nothingGiven
  | unknownCommand
  | unknownArgument
  | valueMissing
  | valueUnwanted
  | valueInvalid
  | repeated
  | requiredMissing
  deriving DecidableEq, Repr

inductive CommandLine
  | serve (settings : String) (port : Option Nat)
  | compile (settings document filter caller : String)
  deriving DecidableEq, Repr

namespace Arguments

/-- What values an option takes. -/
inductive ValueKind
  | text
  /-- A path is not empty. -/
  | path
  | port
  deriving DecidableEq, Repr

/-- An option that takes one value. -/
structure OptionSpec where
  name : String
  kind : ValueKind
  deriving DecidableEq, Repr

def readPort? (s : String) : Option Nat :=
  match Signed.read s.toList with
  | .ok n => if 0 ≤ n ∧ n < Word.bound16 then some n.toNat else none
  | .error _ => none

def ValueKind.check (kind : ValueKind) (value : String) : Except ArgumentError Unit :=
  match kind with
  | text => .ok ()
  | path => if value = "" then .error .valueMissing else .ok ()
  | port => if (readPort? value).isNone then .error .valueInvalid else .ok ()

/-- One argument by its form. -/
inductive ArgumentForm
  /-- Two dashes alone: all that follows is no option. -/
  | escape
  | long (name : String) (value : Option String)
  | short (letters : List Char)
  | plain
  deriving DecidableEq, Repr

def formOf (argument : String) : ArgumentForm :=
  match argument.toList with
  | ['-', '-'] => .escape
  | '-' :: '-' :: rest =>
    match Text.splitOnce? '=' (String.ofList rest) with
    | some (name, value) => .long name (some value)
    | none => .long (String.ofList rest) none
  | '-' :: c :: rest => .short (c :: rest)
  | _ => .plain

/-- A flag that ends the reading at once. -/
def flagError (withVersion : Bool) (name : String) (value : Option String) : ArgumentError :=
  if name = "help" ∨ (withVersion ∧ name = "version") then
    if value.isSome then .valueUnwanted
    else if name = "help" then .helpWanted else .versionWanted
  else .unknownArgument

def lettersError (withVersion : Bool) : List Char → ArgumentError
  | 'h' :: _ => .helpWanted
  | 'V' :: _ => if withVersion then .versionWanted else .unknownArgument
  | _ => .unknownArgument

/-- What has been read: values, and an option whose value is awaited or not yet looked at. -/
structure Reading where
  values : Fields String
  pending : Option (OptionSpec × Option String)
  /-- Behind two dashes alone. -/
  escaped : Bool

/-- Takes the value of an option, which is given once. -/
def Reading.take (r : Reading) (o : OptionSpec) (value : String) : Except ArgumentError Reading :=
  if Fields.contains r.values o.name then .error .repeated
  else do
    o.kind.check value
    return { r with values := r.values ++ [(o.name, value)] }

/-- Looks at the value that stands alone. -/
def Reading.settle (r : Reading) : Except ArgumentError Reading :=
  match r.pending with
  | none => .ok r
  | some (_, none) => .error .valueMissing
  | some (o, some value) => { r with pending := none }.take o value

def Reading.step (options : List OptionSpec) (r : Reading) (argument : String) :
    Except ArgumentError Reading :=
  if r.escaped then .error .unknownArgument
  else
    match formOf argument with
    | .escape => .ok { r with escaped := true }
    | .long name value =>
      match options.find? fun o => o.name = name, value with
      | none, _ => do
        if flagError false name value = .helpWanted then
          discard r.settle
        .error (flagError false name value)
      | some o, some value => do (← r.settle).take o value
      | some o, none => do return { ← r.settle with pending := some (o, none) }
    | .short letters => do
      if lettersError false letters = .helpWanted then
        discard r.settle
      .error (lettersError false letters)
    | .plain =>
      match r.pending with
      | some (o, none) => .ok { r with pending := some (o, some argument) }
      | _ => .error .unknownArgument

/-- The values of a command's options. -/
def values (options : List OptionSpec) (arguments : List String) :
    Except ArgumentError (Fields String) := do
  let r ← arguments.foldlM (Reading.step options) ⟨[], none, false⟩
  return (← r.settle).values

def defaultSettings : String := "./aeroquery.json"

def settingsOption : OptionSpec := ⟨"config", .path⟩

def serve (arguments : List String) : Except ArgumentError CommandLine := do
  let found ← values [settingsOption, ⟨"port", .port⟩] arguments
  return .serve ((Fields.get? found "config").getD defaultSettings)
    ((Fields.get? found "port").bind readPort?)

def compile (arguments : List String) : Except ArgumentError CommandLine := do
  let found ← values [settingsOption, ⟨"document", .text⟩, ⟨"filter", .text⟩, ⟨"user", .text⟩]
    arguments
  match Fields.get? found "document", Fields.get? found "filter" with
  | some document, some filter =>
    return .compile ((Fields.get? found "config").getD defaultSettings) document filter
      ((Fields.get? found "user").getD "cli")
  | _, _ => .error .requiredMissing

/-- Help can be asked for by the name of one command. -/
def help : List String → ArgumentError
  | [] | ["serve"] | ["compile"] | ["help"] => .helpWanted
  | _ => .unknownCommand

/-- Behind two dashes no command is read any more. -/
def escaped : List String → ArgumentError
  | [] => .nothingGiven
  | argument :: _ =>
    if ["serve", "compile", "help"].contains argument then .unknownArgument else .unknownCommand

/-- Reads the arguments behind the name of the program. -/
def read : List String → Except ArgumentError CommandLine
  | [] => .error .nothingGiven
  | "serve" :: rest => serve rest
  | "compile" :: rest => compile rest
  | "help" :: rest => .error (help rest)
  | argument :: rest =>
    match formOf argument with
    | .escape => .error (escaped rest)
    | .long name value => .error (flagError true name value)
    | .short letters => .error (lettersError true letters)
    | .plain => .error .unknownCommand

end Arguments

end RecordQuery
