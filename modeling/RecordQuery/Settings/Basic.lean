import RecordQuery.Bridge.Lifecycle
import RecordQuery.Settings.Address
import RecordQuery.Text.Visible

/-!
Settings of the whole service. Everything but the path of the metadata has a default; unusable
settings are refused when they are read.
-/

namespace RecordQuery

structure ServerSettings where
  host : String
  port : Nat
  /-- Origins whose pages may read responses; any may if none is listed. -/
  origins : List String
  deriving DecidableEq, Repr

structure CallerSettings where
  /-- Signed tokens are accepted if it is set. -/
  secret : Option String
  /-- Fixed tokens and the users they stand for. -/
  tokens : Fields String
  deriving DecidableEq, Repr

/-- Where aggregations run. -/
inductive BackendKind
  | overWire
  | inProcess
  deriving DecidableEq, Repr

structure AggregationSettings where
  backend : BackendKind
  /-- Program and arguments; empty for the program that comes with the service. -/
  command : List String
  maxRecords : Nat
  highWater : Nat
  maxOutput : Nat
  diagnosticsLimit : Nat
  killMillis : Nat
  exitMillis : Nat
  deriving DecidableEq, Repr

structure LogSettings where
  level : String
  json : Bool
  deriving DecidableEq, Repr

structure Settings where
  server : ServerSettings
  /-- The file of the registry. -/
  metadataPath : String
  /-- The file of the records in store at the start. -/
  seedPath : Option String
  caller : CallerSettings
  query : QuerySettings
  aggregation : AggregationSettings
  log : LogSettings

namespace Shape

/-- A whole number below a bound. -/
def below? (bound : Nat) (v : Value) : Option Nat := v.asNat?.filter (· < bound)

end Shape

namespace ServerSettings

def standard : ServerSettings := ⟨"127.0.0.1", 8088, []⟩

def ofValue? (v : Value) : Option ServerSettings := do
  match ← Shape.slots? [["host"], ["port"], ["cors_origins"]] v with
  | [host, port, origins] =>
    return ⟨← Shape.fill standard.host Value.asStr? host,
      ← Shape.fill standard.port (Shape.below? Word.bound16) port,
      ← Shape.fill [] Shape.texts? origins⟩
  | _ => none

def toValue (s : ServerSettings) : Value :=
  .obj [("host", .str s.host), ("port", .nat s.port), ("cors_origins", .arr (s.origins.map .str))]

/-- The address to listen at, if the host is one. -/
def bindText? (s : ServerSettings) : Option String :=
  (Address.read? s.host).map fun address => address.withPort s.port

end ServerSettings

namespace CallerSettings

def standard : CallerSettings := ⟨none, []⟩

def ofValue? (v : Value) : Option CallerSettings := do
  match ← Shape.slots? [["jwt_secret"], ["static_tokens"]] v with
  | [secret, tokens] =>
    return ⟨← Shape.optionalText secret, ← Shape.fill [] (Shape.table? Value.asStr?) tokens⟩
  | _ => none

def toValue (s : CallerSettings) : Value :=
  .obj [("jwt_secret", (s.secret.map .str).getD .null), ("static_tokens", Shape.textTable s.tokens)]

end CallerSettings

namespace QuerySettings

def ofValue? (v : Value) : Option QuerySettings := do
  match ← Shape.slots? [["default_limit"], ["large_result_threshold"]] v with
  | [limit, large] =>
    return ⟨← Shape.fill standard.defaultLimit Value.asNat? limit,
      ← Shape.fill standard.largeResult Value.asNat? large⟩
  | _ => none

def toValue (s : QuerySettings) : Value :=
  .obj [("default_limit", .nat s.defaultLimit), ("large_result_threshold", .nat s.largeResult)]

end QuerySettings

namespace BackendKind

def name : BackendKind → String
  | overWire => "process"
  | inProcess => "in_process"

def ofValue? (v : Value) : Option BackendKind :=
  (Shape.tag? v).bind fun tag => [overWire, inProcess].find? fun kind => kind.name = tag

end BackendKind

namespace AggregationSettings

def standard : AggregationSettings :=
  let limits := ProcessSettings.standard ""
  { backend := .overWire
    command := []
    maxRecords := 100000
    highWater := limits.highWater
    maxOutput := limits.maxOutput
    diagnosticsLimit := limits.diagnosticsLimit
    killMillis := limits.killMillis
    exitMillis := limits.exitMillis }

def ofValue? (v : Value) : Option AggregationSettings := do
  match ← Shape.slots? [["backend"], ["command"], ["max_records"], ["stdin_high_water_mark"],
      ["max_output_bytes"], ["stderr_limit_bytes"], ["kill_timeout_ms"], ["exit_timeout_ms"]] v with
  | [backend, command, records, highWater, output, diagnostics, killMillis, exitMillis] =>
    return {
      backend := ← Shape.fill standard.backend BackendKind.ofValue? backend
      command := ← Shape.fill standard.command Shape.texts? command
      maxRecords := ← Shape.fill standard.maxRecords Value.asNat? records
      highWater := ← Shape.fill standard.highWater Value.asNat? highWater
      maxOutput := ← Shape.fill standard.maxOutput Value.asNat? output
      diagnosticsLimit := ← Shape.fill standard.diagnosticsLimit Value.asNat? diagnostics
      killMillis := ← Shape.fill standard.killMillis Value.asNat? killMillis
      exitMillis := ← Shape.fill standard.exitMillis Value.asNat? exitMillis }
  | _ => none

def toValue (s : AggregationSettings) : Value :=
  .obj [("backend", .str s.backend.name), ("command", .arr (s.command.map .str)),
    ("max_records", .nat s.maxRecords), ("stdin_high_water_mark", .nat s.highWater),
    ("max_output_bytes", .nat s.maxOutput), ("stderr_limit_bytes", .nat s.diagnosticsLimit),
    ("kill_timeout_ms", .nat s.killMillis), ("exit_timeout_ms", .nat s.exitMillis)]

/-- The process to run; the default program takes no arguments. -/
def process (s : AggregationSettings) (defaultProgram : String) : ProcessSettings where
  program := s.command.headD defaultProgram
  arguments := s.command.tail
  highWater := s.highWater
  maxOutput := s.maxOutput
  diagnosticsLimit := s.diagnosticsLimit
  killMillis := s.killMillis
  exitMillis := s.exitMillis

end AggregationSettings

namespace LogSettings

def standard : LogSettings := ⟨"info", false⟩

def ofValue? (v : Value) : Option LogSettings := do
  match ← Shape.slots? [["level"], ["json"]] v with
  | [level, json] => return ⟨← Shape.fill standard.level Value.asStr? level, ← Shape.flag json⟩
  | _ => none

def toValue (s : LogSettings) : Value := .obj [("level", .str s.level), ("json", .bool s.json)]

end LogSettings

/-- What makes settings unusable. -/
inductive SettingsFault
  | metadataMissing
  | portZero
  | hostNoAddress (host : String)
  | defaultLimitZero
  | maxRecordsZero
  | highWaterZero
  | programBlank
  | secretShort
  deriving DecidableEq, Repr

inductive SettingsError
  | unreadable (path reason : String)
  | malformed
  | unusable (fault : SettingsFault)
  deriving DecidableEq, Repr

namespace SettingsFault

def message : SettingsFault → String
  | metadataMissing => "metadata_path is required"
  | portZero => "server.port must be > 0"
  | hostNoAddress host => "server.host " ++ Text.quoteVisibly host ++ " is not an IP address"
  | defaultLimitZero => "query.default_limit must be > 0"
  | maxRecordsZero => "aggregation.max_records must be > 0"
  | highWaterZero => "aggregation.stdin_high_water_mark must be > 0"
  | programBlank => "aggregation.command program is empty"
  | secretShort => "auth.jwt_secret must be at least 16 bytes"

end SettingsFault

namespace SettingsError

def kind : SettingsError → String
  | unreadable _ _ => "Read"
  | malformed => "Parse"
  | unusable _ => "Invalid"

def message : SettingsError → String
  | unreadable path reason => "Failed to read config " ++ path ++ ": " ++ reason
  | malformed => "Invalid config JSON: malformed settings"
  | unusable fault => "Invalid config: " ++ fault.message

end SettingsError

namespace Settings

def ofValue? (v : Value) : Option Settings := do
  match ← Shape.slots? [["server"], ["metadata_path"], ["seed_path"], ["auth"], ["query"],
      ["aggregation"], ["log"]] v with
  | [server, metadata, seed, caller, query, aggregation, log] =>
    return {
      server := ← Shape.fill .standard ServerSettings.ofValue? server
      metadataPath := ← Shape.text metadata
      seedPath := ← Shape.optionalText seed
      caller := ← Shape.fill .standard CallerSettings.ofValue? caller
      query := ← Shape.fill .standard QuerySettings.ofValue? query
      aggregation := ← Shape.fill .standard AggregationSettings.ofValue? aggregation
      log := ← Shape.fill .standard LogSettings.ofValue? log }
  | _ => none

def toValue (s : Settings) : Value :=
  .obj [("server", s.server.toValue), ("metadata_path", .str s.metadataPath),
    ("seed_path", (s.seedPath.map .str).getD .null), ("auth", s.caller.toValue),
    ("query", s.query.toValue), ("aggregation", s.aggregation.toValue), ("log", s.log.toValue)]

/-- The shortest secret in bytes. -/
def secretBytes : Nat := 16

/-- The first fault of the settings. -/
def fault? (s : Settings) : Option SettingsFault :=
  if s.metadataPath = "" then some .metadataMissing
  else if s.server.port = 0 then some .portZero
  else if (Address.read? s.server.host).isNone then some (.hostNoAddress s.server.host)
  else if s.query.defaultLimit = 0 then some .defaultLimitZero
  else if s.aggregation.maxRecords = 0 then some .maxRecordsZero
  else if s.aggregation.highWater = 0 then some .highWaterZero
  else if s.aggregation.command.head?.any fun program => Text.trim program = "" then
    some .programBlank
  else if s.caller.secret.any fun secret => secret.utf8ByteSize < secretBytes then
    some .secretShort
  else none

def validate (s : Settings) : Except SettingsError Settings :=
  match s.fault? with
  | some fault => .error (.unusable fault)
  | none => .ok s

def ofText (text : String) : Except SettingsError Settings :=
  match (Value.readVerbatim? text).bind ofValue? with
  | none => .error .malformed
  | some s => s.validate

/-- The directory of a path. -/
def directory (path : String) : String :=
  let above := (path.toList.reverse.dropWhile (· ≠ '/')).reverse
  let trimmed := (above.reverse.dropWhile (· = '/')).reverse
  String.ofList (if trimmed = [] then above.take 1 else trimmed)

/-- A path as seen from a directory. -/
def resolve (base path : String) : String :=
  if path.startsWith "/" ∨ base = "" then path
  else if base.endsWith "/" then base ++ path
  else base ++ "/" ++ path

/-- Data files are found from the directory of the settings. -/
def relativeTo (s : Settings) (base : String) : Settings :=
  { s with
    metadataPath := resolve base s.metadataPath
    seedPath := s.seedPath.map (resolve base) }

/-- The settings in a file with a given content. -/
def ofFile (path : String) (content : Except String String) : Except SettingsError Settings := do
  let text ← content.mapError fun reason => SettingsError.unreadable path reason
  let s ← ofText text
  return s.relativeTo (directory path)

end Settings

end RecordQuery
