import RecordQuery.Http.Service
import RecordQuery.Settings.Basic

/-!
What the command line does: it brings a service up from its settings, and compiles filters without
one.
-/

namespace RecordQuery

inductive CommandError
  | settings (e : SettingsError)
  | metadata (path : String) (e : RegistryError)
  | danglingMetadata (e : RegistryError)
  | seed (path : String) (e : StoreError)
  | server (reason : String)
  | unknownDocument (document : String)
  | malformedFilter
  | compile (e : CompileError)

namespace CommandError

def code : CommandError → String
  | settings _ => "AQ_CLI_CONFIG_ERROR"
  | metadata _ _ | danglingMetadata _ | seed _ _ | server _ => "AQ_CLI_BOOT_FAILED"
  | unknownDocument _ | malformedFilter | compile _ => "AQ_CLI_COMPILE_ERROR"

/-- Wrong use and failures end a run with different codes. -/
def exitCode : CommandError → Nat
  | metadata _ _ | danglingMetadata _ | seed _ _ | server _ => 1
  | _ => 2

def message : CommandError → String
  | settings e => e.message
  | metadata path e => "failed to load metadata " ++ path ++ ": " ++ e.message
  | danglingMetadata e => "invalid metadata: " ++ e.message
  | seed path e => "failed to load seed " ++ path ++ ": " ++ e.message
  | server reason => "server failed: " ++ reason
  | unknownDocument document => "[" ++ document ++ "] Document not found"
  | malformedFilter => "invalid filter JSON: malformed filter"
  | compile e => e.message

def text (e : CommandError) : String := e.code ++ ": " ++ e.message

end CommandError

/-- The content of each file, or why it cannot be read. -/
abbrev Files := String → Except String String

namespace Files

def settings (files : Files) (path : String) : Except CommandError Settings :=
  (Settings.ofFile path (files path)).mapError .settings

/-- The registry of the settings; its lookups have to lead somewhere. -/
def registry (files : Files) (s : Settings) : Except CommandError Registry := do
  let text ← (files s.metadataPath).mapError fun reason =>
    CommandError.metadata s.metadataPath (.unreadable reason)
  let registry ← (Registry.ofText text).mapError (.metadata s.metadataPath)
  registry.validate.mapError .danglingMetadata
  return registry

/-- The records to start with; none without a file. -/
def memory (files : Files) (s : Settings) : Except CommandError Memory :=
  match s.seedPath with
  | none => .ok []
  | some path => do
    let text ← (files path).mapError fun reason =>
      CommandError.seed path (.unreadableSeed path reason)
    (Memory.ofText text).mapError (.seed path)

end Files

namespace Command

/-- The caller of an identifier: as stored, else without any attributes. -/
def callerOf (memory : Memory) (id : String) : User :=
  match memory.findById Resolver.userDocument id with
  | none => .new id
  | some record =>
    match User.ofRecord record with
    | .ok user => user
    | .error _ => .new id

/-- The store's query that a filter compiles to for a caller. -/
def compile (files : Files) (now : Instant) (path document filter caller : String) :
    Except CommandError Value := do
  let settings ← files.settings path
  let registry ← files.registry settings
  let memory ← files.memory settings
  match registry.document? document with
  | none => .error (.unknownDocument document)
  | some found =>
    match (Value.readVerbatim? filter).bind Filter.ofValue? with
    | none => .error .malformedFilter
    | some filter =>
      (filter.compileQuery ⟨registry, callerOf memory caller, now⟩ found).mapError .compile

/-- Callers by fixed tokens, and by signed ones if there is a secret. -/
def resolver (s : CallerSettings) (clock : Int) (memory : Memory) : Resolver :=
  let fixed := Resolver.ofTable (s.tokens.map fun (token, id) => (token, callerOf memory id))
  match s.secret with
  | none => fixed
  | some secret =>
    .chain [fixed, .ofTokens (CallerToken.settings secret) clock memory.store]

/-- Where the settings have aggregations run. What starts a program is left to `spawn`. -/
def backend (s : AggregationSettings) (spawn : ProcessSettings → Backend) (program : String) :
    Backend :=
  match s.backend with
  | .inProcess => .inProcess
  | .overWire => spawn (s.process program)

/-- Brings the service up. -/
def boot (files : Files) (now : Instant) (spawn : ProcessSettings → Backend)
    (program : String) (s : Settings) : Except CommandError Service := do
  let registry ← files.registry s
  let memory ← files.memory s
  return {
    aggregation := {
      engine := {
        registry
        store := memory.store
        resolver := resolver s.caller now.seconds memory
        settings := s.query
        now }
      backend := backend s.aggregation spawn program
      maxRecords := s.aggregation.maxRecords }
    origins := s.server.origins }

end Command

end RecordQuery
