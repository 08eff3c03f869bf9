import Conclave.Api
import Conclave.Health
import Conclave.Notifier
import Conclave.SocketAddress

namespace Conclave.Startup

structure Settings where
  listenAddress : String
  notifierUrl : String
  config : Config
  defaults : Api.Defaults
  healthChecks : Bool
  endpoints : List (UInt64 × String)
  malformed : List String

inductive Error where
  | noNotifier
  | failure (f : Failure)
  | number (f : Text.NumberFault)
  | seed (id : UInt64) (e : Api.Error)
  | address
  deriving DecidableEq, Repr

def Error.message : Error → String
  | .noNotifier => "NOTIFIER_URL environment variable is required"
  | .failure f => f.message
  | .number f => f.message
  | .seed id e => s!"Cannot seed node-{id.toNat}: {e.message}"
  | .address => "invalid socket address syntax"

inductive Level where
  | info
  | warn
  deriving DecidableEq, Repr

structure LogLine where
  level : Level
  text : String
  deriving DecidableEq, Repr

abbrev Environment := List (String × String)

def Environment.get? (env : Environment) (name : String) : Option String :=
  (env.find? (·.1 = name)).map Prod.snd

def entries (text : String) : List String :=
  (Text.split ';' text).filter fun e => !(Text.trim e).isEmpty

def isHttpUrl (url : String) : Bool :=
  Text.startsWith "http://" url || Text.startsWith "https://" url

def endpointOf? (entry : String) : Option (UInt64 × String) :=
  match Text.cut? '=' (Text.trim entry) with
  | none => none
  | some (id, url) =>
      match Text.readUInt64 (Text.trim id) with
      | .error _ => none
      | .ok id =>
          let url := Text.trim url
          if 0 < id ∧ isHttpUrl url then some (id, url) else none

def readEndpoints (text : String) : List (UInt64 × String) := (entries text).filterMap endpointOf?

def malformedEntries (text : String) : List String :=
  (entries text).filter fun e => (endpointOf? e).isNone

def numberOr {α : Type} (read : String → Except Text.NumberFault α) (text : Option String)
    (default : String) : Except Error α :=
  match read (text.getD default) with
  | .ok n => .ok n
  | .error f => .error (.number f)

def secondsOr (text : Option String) (default : Duration) : Except Error Duration :=
  match text with
  | none => .ok default
  | some t =>
      match Text.readUInt64 t with
      | .ok n => .ok (.ofSeconds n)
      | .error f => .error (.number f)

def policyOr (text : Option String) (default : Policy) : Except Error Policy :=
  match text with
  | none => .ok default
  | some t =>
      match Policy.parse t with
      | .ok p => .ok p
      | .error f => .error (.failure f)

def readSettings (env : Environment) : Except Error Settings := do
  let some notifierUrl := env.get? "NOTIFIER_URL" | throw .noNotifier
  let policy ← policyOr (env.get? "SELECTION_POLICY") Config.standard.selectionPolicy
  let dispatch ← secondsOr (env.get? "DISPATCH_TIMEOUT_SECS") Config.standard.dispatchTimeout
  let result ← secondsOr (env.get? "RESULT_TIMEOUT_SECS") Config.standard.resultTimeout
  let config ←
    match { Config.standard with
      selectionPolicy := policy
      dispatchTimeout := dispatch
      resultTimeout := result }.build with
    | .ok c => pure c
    | .error f => throw (.failure f)
  let totalNodes ← numberOr Text.readUInt32 (env.get? "DEFAULT_TOTAL_NODES") "3"
  let threshold ← numberOr Text.readUInt32 (env.get? "DEFAULT_THRESHOLD") "2"
  let endpoints := (env.get? "NODE_ENDPOINTS").getD ""
  return {
    listenAddress := (env.get? "LISTEN_ADDR").getD "0.0.0.0:8080"
    notifierUrl := notifierUrl
    config := config
    defaults := ⟨totalNodes, threshold⟩
    healthChecks := env.get? "ENABLE_HEALTH_CHECKS" ≠ some "false"
    endpoints := readEndpoints endpoints
    malformed := malformedEntries endpoints }

def seed (now : Timestamp) : List (UInt64 × String) → Registry → Except Error Registry
  | [], r => .ok r
  | (id, url) :: rest, r =>
      match Api.registerNode now id url r with
      | .ok (_, r) => seed now rest r
      | .error e => .error (.seed id e)

def info (text : String) : LogLine := ⟨.info, text⟩

def warn (text : String) : LogLine := ⟨.warn, text⟩

structure Ready where
  app : App
  notifier : Notifier
  health : Option HealthChecker

def malformedLine (entry : String) : LogLine :=
  warn s!"Ignoring malformed NODE_ENDPOINTS entry {Text.quoted entry}"

def settingsLine (c : Config) : LogLine :=
  info s!"Selection policy: {c.selectionPolicy.name}, dispatch timeout: {c.dispatchTimeout.text}, result timeout: {c.resultTimeout.text}"

def startHealth (s : Settings) : Except Failure (Option HealthChecker × LogLine) :=
  if s.healthChecks then
    ({ HealthSettings.standard with hasRegistry := true }.ofConfig s.config).build.map fun h =>
      (some h, info "Health checker started")
  else .ok (none, warn "Health checks disabled - node status relies on heartbeats only")

def launch (now : Timestamp) (s : Settings) : List LogLine × Except Error Ready :=
  let opening := s.malformed.map malformedLine ++ [settingsLine s.config]
  match seed now s.endpoints .empty with
  | .error e => (opening, .error e)
  | .ok registry =>
      let opening := opening ++ [
        info s!"Node registry initialized with {registry.size} nodes",
        info s!"Ceremony notifications go to {s.notifierUrl}",
        info "Session reaper started"]
      match startHealth s with
      | .error f => (opening, .error (.failure f))
      | .ok (health, line) =>
          let opening := opening ++ [line]
          match SocketAddress.ofText? s.listenAddress with
          | none => (opening, .error .address)
          | some address =>
              (opening ++ [info s!"API server starting on {address.text}"],
                .ok ⟨.new (.new s.config registry) s.defaults, .new s.notifierUrl, health⟩)

def run (now : Timestamp) (env : Environment) : List LogLine × Except Error Ready :=
  let first := info "Starting threshold ceremony coordinator"
  match readSettings env with
  | .error e => ([first], .error e)
  | .ok s =>
      let (lines, result) := launch now s
      (first :: lines, result)

end Conclave.Startup
