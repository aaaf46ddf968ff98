import QuoteBridge.Environment

/-!
# Telemetry settings

What the environment says about logging.
-/

namespace QuoteBridge

/-- Settings of logging. -/
structure Telemetry where
  serviceName : String
  logLevel : String
  consoleOutput : Bool
  jsonLogs : Bool
  deriving DecidableEq, Repr

namespace Telemetry

/-- Settings if nothing else is asked for. -/
def standard : Telemetry := ⟨"stockquotes-feed", "info", true, false⟩

/-- A text with its ASCII capitals made small; no other character has a small form in the words
that flags are made of. -/
def small (s : String) : String := s.map Char.toLower

/-- A flag; a text that is none stands for the usual value. -/
def readFlag (usual : Bool) (text : String) : Bool :=
  if small text ∈ ["true", "1", "yes"] then true
  else if small text ∈ ["false", "0", "no"] then false
  else usual

/-- Whether the program runs in a container. -/
def inContainer (env : Environment) : Bool :=
  env.has "KUBERNETES_SERVICE_HOST" || env.has "DOCKER_CONTAINER"

/-- Settings from the environment. -/
def ofEnvironment (env : Environment) : Telemetry where
  serviceName := (env.get? "OTEL_SERVICE_NAME").getD standard.serviceName
  logLevel := ((env.get? "SQ_LOG_LEVEL").or (env.get? "RUST_LOG")).getD standard.logLevel
  consoleOutput := ((env.get? "SQ_CONSOLE_OUTPUT").map (readFlag true)).getD true
  jsonLogs := ((env.get? "SQ_JSON_LOGS").map (readFlag false)).getD (inContainer env)

/-- Settings of one component. -/
def ofComponent (component : String) (env : Environment) : Telemetry :=
  { ofEnvironment env with
    serviceName := (ofEnvironment env).serviceName ++ "-" ++ component }

end Telemetry

end QuoteBridge
