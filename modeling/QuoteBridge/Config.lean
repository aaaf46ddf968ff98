import QuoteBridge.Adapter
import QuoteBridge.Environment
import QuoteBridge.Generator
import QuoteBridge.Text.Blank
import QuoteBridge.Text.Quoted

/-!
# Configuration

A configuration is read from a file, then changed by environment variables, then checked.

**Order of checks.**  The address of the bus, the names of its destinations, the pool size, the
tick interval, the heartbeat interval, and the items; the first fault decides.
-/

namespace QuoteBridge

/-- Settings of the bus. -/
structure BusSettings where
  url : String
  queueName : String
  topicName : String
  poolSize : Nat
  recoveryPause : Nat
  deriving DecidableEq, Repr

/-- Settings of the adapter alone. -/
structure AdapterSettings where
  watchdogInterval : Nat
  deriving DecidableEq, Repr

/-- Settings of the generator alone. -/
structure GeneratorSettings where
  heartbeatInterval : Nat
  tickInterval : Nat
  epoch : Option Epoch
  seed : Option UInt64
  deriving DecidableEq, Repr

/-- A configuration; `items` are subscribed to at the start. -/
structure Config where
  bus : BusSettings
  adapter : AdapterSettings
  generator : GeneratorSettings
  items : List String
  deriving DecidableEq, Repr

/-- Why a file could not be read. -/
inductive ReadFault
  | notFound
  | notDirectory
  | isDirectory
  | nameTooLong
  | nulByte
  | invalidText
  | other (text : String)
  deriving DecidableEq, Repr

def ReadFault.message : ReadFault → String
  | .notFound => "No such file or directory (os error 2)"
  | .notDirectory => "Not a directory (os error 20)"
  | .isDirectory => "Is a directory (os error 21)"
  | .nameTooLong => "File name too long (os error 36)"
  | .nulByte => "file name contained an unexpected NUL byte"
  | .invalidText => "stream did not contain valid UTF-8"
  | .other text => text

/-- Why there is no usable configuration. -/
inductive ConfigError
  | unreadable (path : String) (fault : ReadFault)
  | malformed
  | invalidValue (key value : String)
  | unsupportedBusUrl (url : String)
  | invalid (reason : String)
  deriving DecidableEq, Repr

def ConfigError.message : ConfigError → String
  | .unreadable path fault => "Cannot read configuration file " ++ path ++ ": " ++ fault.message
  | .malformed => "Malformed configuration"
  | .invalidValue key value => "Invalid value for " ++ key ++ ": " ++ Text.quote value
  | .unsupportedBusUrl url =>
      "Unsupported bus URL " ++ Text.quote url ++ ": only memory:// is available"
  | .invalid reason => "Invalid configuration: " ++ reason

namespace BusSettings

/-- Start of the address of a bus in memory. -/
def memoryScheme : String := "memory://"

/-- Name of the request destination, if nothing else is asked for. -/
def standardQueue : String := "stocksQueue"

/-- Name of the update destination, if nothing else is asked for. -/
def standardTopic : String := "stocksTopic"

/-- Settings if nothing else is asked for. -/
def standard : BusSettings :=
  ⟨memoryScheme ++ "local", standardQueue, standardTopic, defaultPoolBatch, defaultRecoveryPause⟩

end BusSettings

/-- Settings of the adapter if nothing else is asked for. -/
def AdapterSettings.standard : AdapterSettings := ⟨2000⟩

/-- Settings of the generator if nothing else is asked for. -/
def GeneratorSettings.standard : GeneratorSettings := ⟨1000, 100, none, none⟩

namespace Config

/-- The configuration if nothing else is asked for. -/
def standard : Config :=
  ⟨.standard, .standard, .standard, (Item.all.take 5).map Item.name⟩

/-- Changes the settings of the bus. -/
def mapBus (f : BusSettings → BusSettings) (c : Config) : Config := { c with bus := f c.bus }

section Overrides

/-- A natural number of 64 bits, with white space around it. -/
def readNumber (key value : String) : Except ConfigError Nat :=
  match Numeral.read UInt64.size (Text.trim value.toList) with
  | .ok n => .ok n
  | .error _ => .error (.invalidValue key value)

/-- Sets a text from a variable. -/
def overrideText (env : Environment) (key : String) (set : String → Config → Config)
    (c : Config) : Config :=
  match env.get? key with
  | none => c
  | some v => set v c

/-- Sets a number from a variable. -/
def overrideNumber (env : Environment) (key : String) (set : Nat → Config → Config)
    (c : Config) : Except ConfigError Config :=
  match env.get? key with
  | none => .ok c
  | some v => (readNumber key v).map (fun n => set n c)

/-- The configuration with the texts that the environment sets. -/
def overrideTexts (env : Environment) (c : Config) : Config :=
  overrideText env "SQ_TOPIC_NAME" (fun v => mapBus (fun b => { b with topicName := v }))
    (overrideText env "SQ_QUEUE_NAME" (fun v => mapBus (fun b => { b with queueName := v }))
      (overrideText env "SQ_BUS_URL" (fun v => mapBus (fun b => { b with url := v })) c))

/-- Sets the pool size from the environment. -/
def overridePoolSize (env : Environment) (c : Config) : Except ConfigError Config :=
  overrideNumber env "SQ_MSG_POOL_SIZE" (fun n => mapBus (fun b => { b with poolSize := n })) c

/-- Sets the recovery pause from the environment. -/
def overridePause (env : Environment) (c : Config) : Except ConfigError Config :=
  overrideNumber env "SQ_RECOVERY_PAUSE_MS"
    (fun n => mapBus (fun b => { b with recoveryPause := n })) c

/-- Applies the environment: the first fault, if there is one, and the configuration up to it. -/
def applyOverrides (env : Environment) (c : Config) : Except ConfigError Unit × Config :=
  let c := c.overrideTexts env
  match c.overridePoolSize env with
  | .error e => (.error e, c)
  | .ok c =>
      match c.overridePause env with
      | .error e => (.error e, c)
      | .ok c => (.ok (), c)

end Overrides

section Checks

/-- Checks the address of the bus. -/
def checkUrl (c : Config) : Except ConfigError Unit :=
  match Text.after? BusSettings.memoryScheme.toList c.bus.url.toList with
  | some _ => .ok ()
  | none => .error (.unsupportedBusUrl c.bus.url)

/-- Checks the names of the destinations. -/
def checkNames (c : Config) : Except ConfigError Unit :=
  if c.bus.queueName = "" ∨ c.bus.topicName = "" then
    .error (.invalid "queue and topic names must not be empty")
  else .ok ()

/-- Checks that a number is not zero. -/
def checkPositive (key : String) (n : Nat) : Except ConfigError Unit :=
  if n = 0 then .error (.invalidValue key "0") else .ok ()

/-- Checks the heartbeat interval. -/
def checkHeartbeat (c : Config) : Except ConfigError Unit :=
  let heartbeat := c.generator.heartbeatInterval
  let watchdog := c.adapter.watchdogInterval
  if 0 < heartbeat ∧ heartbeat < watchdog then .ok ()
  else
    .error (.invalid
      ("heartbeat interval (" ++ Numeral.write heartbeat ++
        " ms) must be positive and below the watchdog interval (" ++ Numeral.write watchdog ++
        " ms)"))

/-- Checks the names of the items. -/
def checkItems : List String → Except ConfigError Unit
  | [] => .ok ()
  | i :: is =>
      match Item.parse i with
      | .ok _ => checkItems is
      | .error _ => .error (.invalidValue "items" i)

/-- Checks a configuration. -/
def validate (c : Config) : Except ConfigError Unit := do
  c.checkUrl
  c.checkNames
  checkPositive "bus.msg_pool_size" c.bus.poolSize
  checkPositive "generator.tick_interval_ms" c.generator.tickInterval
  c.checkHeartbeat
  checkItems c.items

end Checks

def adapterConfig (c : Config) : AdapterConfig :=
  ⟨c.bus.recoveryPause, c.adapter.watchdogInterval, c.bus.poolSize⟩

def generatorConfig (c : Config) : GeneratorConfig :=
  ⟨c.generator.heartbeatInterval, c.generator.tickInterval, c.bus.recoveryPause, c.bus.poolSize,
    c.generator.epoch, c.generator.seed⟩

end Config

end QuoteBridge
