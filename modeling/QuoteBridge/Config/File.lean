import QuoteBridge.Config
import QuoteBridge.Toml.Reader

/-!
# Configuration files

A configuration file is a TOML document.  A section is a table without unknown keys, or an array
that holds its values in order; what is missing keeps its usual value.
-/

namespace QuoteBridge
namespace Config

open Toml (Value)

def valueOf? (es : List (String × Value)) (key : String) : Option Value :=
  (es.find? (fun e => e.1 = key)).map (·.2)

/-- The values of a section under the given keys. -/
def section? (keys : List String) : Value → Option (String → Option Value)
  | .table es => if es.all (fun e => keys.contains e.1) then some (valueOf? es) else none
  | .array vs => some (valueOf? (keys.zip vs))
  | _ => none

/-- Reads a value that may be missing. -/
def orElse {α : Type} (usual : α) (read : Value → Option α) : Option Value → Option α
  | none => some usual
  | some v => read v

def readText : Value → Option String
  | .string s => some s
  | _ => none

/-- A natural number below a bound. -/
def readNatural (bound : Nat) : Value → Option Nat
  | .integer n => if 0 ≤ n ∧ n < bound then some n.toNat else none
  | _ => none

def readAllTexts : List Value → Option (List String)
  | [] => some []
  | v :: vs =>
      match readText v, readAllTexts vs with
      | some s, some ss => some (s :: ss)
      | _, _ => none

/-- An array of texts. -/
def readTexts : Value → Option (List String)
  | .array vs => readAllTexts vs
  | _ => none

/-- The section about the bus. -/
def readBus (v : Value) : Option BusSettings := do
  let get ← section? ["url", "queue_name", "topic_name", "msg_pool_size", "recovery_pause_ms"] v
  let usual := BusSettings.standard
  return {
    url := ← orElse usual.url readText (get "url")
    queueName := ← orElse usual.queueName readText (get "queue_name")
    topicName := ← orElse usual.topicName readText (get "topic_name")
    poolSize := ← orElse usual.poolSize (readNatural UInt64.size) (get "msg_pool_size")
    recoveryPause := ← orElse usual.recoveryPause (readNatural UInt64.size)
      (get "recovery_pause_ms") }

/-- The section about the adapter. -/
def readAdapter (v : Value) : Option AdapterSettings := do
  let get ← section? ["watchdog_interval_ms"] v
  return {
    watchdogInterval := ← orElse AdapterSettings.standard.watchdogInterval
      (readNatural UInt64.size)
      (get "watchdog_interval_ms") }

/-- The section about the generator. -/
def readGenerator (v : Value) : Option GeneratorSettings := do
  let get ← section? ["heartbeat_interval_ms", "tick_interval_ms", "epoch", "seed"] v
  let usual := GeneratorSettings.standard
  return {
    heartbeatInterval := ← orElse usual.heartbeatInterval (readNatural UInt64.size)
      (get "heartbeat_interval_ms")
    tickInterval := ← orElse usual.tickInterval (readNatural UInt64.size) (get "tick_interval_ms")
    epoch := ← orElse none
      (fun v => (readNatural UInt32.size v).map (fun n => some (UInt32.ofNat n))) (get "epoch")
    seed := ← orElse none
      (fun v => (readNatural UInt64.size v).map (fun n => some (UInt64.ofNat n))) (get "seed") }

/-- A whole configuration. -/
def ofValue (v : Value) : Option Config := do
  let get ← section? ["bus", "adapter", "generator", "items"] v
  let usual := Config.standard
  return {
    bus := ← orElse usual.bus readBus (get "bus")
    adapter := ← orElse usual.adapter readAdapter (get "adapter")
    generator := ← orElse usual.generator readGenerator (get "generator")
    items := ← orElse usual.items readTexts (get "items") }

/-- Reads the text of a configuration file. -/
def ofText (text : String) : Except ConfigError Config :=
  match (Toml.read? text).bind ofValue with
  | some c => .ok c
  | none => .error .malformed

/-- What a look at a file gives: its octets, or a fault. -/
abbrev FileContent := Except ReadFault ByteArray

/-- Reads a configuration file with a given content. -/
def ofFile (path : String) (content : FileContent) : Except ConfigError Config :=
  match content with
  | .error f => .error (.unreadable path f)
  | .ok bytes =>
      match String.fromUTF8? bytes with
      | none => .error (.unreadable path .invalidText)
      | some text => ofText text

/-- The usual configuration or that of a file, changed by the environment and checked. -/
def load (file : Option (String × FileContent)) (env : Environment) : Except ConfigError Config := do
  let c ←
    match file with
    | none => .ok Config.standard
    | some f => ofFile f.1 f.2
  let changed := c.applyOverrides env
  changed.1
  changed.2.validate
  return changed.2

end Config
end QuoteBridge
