import QuoteBridge.Startup

/-!
# The program

Starts the feed and lets it run in real time, one line of output for each update.
-/

namespace QuoteBridge

/-- The environment variables that the program looks at. -/
def knownVariables : List String :=
  ["OTEL_SERVICE_NAME", "SQ_LOG_LEVEL", "RUST_LOG", "SQ_CONSOLE_OUTPUT", "SQ_JSON_LOGS",
    "KUBERNETES_SERVICE_HOST", "DOCKER_CONTAINER", "SQ_CONFIG", "SQ_BUS_URL", "SQ_QUEUE_NAME",
    "SQ_TOPIC_NAME", "SQ_MSG_POOL_SIZE", "SQ_RECOVERY_PAUSE_MS"]

def readEnvironment : IO Environment := do
  let values ← knownVariables.mapM (fun name => do
    let value ← IO.getEnv name
    return value.map (fun v => (name, v)))
  return ⟨values.filterMap id⟩

/-- Why a file could not be read. -/
def faultOf : IO.Error → ReadFault
  | .noFileOrDirectory _ _ _ => .notFound
  | .inappropriateType _ code _ => if code = 21 then .isDirectory else .notDirectory
  | .invalidArgument _ _ _ => .nameTooLong
  | e => .other (toString e)

def lookAt (path : String) : IO Config.FileContent := do
  try
    return .ok (← IO.FS.readBinFile path)
  catch e =>
    return .error (faultOf e)

/-- Draws a random number of some octets. -/
def drawNumber (octets : USize) : IO Nat := do
  let bytes ← IO.getRandomBytes octets
  return bytes.foldl (fun n b => n * 256 + b.toNat) 0

/-- Draws the epoch and the seed that a configuration leaves open. -/
def drawMissing (c : Config) : IO Config := do
  let epoch := UInt32.ofNat (← drawNumber 4)
  let seed := UInt64.ofNat (← drawNumber 8)
  return { c with
    generator := { c.generator with
      epoch := c.generator.epoch.or (some epoch)
      seed := c.generator.seed.or (some seed) } }

/-- One line about an update. -/
def updateLine (d : Delivery String) : String :=
  let shown (name : String) : String := (d.fields.get? name).getD "-"
  d.handle ++ " " ++ shown "item_status" ++ " " ++ shown "stock_name" ++ " " ++
    shown "last_price" ++ " " ++ shown "time"

/-- Runs a deployment in real time. -/
partial def run (begun : Nat) (d : Deployment (Broker Party)) : IO Unit := do
  let elapsed := (← IO.monoMsNow) - begun
  let d := d.sleep (elapsed - d.scene.now)
  for update in d.scene.deliveries do
    IO.println (updateLine update)
  let d := { d with scene := { d.scene with journal := #[] } }
  IO.sleep 10
  run begun d

end QuoteBridge

open QuoteBridge in
/-- Runs the program. -/
def main (args : List String) : IO UInt32 := do
  let env ← readEnvironment
  let content ←
    match Startup.configPath? args env with
    | none => pure (.error .notFound)
    | some path => lookAt path
  match Startup.prepare args env (fun _ => content) with
  | .error f =>
      IO.eprint f.report
      return UInt32.ofNat Startup.failureCode
  | .ok config =>
      match Startup.launch 0 (← drawMissing config) with
      | .error f =>
          IO.eprint f.report
          return UInt32.ofNat f.code
      | .ok feed =>
          run (← IO.monoMsNow) feed.deployment.settle
          return 0
