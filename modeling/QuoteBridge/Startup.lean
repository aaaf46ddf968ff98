import QuoteBridge.Config.File
import QuoteBridge.Feed
import QuoteBridge.Telemetry.Filter

/-!
# Starting the program

The program starts with logging, then its configuration, then the feed.  The file of the
configuration is the first argument, or else named by the environment.

**Reports.**  A start that fails is reported by what failed and, below it, its causes: a single
cause is indented, several are numbered.  A program that is stopped tells the cause alone.
-/

namespace QuoteBridge

/-- A failed start: what failed, and its causes, the nearest first. -/
structure StartFailure where
  context : String
  causes : List String
  deriving DecidableEq, Repr

namespace StartFailure

/-- Lines behind the first one of a cause. -/
def furtherLines (indent : String) : List String → String
  | [] => ""
  | l :: ls => "\n" ++ indent ++ l ++ furtherLines indent ls

/-- The lines of a cause behind its mark. -/
def causeText (mark indent cause : String) : String :=
  match (Text.pieces '\n' cause.toList).map String.ofList with
  | [] => mark
  | l :: ls => mark ++ l ++ furtherLines indent ls

/-- A number with spaces before it up to five places. -/
def padded (n : Nat) : String :=
  String.ofList (List.replicate (5 - (Numeral.write n).length) ' ') ++ Numeral.write n

/-- Numbered causes. -/
def numbered (n : Nat) : List String → String
  | [] => ""
  | c :: cs => "\n" ++ causeText (padded n ++ ": ") "       " c ++ numbered (n + 1) cs

/-- The causes below what failed. -/
def causesText : List String → String
  | [] => ""
  | [c] => "\n\nCaused by:\n" ++ causeText "    " "    " c
  | cs => "\n\nCaused by:" ++ numbered 0 cs

def report (f : StartFailure) : String := "Error: " ++ f.context ++ causesText f.causes ++ "\n"

end StartFailure

namespace Startup

/-- Name of the program in its logs. -/
def component : String := "feed-runtime"

/-- The exit code of a failed start. -/
def failureCode : Nat := 1

/-- The exit code of a program that was stopped. -/
def stopCode : Nat := 101

/-- The causes of a configuration error: the error itself, and a read fault behind it. -/
def configCauses (e : ConfigError) : List String :=
  match e with
  | .unreadable _ fault => [e.message, fault.message]
  | _ => [e.message]

/-- The path of the configuration file. -/
def configPath? (args : List String) (env : Environment) : Option String :=
  match args with
  | path :: _ => some path
  | [] => env.get? "SQ_CONFIG"

def startLogging (env : Environment) : Except StartFailure Unit :=
  match LogFilter.checkStart env (.ofComponent component env) with
  | .ok () => .ok ()
  | .error e =>
      .error ⟨"Failed to initialise telemetry", ["Failed to initialize logging: " ++ e.message]⟩

def loadConfig (args : List String) (env : Environment) (look : String → Config.FileContent) :
    Except StartFailure Config :=
  match Config.load ((configPath? args env).map (fun p => (p, look p))) env with
  | .ok c => .ok c
  | .error e => .error ⟨"Failed to load configuration", configCauses e⟩

/-- Logging and configuration, in this order. -/
def prepare (args : List String) (env : Environment) (look : String → Config.FileContent) :
    Except StartFailure Config := do
  startLogging env
  loadConfig args env look

/-- Why there is no feed: the start failed, or the program was stopped on the way. -/
inductive LaunchFailure
  | failed (f : StartFailure)
  | stopped (cause : String)
  deriving DecidableEq, Repr

def LaunchFailure.report : LaunchFailure → String
  | .failed f => f.report
  | .stopped cause => cause ++ "\n"

def LaunchFailure.code : LaunchFailure → Nat
  | .failed _ => failureCode
  | .stopped _ => stopCode

/-- The feed of a configuration, started. -/
def launch (clock : Nat) (c : Config) : Except LaunchFailure Feed :=
  match Feed.build clock c with
  | .error (.pool .capacityOverflow) => .error (.stopped PoolError.capacityOverflow.message)
  | .error e => .error (.failed ⟨"Failed to build feed runtime", [e.message]⟩)
  | .ok f =>
      match f.start with
      | (.ok (), f') => .ok f'
      | (.error e, _) => .error (.failed ⟨"Failed to start feed runtime", [e.message]⟩)

end Startup

end QuoteBridge
