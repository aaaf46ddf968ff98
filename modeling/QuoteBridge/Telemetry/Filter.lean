import QuoteBridge.Pattern
import QuoteBridge.Telemetry
import QuoteBridge.Text.Alphanumeric
import QuoteBridge.Text.Blank
import QuoteBridge.Text.Numeral
import QuoteBridge.Text.Split

/-!
# Log filters

A log filter is a list of directives with commas between them.  A directive is a level, or a target
and a span with a field, followed by `=` and a level.  The field may have a value: a number, or a
pattern.

A machine reads the characters of a directive without the white space around it.  What stands
between two of its places is cut from the whole directive.
-/

namespace QuoteBridge
namespace LogFilter

/-- Why a directive is refused. -/
inductive Fault
  | directive
  | level
  | field (f : PatternFault)
  deriving DecidableEq, Repr

def Fault.message : Fault → String
  | .directive => "invalid filter directive"
  | .level =>
      "error parsing level filter: expected one of \"off\", \"error\", \"warn\", \"info\", \"debug\", " ++
        "\"trace\", or a number 0-5"
  | .field f => "invalid field filter: " ++ f.message

section Cuts

/-- The rest of a text behind a number of octets. -/
def behind (count : Nat) : List Char → List Char
  | [] => []
  | c :: cs => if count = 0 then c :: cs else behind (count - c.utf8Size) cs

/-- The start of a text up to a number of octets. -/
def upTo (count : Nat) : List Char → List Char
  | [] => []
  | c :: cs => if count = 0 then [] else c :: upTo (count - c.utf8Size) cs

/-- The part of a text between two numbers of octets. -/
def between (start stop : Nat) (text : List Char) : List Char :=
  upTo (stop - start) (behind start text)

end Cuts

section Fields

/-- Whether a text is nothing, or the exponent of a number. -/
def isExponent : List Char → Bool
  | [] => true
  | c :: cs =>
      let digits :=
        match cs with
        | '+' :: rest => rest
        | '-' :: rest => rest
        | _ => cs
      (c = 'e' || c = 'E') && digits ≠ [] && digits.all Char.isDigit

/-- Whether a text is a decimal number without a sign.  It needs a digit before the point or behind
it. -/
def isDecimal (cs : List Char) : Bool :=
  let rest := cs.dropWhile Char.isDigit
  match rest with
  | '.' :: more =>
      (rest ≠ cs || (more.takeWhile Char.isDigit) ≠ []) && isExponent (more.dropWhile Char.isDigit)
  | _ => rest ≠ cs && isExponent rest

/-- Whether a text is a number.  Infinity is one too, and what is not a number. -/
def isNumber (cs : List Char) : Bool :=
  let body :=
    match cs with
    | '+' :: rest => rest
    | '-' :: rest => rest
    | _ => cs
  isDecimal body || Telemetry.small (String.ofList body) ∈ ["inf", "infinity", "nan"]

/-- Checks a field.  Its value stands between the first two equals signs; one that is not a number
is a pattern. -/
def checkField (cs : List Char) : Except Fault Unit :=
  match Text.pieces '=' cs with
  | _ :: value :: _ =>
      if isNumber value then .ok () else (Pattern.check value).mapError Fault.field
  | _ => .ok ()

end Fields

/-- What is being read.  `start` is the number of octets before it. -/
inductive Part
  | nothing
  | levelOrTarget
  | span
  | field (start : Nat)
  | fields
  | target
  | level (start : Nat)
  deriving DecidableEq, Repr

/-- Whether a directive may begin with a character. -/
def mayBegin (c : Char) : Bool := c = '-' || c = ':' || c = '_' || Text.isAlphanumeric c

/-- Reads one character of a directive; `here` is the number of octets before it. -/
def step (text : List Char) (here : Nat) (p : Part) (c : Char) : Except Fault Part :=
  match p with
  | .nothing =>
      if c = '[' then .ok .span
      else if mayBegin c then .ok .levelOrTarget
      else .error .directive
  | .levelOrTarget =>
      if c = '=' then .ok (.level (here + 1))
      else if c = '[' then .ok .span
      else .ok .levelOrTarget
  | .span =>
      if c = ']' then .ok .target
      else if c = '\x7b' then .ok (.field (here + 1))
      else .ok .span
  | .field start =>
      if c ≠ '\x7d' then .ok (.field start)
      else if start = here then .error .directive
      else (checkField (between start here text)).map (fun _ => .fields)
  | .fields => if c = ']' then .ok .target else .error .directive
  | .target => if c = '=' then .ok (.level (here + 1)) else .error .directive
  | .level start => .ok (.level start)

/-- Reads the characters that follow. -/
def run (text : List Char) (here : Nat) (p : Part) : List Char → Except Fault Part
  | [] => .ok p
  | c :: cs =>
      match step text here p c with
      | .error f => .error f
      | .ok p' => run text (here + c.utf8Size) p' cs

/-- Whether a text is a level. -/
def isLevel (cs : List Char) : Bool :=
  match Numeral.read UInt64.size cs with
  | .ok n => n ≤ 5
  | .error _ =>
      Telemetry.small (String.ofList cs) ∈ ["", "error", "warn", "info", "debug", "trace", "off"]

/-- Checks a directive.  A field and a level are looked for behind as many octets of the whole text
as stand before them in the text without its white space. -/
def checkDirective (text : List Char) : Except Fault Unit :=
  match run text 0 .nothing (Text.trim text) with
  | .error f => .error f
  | .ok .levelOrTarget => .ok ()
  | .ok .target => .ok ()
  | .ok (.level start) =>
      match behind start text with
      | [] => .ok ()
      | level => if isLevel level then .ok () else .error .level
  | .ok _ => .error .directive

/-- Checks directives; the first fault decides. -/
def checkAll : List (List Char) → Except Fault Unit
  | [] => .ok ()
  | d :: ds => do
      checkDirective d
      checkAll ds

/-- Checks a filter; empty directives are left out. -/
def check (text : String) : Except Fault Unit :=
  checkAll ((Text.pieces ',' text.toList).filter (fun d => d ≠ []))

/-- Checks the filter that logging starts with: that of the environment if it is one, else that of
the settings. -/
def checkStart (env : Environment) (t : Telemetry) : Except Fault Unit :=
  match env.get? "RUST_LOG" with
  | none => check t.logLevel
  | some text =>
      match check text with
      | .ok () => .ok ()
      | .error _ => check t.logLevel

end LogFilter
end QuoteBridge
