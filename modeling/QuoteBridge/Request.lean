import QuoteBridge.Item

/-!
# Control requests

The consumer side asks the producer for updates by short texts:

* `reset`
* `subscribe<item>_<subscription id>`
* `unsubscribe<item>_<subscription id>`

Nothing stands between the command and the item; the first `_` separates the item from the id.
When both parts are bad, the id decides.
-/

namespace QuoteBridge

/-- Number given to one subscription by the consumer side. -/
abbrev SubscriptionId := UInt64

/-- Token of one continuous run of the producer. -/
abbrev Epoch := UInt32

def SubscriptionId.read (text : List Char) : Except NumeralFault SubscriptionId :=
  (Numeral.read UInt64.size text).map UInt64.ofNat

/-- A request to the producer. -/
inductive Request
  | reset
  | subscribe (item : Item) (id : SubscriptionId)
  | unsubscribe (item : Item) (id : SubscriptionId)
  deriving DecidableEq, Repr

/-- Why a text is no request. -/
inductive RequestError
  | unknownCommand (text : String)
  | missingSeparator (text : String)
  | invalidSubscriptionId (text : String)
  | invalidItem (cause : ItemError)
  deriving DecidableEq, Repr

def RequestError.message : RequestError → String
  | .unknownCommand t => "Unknown control request: " ++ t
  | .missingSeparator t => "Control request " ++ t ++ " has no '_' separator"
  | .invalidSubscriptionId t => "Control request " ++ t ++ " carries an invalid subscription id"
  | .invalidItem e => "Control request carries an invalid item: " ++ e.message

namespace Request

/-- The item of a request, if it has one. -/
def item? : Request → Option Item
  | .reset => none
  | .subscribe i _ => some i
  | .unsubscribe i _ => some i

/-- The subscription id of a request, if it has one. -/
def id? : Request → Option SubscriptionId
  | .reset => none
  | .subscribe _ n => some n
  | .unsubscribe _ n => some n

/-- The command word of a request. -/
def command : Request → String
  | .reset => "reset"
  | .subscribe _ _ => "subscribe"
  | .unsubscribe _ _ => "unsubscribe"

def text (r : Request) : String :=
  match r with
  | .reset => r.command
  | .subscribe i n => r.command ++ i.name ++ "_" ++ Numeral.write n.toNat
  | .unsubscribe i n => r.command ++ i.name ++ "_" ++ Numeral.write n.toNat

/-- Reads the item and the id behind a command. -/
def readTarget (text : String) (rest : List Char) :
    Except RequestError (Item × SubscriptionId) :=
  match Text.cutAt? '_' rest with
  | none => .error (.missingSeparator text)
  | some (item, id) =>
      match SubscriptionId.read id with
      | .error _ => .error (.invalidSubscriptionId text)
      | .ok n =>
          match Item.parse (String.ofList item) with
          | .error e => .error (.invalidItem e)
          | .ok i => .ok (i, n)

/-- Reads a request. -/
def parse (text : String) : Except RequestError Request :=
  if text = "reset" then .ok .reset
  else
    match Text.after? "subscribe".toList text.toList with
    | some rest => (readTarget text rest).map (fun t => .subscribe t.1 t.2)
    | none =>
        match Text.after? "unsubscribe".toList text.toList with
        | some rest => (readTarget text rest).map (fun t => .unsubscribe t.1 t.2)
        | none => .error (.unknownCommand text)

/-- The fault of a request that is no text, in words. -/
def notText : String := "Control request is not valid UTF-8"

end Request

end QuoteBridge
