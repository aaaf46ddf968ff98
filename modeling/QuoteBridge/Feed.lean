import QuoteBridge.Config
import QuoteBridge.Deployment

/-!
# The whole feed

A feed is a generator and an adapter over one broker in memory, as a configuration says.  At the
start it subscribes to the items of the configuration, with their spellings as handles.
-/

namespace QuoteBridge

/-- Why a feed is not built or not started. -/
inductive FeedError
  | config (cause : ConfigError)
  | pool (cause : PoolError)
  | subscription (cause : SubscriptionError)
  deriving DecidableEq, Repr

def FeedError.message : FeedError → String
  | .config e => e.message
  | .pool e => "Message pool: " ++ e.message
  | .subscription e => "Subscription failed: " ++ e.message

/-- A feed and its configuration. -/
structure Feed where
  config : Config
  deployment : Deployment (Broker Party)

namespace Feed

/-- Name of the only generator. -/
def generatorName : String := "generator"

/-- Puts pool errors among the feed errors. -/
def ofPool {α : Type} : Except PoolError α → Except FeedError α
  | .ok a => .ok a
  | .error e => .error (.pool e)

/-- Builds a feed; nothing connects before the start. -/
def build (clock : Nat) (c : Config) : Except FeedError Feed :=
  match c.validate with
  | .error e => .error (.config e)
  | .ok () => do
      let broker : Broker Party :=
        ((Broker.create Broker.defaultCapacity).declare c.bus.queueName).declare c.bus.topicName
      let d ← ofPool ((Deployment.create clock broker).addGenerator generatorName c.generatorConfig)
      let d := d.join (.generator generatorName) .generator c.bus.queueName c.bus.topicName
      let d ← ofPool (d.addAdapter c.adapterConfig)
      return ⟨c, d.join .adapter .adapter c.bus.queueName c.bus.topicName⟩

/-- Subscribes to items in turn. -/
def subscribeAll : List String → Deployment (Broker Party) →
    Except FeedError Unit × Deployment (Broker Party)
  | [], d => (.ok (), d)
  | i :: is, d =>
      match d.subscribe i i with
      | (.ok _, d') => subscribeAll is d'
      | (.error e, d') => (.error (.subscription e), d')

/-- Starts both sides and subscribes to the items of the configuration. -/
def start (f : Feed) : Except FeedError Unit × Feed :=
  let r := subscribeAll f.config.items
    (f.deployment.startGenerator generatorName).startAdapter
  (r.1, { f with deployment := r.2 })

/-- Shuts both sides down. -/
def shutdown (f : Feed) : Feed :=
  { f with deployment := f.deployment.shutdownAdapter.shutdownGenerator generatorName }

def generator? (f : Feed) : Option Generator := f.deployment.generator? generatorName

def status (f : Feed) : FeedStatus :=
  match f.deployment.adapter with
  | some a => a.status
  | none => .down

end Feed

end QuoteBridge
