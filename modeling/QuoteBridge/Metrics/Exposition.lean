import QuoteBridge.Metrics
import QuoteBridge.Text.Numeral

/-!
# Text form of the metrics

Counters stand in families.  Families are ordered by name; a family has a line with its
description, a line with its type, and one line for each of its counters.  The labels of a counter
are ordered by name and the counters of a family by the values of their labels.

A family without labels always appears; one with labels appears once a counter of it is touched.
-/

namespace QuoteBridge

inductive Family
  | feedDown
  | heartbeatsReceived
  | epochChanges
  | requestsDispatched
  | requestsFailed
  | delivered
  | discarded
  | envelopes
  | attempts
  | heartbeatsPublished
  | requestsHandled
  | updatesPublished
  deriving DecidableEq, Repr

namespace Family

/-- All families in the order of their names. -/
def all : List Family :=
  [.feedDown, .heartbeatsReceived, .epochChanges, .requestsDispatched, .requestsFailed,
    .delivered, .discarded, .envelopes, .attempts, .heartbeatsPublished, .requestsHandled,
    .updatesPublished]

def name : Family → String
  | .feedDown => "sq_adapter_feed_down_events_total"
  | .heartbeatsReceived => "sq_adapter_heartbeats_received_total"
  | .epochChanges => "sq_adapter_producer_epoch_changes_total"
  | .requestsDispatched => "sq_adapter_requests_dispatched_total"
  | .requestsFailed => "sq_adapter_requests_failed_total"
  | .delivered => "sq_adapter_updates_delivered_total"
  | .discarded => "sq_adapter_updates_discarded_total"
  | .envelopes => "sq_bus_pool_envelopes_allocated_total"
  | .attempts => "sq_bus_reconnect_attempts_total"
  | .heartbeatsPublished => "sq_generator_heartbeats_published_total"
  | .requestsHandled => "sq_generator_requests_handled_total"
  | .updatesPublished => "sq_generator_updates_published_total"

/-- Description of a family. -/
def help : Family → String
  | .feedDown => "Feed degradations"
  | .heartbeatsReceived => "Heartbeats received from the generator"
  | .epochChanges => "Number of new producer epochs observed"
  | .requestsDispatched => "Control requests sent to the generator"
  | .requestsFailed => "Control requests dropped after a failed send"
  | .delivered => "Updates forwarded to the consumer"
  | .discarded => "Inbound updates dropped"
  | .envelopes => "Envelopes created by message pools"
  | .attempts => "Bus connection attempts"
  | .heartbeatsPublished => "Heartbeats published by the generator"
  | .requestsHandled => "Control requests received"
  | .updatesPublished => "Field updates published by the generator"

/-- The only counter of a family without labels. -/
def single? : Family → Option Counter
  | .heartbeatsReceived => some .heartbeatsReceived
  | .epochChanges => some .epochChanges
  | .requestsDispatched => some .requestsDispatched
  | .requestsFailed => some .requestsFailed
  | .heartbeatsPublished => some .heartbeatsPublished
  | .updatesPublished => some .updatesPublished
  | _ => none

end Family

def DeliveryKind.label : DeliveryKind → String
  | .snapshot => "snapshot"
  | .delta => "delta"
  | .inactive => "inactive"

def DiscardReason.label : DiscardReason → String
  | .unsubscribed => "unsubscribed"
  | .superseded => "superseded"
  | .newEpoch => "new_epoch"
  | .malformed => "malformed"

def DownCause.label : DownCause → String
  | .bus => "bus"
  | .producer => "producer"

def HandledCommand.label : HandledCommand → String
  | .reset => "reset"
  | .subscribe => "subscribe"
  | .unsubscribe => "unsubscribe"
  | .invalid => "invalid"

namespace Counter

def family : Counter → Family
  | .attempts _ _ => .attempts
  | .envelopes _ => .envelopes
  | .heartbeatsReceived => .heartbeatsReceived
  | .epochChanges => .epochChanges
  | .delivered _ => .delivered
  | .discarded _ => .discarded
  | .requestsDispatched => .requestsDispatched
  | .requestsFailed => .requestsFailed
  | .feedDown _ => .feedDown
  | .updatesPublished => .updatesPublished
  | .heartbeatsPublished => .heartbeatsPublished
  | .requestsHandled _ => .requestsHandled

/-- Labels of a counter in the order of their names. -/
def labels : Counter → List (String × String)
  | .attempts side connected =>
      [("outcome", if connected then "connected" else "failed"), ("side", side.label)]
  | .envelopes pool => [("pool", pool)]
  | .delivered k => [("kind", k.label)]
  | .discarded r => [("reason", r.label)]
  | .feedDown c => [("cause", c.label)]
  | .requestsHandled c => [("command", c.label)]
  | _ => []

end Counter

namespace Metrics

/-- A character of a label value. -/
def escapeLabel (c : Char) : String :=
  if c = '\\' then "\\\\"
  else if c = '"' then "\\\""
  else if c = '\n' then "\\n"
  else c.toString

/-- A label with its value. -/
def labelText (l : String × String) : String :=
  l.1 ++ "=\"" ++ String.join (l.2.toList.map escapeLabel) ++ "\""

/-- Labels between braces. -/
def labelsText : List (String × String) → String
  | [] => ""
  | ls => "\x7b" ++ String.intercalate "," (ls.map labelText) ++ "\x7d"

def sampleLine (c : Counter) (n : Nat) : String :=
  c.family.name ++ labelsText c.labels ++ " " ++ Numeral.write n

/-- Whether the label values of one counter come before those of another, or are the same. -/
def samplesLe (a b : Counter × Nat) : Bool :=
  compare (a.1.labels.map (·.2)) (b.1.labels.map (·.2)) ≠ .gt

/-- Counters of one family that are shown, in order. -/
def samples (m : Metrics) (f : Family) : List (Counter × Nat) :=
  match f.single? with
  | some c => [(c, m.count c)]
  | none => (m.counts.filter (fun e => e.1.family = f)).mergeSort samplesLe

/-- Lines of the counters of one family. -/
def sampleLines (m : Metrics) (f : Family) : List String :=
  (m.samples f).map (fun e => sampleLine e.1 e.2)

def familyLines (m : Metrics) (f : Family) : List String :=
  match m.sampleLines f with
  | [] => []
  | ls => ("# HELP " ++ f.name ++ " " ++ f.help) :: ("# TYPE " ++ f.name ++ " counter") :: ls

def lines (m : Metrics) : List String := Family.all.flatMap m.familyLines

/-- The lines of the counters alone. -/
def counterLines (m : Metrics) : List String := Family.all.flatMap m.sampleLines

end Metrics

end QuoteBridge
