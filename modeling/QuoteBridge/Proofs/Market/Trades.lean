import QuoteBridge.Market.Floor
import QuoteBridge.Proofs.Generator.Snapshots

/-!
# The trades of a market

Which items a market trades, and at which quotes, is settled by its seed and by what the clock
shows at its ticks.  Nobody who listens or asks has a part in it.

**Venues.**  A venue is anything with a market, of whose acts some are ticks of that market and all
others leave it alone.  A floor is one, with listeners that come and go and ask for quotes; a
generator is another one, with its requests, its supervisors and any bus.

**Listening.**  A tick tells its listener one event, and so does a request for a quote.  Reading the
quotes gives no new floor, so it is no act.

**Results.**
* `Venue.trades_eq`: the trades of a venue are those of its market at the same readings of the
  clock.
* `Floor.venue`, `Generator.venue`: nothing but a tick moves the market.
* `trades_settled`: two markets of one seed trade alike as long as their clocks agree.
-/

namespace QuoteBridge

/-- A trade: what the clock showed, the item, and the quotes of all items afterwards. -/
structure Trade where
  clock : Nat
  item : Item
  quote : Vector Quote 30

namespace Market

/-- What a tick trades. -/
def trade (seconds : Nat) (m : Market) : Trade :=
  ⟨seconds, (m.tick seconds).1, (m.tick seconds).2.quote⟩

/-- The trades of ticks in a row, by what the clock shows at each. -/
def trades : List Nat → Market → List Trade
  | [], _ => []
  | c :: cs, m => m.trade c :: trades cs (m.tick c).2

theorem take_trades (cs : List Nat) (m : Market) (n : Nat) :
    (m.trades cs).take n = m.trades (cs.take n) := by
  induction cs generalizing m n with
  | nil => simp [trades]
  | cons c cs ih =>
      cases n with
      | zero => rfl
      | succ n => simp [trades, ih]

end Market

section Venues

/-- A system with states `σ` and acts `α` that has a market.  An act that trades is a tick of the
market, and every other act leaves the market alone. -/
structure Venue (σ α : Type) where
  market : σ → Market
  perform : α → σ → σ
  trade? : α → σ → Option Trade
  ticks : ∀ {act x t}, trade? act x = some t →
    t = (market x).trade t.clock ∧ market (perform act x) = ((market x).tick t.clock).2
  quiet : ∀ {act x}, trade? act x = none → market (perform act x) = market x

namespace Venue

variable {σ α : Type} (v : Venue σ α)

/-- What acts performed in turn trade. -/
def trades : List α → σ → List Trade
  | [], _ => []
  | act :: acts, x => (v.trade? act x).toList ++ trades acts (v.perform act x)

/-- The trades of a venue are those of its market at the same readings of the clock. -/
theorem trades_eq (acts : List α) (x : σ) :
    v.trades acts x = (v.market x).trades ((v.trades acts x).map Trade.clock) := by
  induction acts generalizing x with
  | nil => rfl
  | cons act acts ih =>
      cases ht : v.trade? act x with
      | none =>
          simp only [trades, ht, Option.toList_none, List.nil_append]
          rw [← v.quiet ht]
          exact ih _
      | some t =>
          obtain ⟨htrade, hmarket⟩ := v.ticks ht
          simp only [trades, ht, Option.toList_some, List.cons_append, List.nil_append,
            List.map_cons, Market.trades]
          rw [← htrade, ← hmarket, ← ih]

end Venue

end Venues

namespace Floor

/-- Something that happens to a floor. -/
inductive Act
  | join
  | leave
  | setClock (seconds : Nat)
  | tick
  | send (i : Item)

def perform : Act → Floor → Floor
  | .join, f => f.join
  | .leave, f => f.leave
  | .setClock seconds, f => f.setClock seconds
  | .tick, f => f.tick.2
  | .send i, f => f.sendCurrent i

/-- What a tick of a floor trades. -/
def trade (f : Floor) : Trade := ⟨f.clock, f.tick.1, f.tick.2.market.quote⟩

theorem trade_eq (f : Floor) : f.trade = f.market.trade f.clock := by
  rw [trade, market_tick]
  rfl

/-- A floor moves its market by its ticks, at its clock. -/
def venue : Venue Floor Act where
  market f := f.market
  perform := perform
  trade? act f := match act with
    | .tick => some f.trade
    | _ => none
  ticks {act f t} h := by
    cases act <;> cases h
    exact ⟨f.trade_eq, f.market_tick⟩
  quiet {act f} h := by
    cases act with
    | tick => cases h
    | send i => exact f.market_sendCurrent i
    | join => rfl
    | leave => rfl
    | setClock seconds => rfl

/-- Nothing but what was told changes. -/
theorem tell_eq (e : MarketEvent) (f : Floor) :
    f.tell e = { f with told := f.told ++ if f.listening then #[e] else #[] } := by
  cases f with
  | mk market clock listening told => cases listening <;> simp [tell]

/-- A tick: it changes the quote of its item at most, and tells the listener the new values of this
item, if there is a listener. -/
structure Ticks (f : Floor) (i : Item) (f' : Floor) : Prop where
  others : ∀ j, j ≠ i → f'.market.quoteOf j = f.market.quoteOf j
  told : f'.told = f.told ++ if f.listening then #[⟨i, f'.market.values i, false⟩] else #[]
  rest : f' = { f with market := f'.market, told := f'.told }

/-- A request for an item: it changes nothing, and tells the listener the values of this item, if
there is a listener. -/
structure Sends (f : Floor) (i : Item) (f' : Floor) : Prop where
  told : f'.told = f.told ++ if f.listening then #[⟨i, f.market.values i, true⟩] else #[]
  rest : f' = { f with told := f'.told }

theorem ticks_tick (f : Floor) : f.Ticks f.tick.1 f.tick.2 := by
  have htick : f.tick.2 = { f with
      market := (f.market.tick f.clock).2
      told := f.told ++ if f.listening then
        #[(f.market.tick f.clock).2.tickEvent (f.market.tick f.clock).1] else #[] } := tell_eq _ _
  rw [htick]
  exact ⟨fun j hj => Generator.quoteOf_tick_of_ne hj, rfl, rfl⟩

theorem sends_sendCurrent (f : Floor) (i : Item) : f.Sends i (f.sendCurrent i) := by
  rw [sendCurrent, tell_eq]
  exact ⟨rfl, rfl⟩

end Floor

namespace Generator

variable {β H : Type}

section Markets

variable {link : Link β} {g : Generator} {s : Scene β H}

theorem market_publishHeartbeat : (publishHeartbeat link g s).1.market = g.market := by
  obtain ⟨o, m, h⟩ := publishHeartbeat_through link g s
  rw [h]

/-- What a generator hears of its market does not move it, whatever becomes of the update. -/
theorem market_onEvent (e : MarketEvent) : (onEvent link e g s).1.market = g.market := by
  obtain ⟨o, m, h⟩ := onEvent_through link e g s
  rw [h]
  rfl

theorem market_hear (e : MarketEvent) : (hear link e g s).1.market = g.market := by
  unfold hear
  split
  · exact market_onEvent e
  · rfl

theorem market_tick : (tick link g s).2.1.market = (g.market.tick s.clock).2 :=
  market_hear _

/-- No request moves the market. -/
theorem market_receive (p : Payload) : (receive link p g s).1.market = g.market := by
  unfold receive
  cases readRequest p with
  | none => rfl
  | some r =>
      cases r with
      | reset => rfl
      | subscribe i n => exact market_hear _
      | unsubscribe i n => rfl

theorem market_stopIfGone (g : Generator) : g.stopIfGone.market = g.market := by
  unfold stopIfGone
  split <;> rfl

theorem market_superviseFrom {r : Generator × Scene β H} {done vs : List Supervisor}
    (h : superviseFrom link g s done vs = some r) : r.1.market = g.market := by
  obtain ⟨v, others, left, w, rfl, rfl⟩ := superviseFrom_turn h
  exact Supervisor.turn_induction (dialer link)
    (P := fun w : Generator × Scene β H => w.1.market = g.market) (fun w h => h) (fun w h => h)
    (fun w h => (market_stopIfGone w.1).trans h) (fun ok w h => h) (fun w h => h) s.now v rfl

end Markets

/-- What a tick of a generator's market trades. -/
def trade (link : Link β) (g : Generator) (s : Scene β H) : Trade :=
  ⟨s.clock, (tick link g s).1, (tick link g s).2.1.market.quote⟩

theorem trade_eq (link : Link β) (g : Generator) (s : Scene β H) :
    trade link g s = g.market.trade s.clock := by
  rw [trade, market_tick]
  rfl

/-- A generator moves its market by the ticks of its task, and by those that it is told to make. -/
def venue (link : Link β) : Venue (Generator × Scene (Taped β) H) (Act β) where
  market x := x.1.market
  perform := perform link
  trade? act x := match act with
    | .tick => some (trade link.taped x.1 x.2)
    | .trade => (postpone? x.2.now x.1.config.tickInterval x.1.ticks).map
        (fun ts => trade link.taped { x.1 with ticks := ts } x.2)
    | _ => none
  ticks {act x t} h := by
    cases act with
    | tick =>
        cases h
        exact ⟨trade_eq link.taped x.1 x.2, market_tick⟩
    | trade =>
        obtain ⟨ts, hts, rfl⟩ := Option.map_eq_some_iff.mp h
        simp only [perform, hts]
        exact ⟨trade_eq link.taped { x.1 with ticks := ts } x.2, market_tick⟩
    | _ => cases h
  quiet {act x} h := by
    cases act with
    | receive p => exact market_receive p
    | event e => exact market_onEvent e
    | tick => cases h
    | dial place =>
        simp only [perform]
        cases hd : superviseFrom link.taped x.1 x.2 (x.1.supervisors.take place)
            (x.1.supervisors.drop place) with
        | none => rfl
        | some r => exact market_superviseFrom hd
    | beat =>
        simp only [perform]
        split
        · exact market_publishHeartbeat
        · rfl
    | trade =>
        have hts := Option.map_eq_none_iff.mp h
        simp only [perform, hts]
    | release => exact market_stopIfGone _
    | _ => rfl

end Generator

section Settled

/-- The trades of a run whose market has the seed: of a floor, or of a generator at any bus. -/
inductive Traded (seed : UInt64) : List Trade → Prop
  | floor (clock : Nat) (acts : List Floor.Act) :
      Traded seed (Floor.venue.trades acts (.ofSeed seed clock))
  | generator {β H : Type} (link : Link β) {config : GeneratorConfig} {g : Generator}
      (hg : Generator.create config = .ok g) (hs : config.seed = some seed) (clock : Nat) (b : β)
      (acts : List (Generator.Act β)) :
      Traded seed ((Generator.venue (H := H) link).trades acts (Generator.fresh g clock b))

theorem Traded.eq {seed : UInt64} {ts : List Trade} (h : Traded seed ts) :
    ts = (Market.ofSeed seed).trades (ts.map Trade.clock) := by
  cases h with
  | floor clock acts => exact Floor.venue.trades_eq acts _
  | @generator β H link config g hg hs clock b acts =>
      have hmarket : g.market = .ofSeed seed := by
        obtain ⟨o, rfl⟩ := Generator.eq_of_create hg
        simp [hs]
      have heq := (Generator.venue link).trades_eq acts (Generator.fresh (H := H) g clock b)
      rwa [show (Generator.venue link).market (Generator.fresh (H := H) g clock b) = .ofSeed seed
        from hmarket] at heq

/-- Two runs of markets with one seed trade the same items at the same quotes as long as their
clocks agree at the ticks, whatever else happens in either.  A tick changes the quote of its item at
most, a request for an item nothing, and each tells one event at most. -/
theorem trades_settled (seed : UInt64) :
    (∀ {ts ts' : List Trade} (n : Nat), Traded seed ts → Traded seed ts' →
      (ts.map Trade.clock).take n = (ts'.map Trade.clock).take n → ts.take n = ts'.take n) ∧
    (∀ f : Floor, f.Ticks f.tick.1 f.tick.2) ∧
    ∀ (f : Floor) (i : Item), f.Sends i (f.sendCurrent i) := by
  refine ⟨fun {ts ts'} n h h' hclock => ?_, Floor.ticks_tick, Floor.sends_sendCurrent⟩
  rw [h.eq, h'.eq, Market.take_trades, Market.take_trades, hclock]

/-- Ticks with listeners that come and go and ask for quotes. -/
def demoFloorActs : List Floor.Act :=
  [.tick, .join, .send Generator.demoItem, .leave, .setClock 6, .send Generator.demoItem, .tick]

/-- Ticks with requests and events at a bus that fails, and then by the task. -/
def demoGeneratorActs : List (Generator.Act Recorder) :=
  .tick :: Generator.demoActs ++ [.lose, .setClock 6, .start, .trade]

/-- The floor and the generator trade alike. -/
theorem trades_settled_demo :
    let ts := Floor.venue.trades demoFloorActs (.ofSeed 42 5)
    let ts' := (Generator.venue (H := Unit) Recorder.link).trades demoGeneratorActs
      (Generator.fresh Generator.demo 5 (Recorder.create []))
    ts.take 2 = ts'.take 2 ∧ ts.map Trade.clock = [5, 6] := by
  refine ⟨(trades_settled 42).1 2 (.floor 5 demoFloorActs)
    (.generator Recorder.link Generator.create_demo rfl 5 (Recorder.create []) demoGeneratorActs)
    ?_, rfl⟩
  decide +kernel

end Settled

end QuoteBridge
