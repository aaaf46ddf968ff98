import QuoteBridge.Market

/-!
# Trading floors

A floor is a market with a clock and a place for one listener.  The listener is told every trade,
and the current quote of an item on request; an event is lost if nobody stands there.  Who comes
takes the place of who was there before, and who goes leaves it to nobody.

**Results.**
* `market_sendCurrent`, `market_tick`: only ticks move the market, and they do not depend on the
  listener.
-/

namespace QuoteBridge

/-- A market, the clock that its trades read, whether somebody listens, and what was told so far,
oldest first. -/
structure Floor where
  market : Market
  clock : Nat
  listening : Bool
  told : Array MarketEvent

namespace Floor

/-- The floor of a seed, without a listener. -/
def ofSeed (seed : UInt64) (clock : Nat) : Floor := ⟨.ofSeed seed, clock, false, #[]⟩

/-- Tells the listener, if there is one. -/
def tell (e : MarketEvent) (f : Floor) : Floor :=
  if f.listening then { f with told := f.told.push e } else f

/-- A listener comes. -/
def join (f : Floor) : Floor := { f with listening := true }

/-- The listener goes, or one comes that is gone at once. -/
def leave (f : Floor) : Floor := { f with listening := false }

def setClock (seconds : Nat) (f : Floor) : Floor := { f with clock := seconds }

/-- Trades once; gives the item. -/
def tick (f : Floor) : Item × Floor :=
  let traded := f.market.tick f.clock
  (traded.1, { f with market := traded.2 }.tell (traded.2.tickEvent traded.1))

/-- Trades some times; gives the items. -/
def tickAll : Nat → Floor → List Item × Floor
  | 0, f => ([], f)
  | n + 1, f =>
      let one := f.tick
      let rest := tickAll n one.2
      (one.1 :: rest.1, rest.2)

/-- Tells the listener the current quote of an item. -/
def sendCurrent (i : Item) (f : Floor) : Floor := f.tell (f.market.currentEvent i)

@[simp] theorem market_tell (e : MarketEvent) (f : Floor) : (f.tell e).market = f.market := by
  unfold tell
  split <;> rfl

@[simp] theorem market_sendCurrent (i : Item) (f : Floor) :
    (f.sendCurrent i).market = f.market :=
  f.market_tell (f.market.currentEvent i)

theorem market_tick (f : Floor) : f.tick.2.market = (f.market.tick f.clock).2 := by
  simp [tick]

end Floor

end QuoteBridge
