import QuoteBridge.Market.Random
import QuoteBridge.Message
import QuoteBridge.Text.FixedPoint

/-!
# Quotes

A quote is what is known about one stock.  A trade moves the last price by at most one hundredth,
keeps it within half of the reference price on either side, and makes a new bid and ask around it.
-/

namespace QuoteBridge

/-- A price: the bits of a double. -/
structure Price where
  bits : UInt64
  deriving DecidableEq, Repr

namespace Price

/-- The price as a double. -/
def toFloat (p : Price) : Float := Float.ofBits p.bits

/-- A double as a price. -/
def ofFloat (x : Float) : Price := ⟨x.toBits⟩

/-- A number of cents as a price. -/
def ofCents (n : Nat) : Price := ofFloat (n.toFloat / 100.0)

/-- A price with two decimal places. -/
def text (p : Price) : String := (DoubleParts.ofBits p.bits).fixedPoint

end Price

/-- What is known about one stock. -/
structure Quote where
  name : String
  refPrice : Price
  openPrice : Price
  lastPrice : Price
  low : Price
  high : Price
  bid : Price
  ask : Price
  bidQuantity : Nat
  askQuantity : Nat
  time : String
  deriving DecidableEq, Repr

namespace Quote

/-- Largest relative move of one trade. -/
def maxStep : Float := 0.01

/-- Largest relative distance from the reference price. -/
def maxDrift : Float := 0.5

/-- Seconds in a day. -/
def daySeconds : Nat := 86400

/-- Hours, minutes and seconds of the day. -/
def timeText (seconds : Nat) : String :=
  let s := seconds % daySeconds
  Numeral.writePadded (s / 3600) ++ ":" ++ Numeral.writePadded (s % 3600 / 60) ++ ":" ++
    Numeral.writePadded (s % 60)

/-- A quote that was not traded yet. -/
def create (name : String) (p : Price) : Quote :=
  ⟨name, p, p, p, p, p, p, p, 0, 0, timeText 0⟩

/-- Rounds to cents; half a cent goes away from zero. -/
def roundCents (x : Float) : Float := (x * 100.0).round / 100.0

/-- Keeps a number between two bounds. -/
def clamp (low high x : Float) : Float := if x < low then low else if x > high then high else x

/-- The smaller of two numbers, or the one that is a number. -/
def smaller (x y : Float) : Float :=
  if x.isNaN then y else if y.isNaN then x else if y < x then y else x

/-- The larger of two numbers, or the one that is a number. -/
def larger (x y : Float) : Float :=
  if x.isNaN then y else if y.isNaN then x else if x < y then y else x

variable {σ : Type}

/-- One trade. -/
def advance (src : WordSource σ) (seconds : Nat) (q : Quote) (s : σ) : Quote × σ :=
  let step := src.rangeReal (-maxStep) maxStep s
  let ref := q.refPrice.toFloat
  let last := roundCents
    (clamp (ref * (1.0 - maxDrift)) (ref * (1.0 + maxDrift)) (q.lastPrice.toFloat * (1.0 + step.1)))
  let share := src.rangeReal 0.0005 0.002 step.2
  let spread := larger (roundCents (last * share.1)) 0.01
  let bidLots := src.range32 1 50 share.2
  let askLots := src.range32 1 50 bidLots.2
  ({ q with
      lastPrice := .ofFloat last
      low := .ofFloat (smaller q.low.toFloat last)
      high := .ofFloat (larger q.high.toFloat last)
      bid := .ofFloat (roundCents (last - spread))
      ask := .ofFloat (roundCents (last + spread))
      bidQuantity := bidLots.1 * 100
      askQuantity := askLots.1 * 100
      time := timeText seconds },
    askLots.2)

/-- Change of the last price against the reference price, in hundredths. -/
def percentChange (q : Quote) : Price :=
  .ofFloat ((q.lastPrice.toFloat - q.refPrice.toFloat) / q.refPrice.toFloat * 100.0)

def fields (q : Quote) : Fields :=
  .ofList
    [("stock_name", q.name),
     ("item_status", "active"),
     ("time", q.time),
     ("last_price", q.lastPrice.text),
     ("ask", q.ask.text),
     ("bid", q.bid.text),
     ("bid_quantity", Numeral.write q.bidQuantity),
     ("ask_quantity", Numeral.write q.askQuantity),
     ("pct_change", q.percentChange.text),
     ("min", q.low.text),
     ("max", q.high.text),
     ("ref_price", q.refPrice.text),
     ("open_price", q.openPrice.text)]

end Quote

end QuoteBridge
