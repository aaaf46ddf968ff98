import QuoteBridge.Market.Quote

/-!
# The simulated market

The market has one quote for each item and trades a random item at each tick.  Its draws come from
one stream, first the reference prices by item number and then the trades; nothing else draws from
that stream.
-/

namespace QuoteBridge

/-- Names of the stocks by item number. -/
def stockNames : List String :=
  ["Anduct", "Ations Europe", "Bagies Consulting", "BAY Corporation", "CON Consulting",
    "Corcor PLC", "CVS Asia", "Datio PLC", "Dentems", "ELE Manufacturing", "Exacktum Systems",
    "Finapple", "Finance Bank", "Flosmaping", "Garcel", "Hapepix", "Hogni", "Ibertrust",
    "IMSI Ltd", "Jaktum Corp", "Jackowsky", "Jenbond", "Lomio", "Mapicos", "Meowpet", "Mossup",
    "Novatrip", "Pragmatic", "Qesa", "Zeolith"]

/-- Name of the stock with a given place in the list. -/
def stockName (index : Nat) : String := stockNames.getD index ""

/-- The quotes of all items, and the stream that draws come from. -/
structure Market where
  quote : Vector Quote 30
  stream : ChaCha

/-- What the market tells its listener. -/
structure MarketEvent where
  item : Item
  fields : Fields
  isSnapshot : Bool

namespace Market

/-- Lowest reference price in cents. -/
def minCents : Nat := 500

/-- Highest reference price in cents. -/
def maxCents : Nat := 5000

/-- Some reference prices in a row. -/
def drawPrices : Nat → ChaCha → List Price × ChaCha
  | 0, s => ([], s)
  | n + 1, s =>
      let cents := ChaCha.source.range32 minCents maxCents s
      let rest := drawPrices n cents.2
      (.ofCents cents.1 :: rest.1, rest.2)

def ofSeed (seed : UInt64) : Market :=
  let drawn := drawPrices 30 (.ofSeed seed)
  ⟨Vector.ofFn (fun i => .create (stockName i) (drawn.1.getD i ⟨0⟩)), drawn.2⟩

def quoteOf (m : Market) (i : Item) : Quote := m.quote[i.index]

/-- The current fields of an item. -/
def values (m : Market) (i : Item) : Fields := (m.quoteOf i).fields

/-- The item that a draw from 0 to 29 stands for. -/
def drawnItem (n : Nat) : Item := ⟨Fin.ofNat 30 n⟩

/-- Trades one random item: the item, and the market afterwards. -/
def tick (seconds : Nat) (m : Market) : Item × Market :=
  let drawn := ChaCha.source.range64 0 29 m.stream
  let item := drawnItem drawn.1
  let traded := (m.quoteOf item).advance ChaCha.source seconds drawn.2
  (item, ⟨m.quote.set item.index traded.1, traded.2⟩)

/-- What a tick tells the listener about its item. -/
def tickEvent (m : Market) (i : Item) : MarketEvent := ⟨i, m.values i, false⟩

/-- What the listener is told when it asks for an item. -/
def currentEvent (m : Market) (i : Item) : MarketEvent := ⟨i, m.values i, true⟩

end Market

end QuoteBridge
